/-
Numeric hosts. A host whose last label looks like a number is an IPv4 address
or nothing: one to four parts in decimal, octal or hexadecimal, of which the
last fills all the bytes that the others leave. An IPv6 address is eight
16-bit pieces, of which one run of zeros may be left out and the last two may be
written as an IPv4 address.

Both are printed in one way only: four decimal bytes, and lower-case
hexadecimal pieces with the first longest run of two or more zeros left out.
-/
import ReadAhead.Url.Percent
import ReadAhead.Text.Blank
import ReadAhead.Text.Parts

set_option autoImplicit false

namespace ReadAhead.Url

open Text

/-! ## IPv4 -/

namespace Ipv4

def isDecimal (c : Char) : Bool := '0' ≤ c && c ≤ '9'

/-- A run of digits of the given base. -/
def digits? (base : Nat) (cs : List Char) : Option Nat :=
  cs.foldlM (fun acc c => do
    let d ← hexValue? c
    if d < base then some (base * acc + d) else none) 0

/-- One part of an address: hexadecimal after `0x`, octal after `0`, or decimal. -/
def part? : List Char → Option Nat
  | [] => none
  | '0' :: 'x' :: cs => digits? 16 cs
  | '0' :: 'X' :: cs => digits? 16 cs
  | '0' :: c :: cs => digits? 8 (c :: cs)
  | cs => digits? 10 cs

/-- The labels of a host without the empty one behind a final dot. -/
def labels (host : List Char) : List (List Char) :=
  let parts := splitOn (· = '.') host
  if parts.getLast? = some [] then parts.dropLast else parts

/-- The host must be an address: its last label is a number. -/
def isExpected (host : List Char) : Bool :=
  match (labels host).getLast? with
  | none => false
  | some label => (!label.isEmpty && label.all isDecimal) || (part? label).isSome

/-- The bytes in front, most significant first, as one number. -/
def leading : List Nat → Nat → Nat
  | [], _ => 0
  | n :: rest, place => n <<< (8 * place) + leading rest (place - 1)

/-- The address of a host that must be one. -/
def parse? (host : List Char) : Option Nat := do
  let parts := labels host
  guard (parts.length ≤ 4)
  let numbers ← parts.mapM part?
  let last ← numbers.getLast?
  let front := numbers.dropLast
  guard (front.all (· ≤ 255))
  guard (last < 1 <<< (8 * (4 - front.length)))
  return leading front 3 + last

/-- Four decimal bytes. -/
def print (address : Nat) : List Char :=
  joinWith ['.'] ([3, 2, 1, 0].map fun place =>
    (toString (address >>> (8 * place) % 256)).toList)

end Ipv4

/-! ## IPv6 -/

namespace Ipv6

/-- What was read so far: the pieces, and how many stand before the gap. The
gap itself counts as one piece of zero. -/
structure Pieces where
  pieces : List Nat
  gap : Option Nat

/-- Up to four hexadecimal digits. -/
def hexPiece : Nat → List Char → Nat → Nat → Nat × Nat × List Char
  | 0, cs, value, count => (value, count, cs)
  | _ + 1, [], value, count => (value, count, [])
  | fuel + 1, c :: cs, value, count =>
    match hexValue? c with
    | some d => hexPiece fuel cs (16 * value + d) (count + 1)
    | none => (value, count, c :: cs)

/-- A decimal byte without leading zeros. -/
def byte? (cs : List Char) : Option Nat :=
  if cs.isEmpty || 3 < cs.length || !cs.all Ipv4.isDecimal then none
  else if cs.length ≠ 1 ∧ cs.head? = some '0' then none
  else (Ipv4.digits? 10 cs).filter (· ≤ 255)

/-- An address in four decimal bytes as two pieces. -/
def dotted? (cs : List Char) : Option (List Nat) := do
  let bytes ← (splitOn (· = '.') cs).mapM byte?
  match bytes with
  | [a, b, c, d] => some [256 * a + b, 256 * c + d]
  | _ => none

/-- Reads pieces to the end of the text. -/
def pieces? : Nat → List Char → Pieces → Option Pieces
  | _, [], read => some read
  | 0, _ :: _, _ => none
  | fuel + 1, c :: cs, read =>
    if read.pieces.length = 8 then none
    else if c = ':' then
      if read.gap.isSome then none
      else pieces? fuel cs
        { pieces := read.pieces ++ [0], gap := some (read.pieces.length + 1) }
    else
      let (value, count, rest) := hexPiece 4 (c :: cs) 0 0
      match rest with
      | '.' :: _ =>
        if count = 0 ∨ 6 < read.pieces.length then none
        else (dotted? (c :: cs)).map fun two => { read with pieces := read.pieces ++ two }
      | ':' :: [] => none
      | ':' :: more => pieces? fuel more { read with pieces := read.pieces ++ [value] }
      | [] => some { read with pieces := read.pieces ++ [value] }
      | _ => none

/-- The eight pieces, with zeros where the gap is. -/
def fill? (read : Pieces) : Option (List Nat) :=
  match read.gap with
  | none => if read.pieces.length = 8 then some read.pieces else none
  | some at? =>
    if read.pieces.length ≤ 8 then
      some (read.pieces.take at? ++ List.replicate (8 - read.pieces.length) 0 ++
        read.pieces.drop at?)
    else none

/-- The address between the brackets. A leading colon must be half of a gap. -/
def parse? (cs : List Char) : Option (List Nat) :=
  match cs with
  | ':' :: ':' :: rest =>
    (pieces? rest.length rest { pieces := [0], gap := some 1 }).bind fill?
  | ':' :: _ => none
  | _ => (pieces? cs.length cs { pieces := [], gap := none }).bind fill?

/-- How many zeros a list of pieces starts with. -/
def zeros (pieces : List Nat) : Nat := (pieces.takeWhile (· = 0)).length

/-- Where the first longest run of two or more zeros starts, and its length. -/
def longestGap (pieces : List Nat) : Option (Nat × Nat) :=
  (List.range pieces.length).foldl (fun best i =>
    let run := zeros (pieces.drop i)
    if run < 2 then best
    else match best with
      | some (_, longest) => if longest < run then some (i, run) else best
      | none => some (i, run)) none

def hexText (n : Nat) : List Char := Nat.toDigits 16 n

/-- The address as it stands between brackets. -/
def print (pieces : List Nat) : List Char :=
  match longestGap pieces with
  | none => joinWith [':'] (pieces.map hexText)
  | some (start, run) =>
    joinWith [':'] ((pieces.take start).map hexText) ++ [':', ':'] ++
      joinWith [':'] ((pieces.drop (start + run)).map hexText)

end Ipv6

end ReadAhead.Url
