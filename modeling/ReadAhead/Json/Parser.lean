/-
Reading JSON. The grammar is the strict one: no comments, no trailing commas, no
leading zeros, nothing behind the document but white space. Nesting has no limit.

Inside a string the reader decides only what is needed to find its end -- a
control character or an unknown escape is an error, a blank spot is not.

The recursion is bounded by fuel. Each value, each item and each member takes at
least one character off the text, so twice the length is always enough.
-/
import ReadAhead.Json.Basic
import ReadAhead.Url.Percent

set_option autoImplicit false

namespace ReadAhead.Json

open Text (Utf8.Spots)

/-! ## White space and words -/

def isSpace : Option Char → Bool
  | some c => c = ' ' || c = '\n' || c = '\t' || c = '\r'
  | none => false

/-- The text behind the white space in front of it. -/
def skip (s : Utf8.Spots) : Utf8.Spots := s.dropWhile isSpace

/-- The text behind a word it must start with. -/
def word? : List Char → Utf8.Spots → Option Utf8.Spots
  | [], s => some s
  | c :: cs, some d :: s => if c = d then word? cs s else none
  | _ :: _, _ => none

/-! ## Numbers -/

/-- The digits in front, and what follows them. -/
def digitRun : Utf8.Spots → List Char × Utf8.Spots
  | some c :: s =>
    if c.isDigit then
      let (ds, rest) := digitRun s
      (c :: ds, rest)
    else ([], some c :: s)
  | s => ([], s)

/-- A zero, or digits that do not start with one. -/
def integer? (s : Utf8.Spots) : Option (List Char × Utf8.Spots) :=
  match digitRun s with
  | ([], _) => none
  | ('0' :: _ :: _, _) => none
  | run => some run

/-- A point and digits, or nothing. -/
def fraction? : Utf8.Spots → Option (List Char × Utf8.Spots)
  | some '.' :: s =>
    match digitRun s with
    | ([], _) => none
    | (ds, rest) => some ('.' :: ds, rest)
  | s => some ([], s)

/-- A sign, or nothing. -/
def sign : Utf8.Spots → List Char × Utf8.Spots
  | some '+' :: s => (['+'], s)
  | some '-' :: s => (['-'], s)
  | s => ([], s)

/-- The exponent behind its letter. -/
def power? (letter : Char) (s : Utf8.Spots) : Option (List Char × Utf8.Spots) :=
  let (plusMinus, s) := sign s
  match digitRun s with
  | ([], _) => none
  | (ds, rest) => some (letter :: plusMinus ++ ds, rest)

/-- An exponent, or nothing. -/
def exponent? : Utf8.Spots → Option (List Char × Utf8.Spots)
  | some 'e' :: s => power? 'e' s
  | some 'E' :: s => power? 'E' s
  | s => some ([], s)

/-- A number without its sign. -/
def unsigned? (s : Utf8.Spots) : Option (List Char × Utf8.Spots) := do
  let (whole, s) ← integer? s
  let (fraction, s) ← fraction? s
  let (power, s) ← exponent? s
  return (whole ++ fraction ++ power, s)

/-- A number. -/
def number? : Utf8.Spots → Option (List Char × Utf8.Spots)
  | some '-' :: s => (unsigned? s).map fun (ds, rest) => ('-' :: ds, rest)
  | s => unsigned? s

/-! ## Strings -/

/-- A piece of a string: a character or blank spot, or a 16-bit unit from an escape. -/
inductive Piece where
  | spot (c : Option Char)
  | unit (n : Nat)
  deriving DecidableEq, Repr

/-- The character of a short escape. -/
def escape? : Char → Option Char
  | '"' => some '"'
  | '\\' => some '\\'
  | '/' => some '/'
  | 'b' => some '\x08'
  | 'f' => some '\x0c'
  | 'n' => some '\n'
  | 'r' => some '\r'
  | 't' => some '\t'
  | _ => none

/-- The unit of four hexadecimal digits. -/
def unit? (a b c d : Option Char) : Option Nat := do
  let a ← a.bind Text.hexValue?
  let b ← b.bind Text.hexValue?
  let c ← c.bind Text.hexValue?
  let d ← d.bind Text.hexValue?
  return 4096 * a + 256 * b + 16 * c + d

/-- The pieces up to the closing quotation mark, and what follows it. -/
def pieces? : Utf8.Spots → Option (List Piece × Utf8.Spots)
  | [] => none
  | some '"' :: rest => some ([], rest)
  | some '\\' :: some 'u' :: a :: b :: c :: d :: rest => do
    let n ← unit? a b c d
    let (ps, rest) ← pieces? rest
    return (.unit n :: ps, rest)
  | some '\\' :: some e :: rest => do
    let c ← escape? e
    let (ps, rest) ← pieces? rest
    return (.spot (some c) :: ps, rest)
  | some '\\' :: _ => none
  | some c :: rest => do
    if c.toNat < 0x20 then none
    let (ps, rest) ← pieces? rest
    return (.spot (some c) :: ps, rest)
  | none :: rest => do
    let (ps, rest) ← pieces? rest
    return (.spot none :: ps, rest)

def isHigh (n : Nat) : Bool := 0xD800 ≤ n && n ≤ 0xDBFF

def isLow (n : Nat) : Bool := 0xDC00 ≤ n && n ≤ 0xDFFF

/-- The character of a unit on its own; half a pair has none. -/
def lone (n : Nat) : Option Char := if isHigh n || isLow n then none else some (Char.ofNat n)

/-- The character of a pair. -/
def paired (high low : Nat) : Char :=
  Char.ofNat (0x10000 + (high - 0xD800) * 0x400 + (low - 0xDC00))

/-- The text of a string: each pair of units that belong together becomes one character. -/
def assemble : List Piece → Utf8.Spots
  | .unit high :: .unit low :: rest =>
    if isHigh high && isLow low then some (paired high low) :: assemble rest
    else lone high :: assemble (.unit low :: rest)
  | .unit n :: rest => lone n :: assemble rest
  | .spot c :: rest => c :: assemble rest
  | [] => []

/-- A string behind its opening quotation mark. -/
def quoted? (s : Utf8.Spots) : Option (Utf8.Spots × Utf8.Spots) :=
  (pieces? s).map fun (ps, rest) => (assemble ps, rest)

/-! ## Values -/

mutual

/-- One value, and what follows it. -/
def value? : Nat → Utf8.Spots → Option (Json × Utf8.Spots)
  | 0, _ => none
  | fuel + 1, s =>
    match skip s with
    | some 'n' :: rest => (word? "ull".toList rest).map fun rest => (.null, rest)
    | some 't' :: rest => (word? "rue".toList rest).map fun rest => (.bool true, rest)
    | some 'f' :: rest => (word? "alse".toList rest).map fun rest => (.bool false, rest)
    | some '"' :: rest => (quoted? rest).map fun (text, rest) => (.string text, rest)
    | some '[' :: rest =>
      match skip rest with
      | some ']' :: rest => some (.array [], rest)
      | rest => (items? fuel rest).map fun (items, rest) => (.array items, rest)
    | some '{' :: rest =>
      match skip rest with
      | some '}' :: rest => some (.object [], rest)
      | rest => (members? fuel rest).map fun (members, rest) => (.object members, rest)
    | rest => (number? rest).map fun (digits, rest) => (.number digits, rest)

/-- The items of an array up to its closing bracket. -/
def items? : Nat → Utf8.Spots → Option (List Json × Utf8.Spots)
  | 0, _ => none
  | fuel + 1, s => do
    let (item, rest) ← value? fuel s
    match skip rest with
    | some ',' :: rest =>
      let (items, rest) ← items? fuel rest
      return (item :: items, rest)
    | some ']' :: rest => return ([item], rest)
    | _ => none

/-- The members of an object up to its closing brace. -/
def members? : Nat → Utf8.Spots → Option (List (Utf8.Spots × Json) × Utf8.Spots)
  | 0, _ => none
  | fuel + 1, s =>
    match skip s with
    | some '"' :: rest => do
      let (name, rest) ← quoted? rest
      match skip rest with
      | some ':' :: rest =>
        let (value, rest) ← value? fuel rest
        match skip rest with
        | some ',' :: rest =>
          let (members, rest) ← members? fuel rest
          return ((name, value) :: members, rest)
        | some '}' :: rest => return ([(name, value)], rest)
        | _ => none
      | _ => none
    | _ => none

end

/-- A whole document: one value between white space. -/
def parse? (s : Utf8.Spots) : Option Json := do
  let (value, rest) ← value? (2 * s.length + 2) s
  guard (skip rest).isEmpty
  return value

/-- A document in a string. -/
def ofString? (s : String) : Option Json := parse? (text s)

/-- A document in the bytes of a file. -/
def ofBytes? (bytes : List UInt8) : Option Json := parse? (Text.Utf8.decode bytes)

end ReadAhead.Json
