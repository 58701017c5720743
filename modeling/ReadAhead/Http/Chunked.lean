/-
The chunked coding of a body: each chunk is its length in hexadecimal, a line
break, its bytes and another line break, and a chunk without bytes is the last.
So the end of a body is written into it, and a body that breaks off is known to
be incomplete.

Behind a length there may be an extension, which says nothing, and behind the
last chunk there may be fields, which nobody reads. An endless extension would
keep a reader busy for ever, so all of them together have a limit.

The reader gives what it got up to the place where it had to stop, and why it
stopped there.
-/
import ReadAhead.Http.Reading
import ReadAhead.Text.Hexadecimal

set_option autoImplicit false

namespace ReadAhead.Http

/-- How what has arrived of a body ends. -/
inductive BodyEnd where
  | complete
  /-- There may be more of it. -/
  | short
  /-- It goes on with what cannot be read. -/
  | spoiled
  deriving DecidableEq, Repr

namespace Chunked

open Reading

/-! ## Writing -/

/-- A length in hexadecimal digits. -/
def lengthText (n : Nat) : Bytes := (Nat.toDigits 16 n).map fun c => c.toNat.toUInt8

/-- A chunk as it is sent. -/
def frame (chunk : Bytes) : Bytes := lengthText chunk.length ++ lineBreak ++ chunk ++ lineBreak

/-- A body in chunks of at most `size` bytes. -/
def encode (size : Nat) (body : Bytes) : Bytes :=
  ((body.pieces size).filter (!·.isEmpty)).flatMap frame ++ frame []

/-! ## Lengths -/

/-- Value of a hexadecimal digit. -/
def digit? (b : UInt8) : Option Nat := Text.hexValue? (Char.ofNat b.toNat)

/-- Length that every chunk stays below. -/
def lengthLimit : Nat := UInt64.size

/-- Value of a run of hexadecimal digits behind `value`. -/
def digits (value : Nat) : Bytes → Reading Nat
  | [] => .short
  | b :: rest =>
    match digit? b with
    | some d => if lengthLimit ≤ 16 * value + d then .invalid else digits (16 * value + d) rest
    | none => .done value (b :: rest)

/-- Bytes that all extensions of a body together stay below. -/
def extensionLimit : Nat := 16384

/-- An extension up to its line break, if less than `left` bytes are taken; what
is left is the result. A line feed alone does not end it. -/
def extension : Nat → Bytes → Reading Nat
  | _, [] => .short
  | left, b :: rest =>
    if b = carriageReturn then (exactly [lineFeed] rest).andThen fun _ rest => .done left rest
    else if b = lineFeed ∨ left ≤ 1 then .invalid
    else extension (left - 1) rest

/-- The rest of a line behind its digits. -/
def lengthEnd (left : Nat) (wire : Bytes) : Reading Nat :=
  match wire.dropWhile (fun b => b = 32 || b = 9) with
  | 59 :: rest => extension left rest
  | rest => (exactly lineBreak rest).andThen fun _ rest => .done left rest

/-- The line in front of a chunk: its length, and what is left for extensions. -/
def lengthLine (left : Nat) (wire : Bytes) : Reading (Nat × Nat) :=
  (one digit? wire).andThen fun first rest =>
  (digits first rest).andThen fun n rest =>
  (lengthEnd left rest).andThen fun left rest => .done (n, left) rest

/-! ## Bodies -/

/-- Everything behind the last chunk, up to an empty line. -/
def trailer (inLine : Bool) : Bytes → Reading Unit
  | [] => .short
  | [13] => .short
  | 13 :: 10 :: rest => if inLine then trailer false rest else .done () rest
  | 13 :: _ => .invalid
  | _ :: rest => trailer true rest

/-- How a body ends of which everything but the end was read. -/
def endOf {α : Type} : Reading α → BodyEnd
  | .done _ _ => .complete
  | .short => .short
  | .invalid => .spoiled

/-- Reads at most `fuel` chunks; those read before are in `chunks`, the last one first. -/
def decodeWithin : Nat → Nat → List Bytes → Bytes → List Bytes × BodyEnd
  | 0, _, chunks, _ => (chunks, .short)
  | fuel + 1, left, chunks, wire =>
    match lengthLine left wire with
    | .short => (chunks, .short)
    | .invalid => (chunks, .spoiled)
    | .done (0, _) rest => (chunks, endOf (trailer false rest))
    | .done (n, left) rest =>
      let chunk := rest.take n
      if chunk.length < n then (chunk :: chunks, .short)
      else match exactly lineBreak (rest.drop n) with
        | .done _ more => decodeWithin fuel left (chunk :: chunks) more
        | other => (chunk :: chunks, endOf other)

/-- The body as far as it came, and how it ended. -/
def decode (wire : Bytes) : Bytes × BodyEnd :=
  let (chunks, ending) := decodeWithin wire.length extensionLimit [] wire
  (chunks.reverse.flatten, ending)

end Chunked

end ReadAhead.Http
