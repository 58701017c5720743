/-
Bytes read as characters. A byte string need not be UTF-8: where no character
starts, the byte stands for itself as a blank spot, and reading goes on behind
it. A text without blank spots is exactly a UTF-8 text.

Bytes below 128 are always characters of their own, so a blank spot never
swallows a quotation mark or a brace behind it.
-/

set_option autoImplicit false

namespace ReadAhead.Text.Utf8

/-- A text in which `none` marks a byte that belongs to no character. -/
abbrev Spots := List (Option Char)

/-- The character the bytes start with. Four bytes are enough to see it. -/
def first? (bytes : List UInt8) : Option Char :=
  (bytes.take 4).toByteArray.utf8DecodeChar? 0

/-- Reads at most `fuel` characters or blank spots. -/
def scan : Nat → List UInt8 → Spots
  | 0, _ => []
  | _ + 1, [] => []
  | fuel + 1, b :: rest =>
    match first? (b :: rest) with
    | some c => some c :: scan fuel ((b :: rest).drop c.utf8Size)
    | none => none :: scan fuel rest

/-- The characters and blank spots of a byte string, in order. -/
def decode (bytes : List UInt8) : Spots := scan bytes.length bytes

/-- The bytes of a text. -/
def encode (cs : List Char) : List UInt8 := cs.flatMap String.utf8EncodeChar

/-- The text, if it has no blank spot. -/
def text? (spots : Spots) : Option (List Char) := spots.mapM id

end ReadAhead.Text.Utf8
