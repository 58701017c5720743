/-
JSON documents as trees. Objects keep their members in the order written, a
repeated name included; numbers keep their digits, so that nothing is rounded
before somebody asks for a value.

Texts may have blank spots: an escape that names half a surrogate pair, or a
byte of a file that belongs to no character. A blank spot is no error in
itself -- it becomes one when the text is needed as a string.
-/
import ReadAhead.Text.Utf8
import ReadAhead.Text.Decimal

set_option autoImplicit false

namespace ReadAhead

open Text (Utf8.Spots)

/-- A JSON document. -/
inductive Json where
  | null
  | bool (value : Bool)
  | number (digits : List Char)
  | string (text : Utf8.Spots)
  | array (items : List Json)
  | object (members : List (Utf8.Spots × Json))

namespace Json

/-- A text without blank spots. -/
def text (s : String) : Utf8.Spots := s.toList.map some

/-- The string of a text, if it has no blank spots. -/
def string? (spots : Utf8.Spots) : Option String := (Text.Utf8.text? spots).map String.ofList

/-- The number `n`. -/
def nat (n : Nat) : Json := .number (Text.Decimal.digits n)

/-- A number below `limit` that is written with digits alone: no sign, no
fraction, no exponent. -/
def nat? (limit : Nat) : Json → Option Nat
  | .number digits => (Text.Decimal.value? digits).filter (· < limit)
  | _ => none

def bool? : Json → Option Bool
  | .bool value => some value
  | _ => none

def text? : Json → Option String
  | .string spots => string? spots
  | _ => none

/-- A value, or `null` for none. -/
def optional? {α : Type} (read : Json → Option α) : Json → Option (Option α)
  | .null => some none
  | value => (read value).map some

end Json

end ReadAhead
