/-
Header fields. A name is a token, and a value is any text of one line; spaces
and tabs around a value do not belong to it. Names are compared without regard
to case, and a name may come several times.

On the wire a field is made of bytes. Here each byte is the character of its
code, so a character beyond ASCII is a byte that belongs to no text.
-/
import ReadAhead.Http.Reading
import ReadAhead.Text.Blank

set_option autoImplicit false

namespace ReadAhead.Http

/-- A header field. -/
structure Field where
  name : List Char
  value : List Char
  deriving DecidableEq, Repr

namespace Field

/-- Characters that may stand in a name. -/
def isNameChar (c : Char) : Bool :=
  c.isAlphanum || "!#$%&'*+-.^_|~".toList.contains c || c.toNat == 0x60

/-- Characters that may stand in a value. -/
def isValueChar (c : Char) : Bool := c == '\t' || (32 ≤ c.toNat && c.toNat ≠ 127)

/-- A space or a tab. -/
def isSpace (c : Char) : Bool := c == ' ' || c == '\t'

/-- A value without the spaces around it. -/
def strip (value : List Char) : List Char :=
  ((value.dropWhile isSpace).reverse.dropWhile isSpace).reverse

/-- The value can be read as text: it is printable ASCII. -/
def isPrintable (value : List Char) : Bool :=
  value.all fun c => c == '\t' || (32 ≤ c.toNat && c.toNat < 127)

/-! ## Reading -/

/-- A byte as the character of its code. -/
def ofByte (b : UInt8) : Char := Char.ofNat b.toNat

def colon : UInt8 := 58

/-- A field up to the end of its line. The colon follows the name directly. -/
def read (wire : Bytes) : Reading Field :=
  let name := wire.takeWhile (isNameChar ∘ ofByte)
  match wire.drop name.length with
  | [] => .short
  | b :: rest =>
    if b = colon ∧ name ≠ [] then
      (Reading.line (isValueChar ∘ ofByte) rest).andThen fun value rest =>
        .done { name := name.map ofByte, value := strip (value.map ofByte) } rest
    else .invalid

end Field

/-- The values of all fields of a name. -/
def fieldValues (fields : List Field) (name : String) : List (List Char) :=
  (fields.filter fun field => Text.sameLetters field.name name.toList).map (·.value)

end ReadAhead.Http
