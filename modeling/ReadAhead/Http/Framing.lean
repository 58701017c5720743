/-
How the end of a body is found. A status that excludes a body wins, then a
transfer coding, then a length; without any of them the body goes on until the
server closes the connection.

A length that is no number or that is not the same everywhere makes an answer
useless, and so does a transfer coding in the older version of the protocol,
which has none.
-/
import ReadAhead.Fetch.Head
import ReadAhead.Http.Chunked
import ReadAhead.Http.Preamble
import ReadAhead.Text.Decimal
import ReadAhead.Text.Parts

set_option autoImplicit false

namespace ReadAhead.Http

open Text

/-- How the end of a body is found. -/
inductive Framing where
  | length (n : Nat)
  | chunked
  | untilClose
  deriving DecidableEq, Repr

namespace Preamble

/-- The values of all fields of a name. -/
def values (p : Preamble) (name : String) : List (List Char) := fieldValues p.fields name

/-- Greatest length of a body. -/
def maxLength : Nat := UInt64.size - 3

/-- The one number that all the texts are. -/
def agreedLength? (texts : List (List Char)) : Option Nat := do
  let lengths ← texts.mapM fun text => Decimal.word? (trim text)
  match lengths with
  | [] => none
  | first :: rest => if rest.all (· == first) ∧ first ≤ maxLength then some first else none

/-- The length that the fields announce. -/
def announcedLength? (p : Preamble) : Option Nat :=
  let values := p.values "Content-Length"
  if values.all Field.isPrintable then agreedLength? (values.flatMap (splitOn (· == ',')))
  else none

/-- The last transfer coding is the chunked one. -/
def codesChunks (p : Preamble) : Bool :=
  match (p.values "Transfer-Encoding").getLast? with
  | none => false
  | some value =>
    Field.isPrintable value &&
      match (splitOn (· == ',') value).getLast? with
      | none => false
      | some coding => sameLetters (trim coding) "chunked".toList

/-- How the end of the body is found; nothing if the answer is not to be used. -/
def framing? (p : Preamble) : Option Framing :=
  if p.status = 101 ∨ p.status = 204 ∨ p.status = 304 then some (.length 0)
  else if !(p.values "Transfer-Encoding").isEmpty then
    if p.minor = 0 then none else some (if p.codesChunks then .chunked else .untilClose)
  else if !(p.values "Content-Length").isEmpty then p.announcedLength?.map .length
  else some .untilClose

/-- The place of the body in the resource, as the first field about it tells. -/
def contentRange? (p : Preamble) : Option ContentRange :=
  match p.values "Content-Range" with
  | [] => none
  | first :: _ => if Field.isPrintable first then ContentRange.parse? first else none

/-- What a receiver learns of an answer. -/
def head (p : Preamble) (framing : Framing) : Head :=
  { status := p.status
    contentLength := match framing with
      | .length n => some n
      | .chunked | .untilClose => none
    contentRange := p.contentRange? }

end Preamble

/-! ## Bodies -/

/-- The body as far as it came, and how it ended. -/
def Framing.body : Framing → Bytes → Bytes × BodyEnd
  | .length n, wire =>
    let body := wire.take n
    (body, if body.length = n then .complete else .short)
  | .chunked, wire => Chunked.decode wire
  | .untilClose, wire => (wire, .short)

end ReadAhead.Http
