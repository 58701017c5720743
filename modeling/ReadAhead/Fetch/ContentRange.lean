/-
The `Content-Range` of a partial answer: which bytes of the resource the body
holds, and how long the resource is if the server says so.

The reader is lenient about blanks, the case of the unit and a plus sign, and
strict about sense: the last byte may not lie before the first, and a resource
must be longer than the position of its last byte.
-/
import ReadAhead.Text.Blank
import ReadAhead.Text.Decimal

set_option autoImplicit false

namespace ReadAhead

open Text

/-- Bytes `first` to `last`, both included, of a resource of a known or unknown length. -/
structure ContentRange where
  first : Nat
  last : Nat
  length : Option Nat
  deriving DecidableEq, Repr

namespace ContentRange

/-- The range makes sense: it is not reversed and lies inside the resource. -/
def Sensible (r : ContentRange) : Prop :=
  r.first ≤ r.last ∧ ∀ n, r.length = some n → r.last < n

instance (r : ContentRange) : Decidable r.Sensible :=
  match h : r.length with
  | none => decidable_of_iff (r.first ≤ r.last) (by simp [Sensible, h])
  | some n => decidable_of_iff (r.first ≤ r.last ∧ r.last < n) (by simp [Sensible, h])

/-- The length part: a star, or a number. -/
def length? (cs : List Char) : Option (Option Nat) :=
  if cs = ['*'] then some none else (Decimal.signedWord? cs).map some

/-- Reads a header value. The unit ends at the first space, the range at the
first slash after it, and the first byte at the first dash of the range. -/
def parse? (value : List Char) : Option ContentRange := do
  let (unit, rest) ← cutAt ' ' (trim value)
  guard (sameLetters unit "bytes".toList)
  let (range, length) ← cutAt '/' (trim rest)
  let (first, last) ← cutAt '-' (trim range)
  let first ← Decimal.signedWord? (trim first)
  let last ← Decimal.signedWord? (trim last)
  let length ← length? (trim length)
  let range : ContentRange := { first, last, length }
  guard range.Sensible
  return range

/-- Reads a header value given as a string. -/
def ofString? (value : String) : Option ContentRange := parse? value.toList

/-- The usual way to write a range. -/
def print (r : ContentRange) : List Char :=
  "bytes ".toList ++ Decimal.digits r.first ++ '-' :: Decimal.digits r.last ++ '/' ::
    match r.length with
    | none => ['*']
    | some n => Decimal.digits n

end ContentRange

end ReadAhead
