/-
Tables over code points. Most properties of characters are the same for many
neighbours, so a table is a sequence of stretches, each with one value; code
points in no stretch have none.

A table is written as a text with one word for each stretch: the first code
point and the last in hexadecimal with a dash between them, or one code point
alone, and the value behind an equals sign if there is one. The words ascend and
do not overlap, which the search relies on.

All tables in this library are those of Unicode 17.0.
-/
import ReadAhead.Text.Blank
import ReadAhead.Text.Hexadecimal

set_option autoImplicit false

namespace ReadAhead.Text

/-- Neighbouring code points with one value. -/
structure Stretch (α : Type) where
  first : Nat
  last : Nat
  value : α
  deriving DecidableEq, Repr

/-- Values of code points. -/
structure CodeTable (α : Type) where
  /-- The stretches, in ascending order. -/
  stretches : Array (Stretch α)
  deriving Repr

namespace CodeTable

variable {α : Type}

/-! ## Reading -/

/-- Adds a character to the word in front, which is written backwards, or ends that word. -/
def addToWords : List (List Char) → Char → List (List Char)
  | [], c => [[c]]
  | word :: words, c => if isBlank c then [] :: word :: words else (c :: word) :: words

/-- The words of a text. -/
def words (text : String) : List (List Char) :=
  (((text.toList.foldl addToWords [[]]).filter (!·.isEmpty)).map List.reverse).reverse

/-- The stretch that a word stands for. -/
def readStretch (value : List Char → α) (word : List Char) : Stretch α :=
  let (range, rest) := (cutAt '=' word).getD (word, [])
  let (first, last) := (cutAt '-' range).getD (range, range)
  { first := hexNumber first, last := hexNumber last, value := value rest }

/-- The table of a text, given how values are written. -/
def ofText (value : List Char → α) (text : String) : CodeTable α :=
  { stretches := ((words text).map (readStretch value)).toArray }

/-! ## Searching -/

/-- The stretch of a code point among those from `lo` up to `hi`. -/
def findBetween (stretches : Array (Stretch α)) (n lo hi : Nat) : Option (Stretch α) :=
  if lo < hi then
    let middle := (lo + hi) / 2
    match stretches[middle]? with
    | none => none
    | some stretch =>
      if n < stretch.first then findBetween stretches n lo middle
      else if stretch.last < n then findBetween stretches n (middle + 1) hi
      else some stretch
  else none
termination_by hi - lo

/-- The stretch of a code point. -/
def find? (t : CodeTable α) (n : Nat) : Option (Stretch α) :=
  findBetween t.stretches n 0 t.stretches.size

/-- The value of a code point. -/
def value? (t : CodeTable α) (n : Nat) : Option α := (t.find? n).map (·.value)

/-- The code point has a value. -/
def contains (t : CodeTable α) (n : Nat) : Bool := (t.find? n).isSome

end CodeTable

/-- A set of code points. -/
abbrev CodeSet := CodeTable Unit

/-- The set of a text without values. -/
def CodeSet.ofRanges (text : String) : CodeSet := CodeTable.ofText (fun _ => ()) text

end ReadAhead.Text
