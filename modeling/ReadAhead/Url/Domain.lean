/-
Host names. Every character is read as what it stands for in a name, the text is
composed, and the labels between its dots are judged one by one; what remains is
the name in ASCII. Since dots and forbidden characters can come out of other
characters, both are looked for in the composed text.

If anything in a name runs from right to left, all its labels have to fit that.
-/
import ReadAhead.Text.Parts
import ReadAhead.Text.Utf8
import ReadAhead.Url.Label

set_option autoImplicit false

namespace ReadAhead.Url.Domain

open Text

/-- A name as it is read. -/
def normal? (cs : List Char) : Option (List Char) :=
  (cs.mapM Folding.fold?).map fun parts => Composition.composed parts.flatten

/-- The labels fit beside each other. -/
def fitTogether (labels : List Label) : Bool :=
  !labels.any (fun label => label.text.any fun c => !Label.isAscii c && Label.runsBack c) ||
    labels.all (Label.fitsDirections ·.text)

/-- The name in ASCII, from its characters. -/
def ofChars? (cs : List Char) : Option (List Char) := do
  let text ← normal? cs
  guard (!text.any Label.isForbidden)
  let labels ← (splitOn (· = '.') text).mapM Label.ofText?
  guard (fitTogether labels)
  return joinWith ['.'] (labels.map (·.ascii))

/-- The name in ASCII, from bytes, which must be UTF-8. -/
def ofBytes? (bytes : List UInt8) : Option (List Char) :=
  (Text.Utf8.text? (Text.Utf8.decode bytes)).bind ofChars?

end ReadAhead.Url.Domain
