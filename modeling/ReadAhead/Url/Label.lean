/-
The labels of a host name. A label is a text, and it has a form in ASCII: its own
if it is ASCII, and otherwise Punycode behind the mark `xn--`. A label that comes
with the mark must be the form of something, and of something that is written
like that and in no simpler way.

Three rules keep a label readable. It does not start with a character that is
written onto the one in front. A sign that parts or holds together its
neighbours stands only where this can be seen. And in a name with a character
that runs from right to left, every label begins with a letter and keeps to
characters that fit the direction of that letter.

In ASCII the first two hold by themselves.
-/
import ReadAhead.Text.Composition
import ReadAhead.Text.Direction
import ReadAhead.Text.Folding
import ReadAhead.Text.Joining
import ReadAhead.Url.Punycode

set_option autoImplicit false

namespace ReadAhead.Url

open Text

/-- A label of a host name. -/
structure Label where
  /-- What it says. -/
  text : List Char
  /-- How it is written in ASCII. -/
  ascii : List Char
  deriving DecidableEq, Repr

namespace Label

def isAscii (c : Char) : Bool := c.toNat < 128

/-! ## Signs between letters -/

/-- The sign that keeps letters apart. -/
def nonJoiner : Char := Char.ofNat 0x200C

/-- The sign that holds letters together. -/
def joiner : Char := Char.ofNat 0x200D

/-- The first letter of a text joins on one of the given sides. Transparent
characters are passed. -/
def firstJoins (sides : List Joining) (cs : List Char) : Bool :=
  (cs.dropWhile (joining · = .transparent)).head?.any (sides.contains <| joining ·)

/-- A sign fits between what is in front of it, the nearest first, and what is behind. -/
def signFits (sign : Char) (front behind : List Char) : Bool :=
  front.head?.any isVirama ||
    (sign = nonJoiner && firstJoins [.both, .behind] front && firstJoins [.both, .before] behind)

/-- Every sign between letters fits, where `front` is what is in front, the nearest first. -/
def signsFit (front : List Char) : List Char → Bool
  | [] => true
  | c :: rest =>
    (if c = nonJoiner || c = joiner then signFits c front rest else true) &&
      signsFit (c :: front) rest

/-! ## Direction -/

/-- A character that makes a name run in two directions. -/
def runsBack (c : Char) : Bool :=
  [Direction.rightToLeft, .arabicLetter, .arabicDigit].contains (direction c)

/-- What follows its surroundings. -/
def followers : List Direction :=
  [.europeanDigit, .europeanSeparator, .commonSeparator, .europeanTerminator, .neutral,
    .invisible, .mark]

/-- Behind its first character, and without marks at its end, a label holds only what may stand
`inside`, and ends with what may stand at the `outer` end. -/
def keepsTo (inside outer : List Direction) (rest : List Direction) : Bool :=
  rest.getLast?.all outer.contains && rest.all inside.contains

/-- A label fits a name that runs in two directions. -/
def fitsDirections (text : List Char) : Bool :=
  match text.map direction with
  | [] => true
  | first :: rest =>
    let rest := (rest.reverse.dropWhile (· = .mark)).reverse
    match first with
    | .leftToRight => keepsTo (.leftToRight :: followers) [.leftToRight, .europeanDigit] rest
    | .rightToLeft | .arabicLetter =>
      keepsTo ([.rightToLeft, .arabicLetter, .arabicDigit] ++ followers)
        [.rightToLeft, .arabicLetter, .europeanDigit, .arabicDigit] rest &&
      !(rest.contains .europeanDigit && rest.contains .arabicDigit)
    | _ => false

/-! ## Reading -/

/-- Characters that no name holds: blanks, control characters, and those with a meaning in a URL. -/
def isForbidden (c : Char) : Bool :=
  c.toNat ≤ 0x20 || c.toNat = 0x7F || "%#/:<>?@[\\]^|".toList.contains c

/-- Length of a label that is written in Punycode. -/
def maxLength : Nat := 1000

/-- A text can be a label, whatever else is in the name. -/
def isSound (text : List Char) : Bool :=
  text.all isAscii ||
    (!text.head?.any isMark && signsFit [] text && text.length ≤ maxLength)

/-- What a label in Punycode starts with. -/
def punycodeMark : List Char := "xn--".toList

/-- Length of the Punycode in a label. -/
def maxPunycode : Nat := 2000

/-- What a label in Punycode says. -/
def ofPunycode? (form : List Char) : Option (List Char) := do
  guard (form.all isAscii && form.length ≤ maxPunycode && !form.isEmpty)
  guard (form.getLast? ≠ some '-')
  let text ← Punycode.decode? form
  guard (text.all Folding.isFolded && Composition.composed text = text && !text.any isForbidden)
  return text

/-- A label from a folded and composed text. -/
def ofText? (text : List Char) : Option Label := do
  let label : Label ←
    if punycodeMark.isPrefixOf text then
      (ofPunycode? (text.drop punycodeMark.length)).map ({ text := ·, ascii := text })
    else if text.all isAscii then some { text, ascii := text }
    else some { text, ascii := punycodeMark ++ Punycode.encode text }
  guard (isSound label.text)
  return label

end Label

end ReadAhead.Url
