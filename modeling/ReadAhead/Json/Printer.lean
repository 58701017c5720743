/-
Writing JSON, on one line or indented by two spaces. Both layouts write the
same tokens in the same order; only the white space between them differs.

In a string the quotation mark, the backslash and control characters are
escaped and nothing else is. A blank spot is written as the escape of half a
surrogate pair, which reads back as a blank spot.
-/
import ReadAhead.Json.Basic

set_option autoImplicit false

namespace ReadAhead.Json

open Text (Utf8.Spots)

/-! ## Strings -/

/-- A lower-case hexadecimal digit. -/
def hexLower (n : Nat) : Char := Nat.digitChar n

/-- A character as it stands in a string. -/
def printChar (c : Char) : List Char :=
  if c = '"' then ['\\', '"']
  else if c = '\\' then ['\\', '\\']
  else if c = '\x08' then ['\\', 'b']
  else if c = '\x0c' then ['\\', 'f']
  else if c = '\n' then ['\\', 'n']
  else if c = '\r' then ['\\', 'r']
  else if c = '\t' then ['\\', 't']
  else if c.toNat < 0x20 then
    ['\\', 'u', '0', '0', hexLower (c.toNat / 16), hexLower (c.toNat % 16)]
  else [c]

def printSpot : Option Char → List Char
  | some c => printChar c
  | none => "\\ud800".toList

/-- A string with its quotation marks. -/
def printText (spots : Utf8.Spots) : List Char := '"' :: spots.flatMap printSpot ++ ['"']

/-! ## Layouts -/

/-- Where white space goes: what stands in front of each item, at a given
depth, and what stands behind the colon. -/
structure Layout where
  newline : Nat → List Char
  afterColon : List Char

/-- Everything on one line. -/
def Layout.compact : Layout := { newline := fun _ => [], afterColon := [] }

/-- Each item on a line of its own, two spaces deeper than what holds it. -/
def Layout.pretty : Layout :=
  { newline := fun depth => '\n' :: List.replicate (2 * depth) ' ', afterColon := [' '] }

mutual

/-- A value that stands at a given depth. -/
def print (layout : Layout) (depth : Nat) : Json → List Char
  | .null => "null".toList
  | .bool true => "true".toList
  | .bool false => "false".toList
  | .number digits => digits
  | .string text => printText text
  | .array [] => "[]".toList
  | .array (item :: items) =>
    '[' :: layout.newline (depth + 1) ++ print layout (depth + 1) item ++
      printItems layout (depth + 1) items ++ layout.newline depth ++ [']']
  | .object [] => "\x7b\x7d".toList
  | .object ((name, value) :: members) =>
    '{' :: layout.newline (depth + 1) ++ printText name ++ ':' :: layout.afterColon ++
      print layout (depth + 1) value ++ printMembers layout (depth + 1) members ++
      layout.newline depth ++ ['}']

/-- The items behind the first one. -/
def printItems (layout : Layout) (depth : Nat) : List Json → List Char
  | [] => []
  | item :: items =>
    ',' :: layout.newline depth ++ print layout depth item ++ printItems layout depth items

/-- The members behind the first one. -/
def printMembers (layout : Layout) (depth : Nat) : List (Utf8.Spots × Json) → List Char
  | [] => []
  | (name, value) :: members =>
    ',' :: layout.newline depth ++ printText name ++ ':' :: layout.afterColon ++
      print layout depth value ++ printMembers layout depth members

end

/-- The document on one line. -/
def compact (value : Json) : String := String.ofList (print .compact 0 value)

/-- The document on indented lines. -/
def pretty (value : Json) : String := String.ofList (print .pretty 0 value)

end ReadAhead.Json
