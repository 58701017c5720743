/-
Percent encoding. Each part of a URL has a set of bytes that may not stand for
themselves there; such a byte is written as a percent sign and two upper-case
hexadecimal digits. Bytes outside ASCII are in every set.

The percent sign is in no set, so a text that is already encoded stays as it
is; decoding takes every well-formed triple and leaves everything else alone.
-/
import ReadAhead.Text.Hexadecimal
import ReadAhead.Text.Utf8

set_option autoImplicit false

namespace ReadAhead.Url

/-- Bytes that must be encoded in some part of a URL. -/
abbrev ByteSet := UInt8 → Bool

namespace ByteSet

/-- The byte of an ASCII character is among those of a text. -/
def among (text : String) (b : UInt8) : Bool := text.toList.any (·.toNat == b.toNat)

/-- Control characters and everything beyond ASCII. -/
def controls : ByteSet := fun b => b < 0x20 || 0x7F ≤ b

def fragment : ByteSet := fun b => controls b || among " \"<>`" b

def path : ByteSet := fun b => fragment b || among "#?\x7b\x7d" b

def userinfo : ByteSet := fun b => path b || among "/:;=@[\\]^|" b

def query : ByteSet := fun b => controls b || among " \"#<>" b

def specialQuery : ByteSet := fun b => query b || among "'" b

end ByteSet

open Text

/-- One byte, written as itself or as a triple. -/
def encodeByte (set : ByteSet) (b : UInt8) : List Char :=
  if set b then ['%', hexDigit (b.toNat / 16), hexDigit (b.toNat % 16)]
  else [Char.ofNat b.toNat]

/-- A text with the bytes of a set encoded. -/
def percentEncode (set : ByteSet) (cs : List Char) : List Char :=
  (Text.Utf8.encode cs).flatMap (encodeByte set)

/-- The bytes of a text, with every triple read as the byte it stands for. -/
def percentDecode : List Char → List UInt8
  | '%' :: a :: b :: rest =>
    match hexValue? a, hexValue? b with
    | some x, some y => UInt8.ofNat (16 * x + y) :: percentDecode rest
    | _, _ => 37 :: percentDecode (a :: b :: rest)
  | c :: rest => String.utf8EncodeChar c ++ percentDecode rest
  | [] => []

end ReadAhead.Url
