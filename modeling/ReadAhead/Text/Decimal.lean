/-
Decimal numerals. A numeral is a run of ASCII digits; its value is the usual
one, and a 64-bit numeral is one whose value fits. Leading zeros change
nothing, so many numerals have one value; `digits` writes the shortest.
-/

set_option autoImplicit false

namespace ReadAhead.Text.Decimal

/-- The value of an ASCII digit. -/
def digit? (c : Char) : Option Nat :=
  if '0' ≤ c ∧ c ≤ '9' then some (c.toNat - '0'.toNat) else none

/-- One more digit behind a numeral of value `acc`. -/
def shift (acc : Nat) (c : Char) : Option Nat :=
  (digit? c).map (10 * acc + ·)

/-- The value of a non-empty run of digits. -/
def value? : List Char → Option Nat
  | [] => none
  | cs => cs.foldlM shift 0

/-- The shortest numeral of a value. -/
def digits (n : Nat) : List Char := Nat.toDigits 10 n

/-- One more than the greatest 64-bit number. -/
def wordLimit : Nat := UInt64.size

/-- A value that fits 64 bits. -/
def word? (cs : List Char) : Option Nat :=
  (value? cs).filter (· < wordLimit)

/-- A 64-bit numeral that may carry one plus sign. -/
def signedWord? : List Char → Option Nat
  | '+' :: cs => word? cs
  | cs => word? cs

end ReadAhead.Text.Decimal
