/-
Hexadecimal numerals. Digits of either case are read.
-/

set_option autoImplicit false

namespace ReadAhead.Text

/-- A hexadecimal digit, in upper case. -/
def hexDigit (n : Nat) : Char := (Nat.digitChar n).toUpper

/-- The value of a hexadecimal digit of either case. -/
def hexValue? (c : Char) : Option Nat :=
  if '0' ≤ c ∧ c ≤ '9' then some (c.toNat - '0'.toNat)
  else if 'a' ≤ c ∧ c ≤ 'f' then some (c.toNat - 'a'.toNat + 10)
  else if 'A' ≤ c ∧ c ≤ 'F' then some (c.toNat - 'A'.toNat + 10)
  else none

/-- The value of a run of digits; what is no digit counts as zero. -/
def hexNumber (cs : List Char) : Nat :=
  cs.foldl (fun value c => 16 * value + (hexValue? c).getD 0) 0

end ReadAhead.Text
