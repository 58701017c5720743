/-
Which texts are numerals, and of what. A text is a numeral of a value if it is a run of
digits with that value in the decimal system; a reader of 64-bit numbers takes all of them,
leading zeros or not, as long as the value fits, and takes nothing else.
-/
import ReadAhead.Text.Decimal

set_option autoImplicit false

namespace ReadAhead.Text.Decimal

/-- One or more ASCII digits of a value. -/
structure Denotes (cs : List Char) (n : Nat) : Prop where
  nonempty : cs ≠ []
  digits : ∀ c ∈ cs, c.isDigit = true
  value : Nat.ofDigitChars 10 cs 0 = n

/-- A numeral that fits 64 bits, behind a plus sign or none. -/
def Signed (n : Nat) (cs : List Char) : Prop :=
  ∃ sign numeral, cs = sign ++ numeral ∧ (sign = [] ∨ sign = ['+']) ∧ Denotes numeral n ∧
    n < UInt64.size

/-! ## Reading -/

theorem isDigit_iff {c : Char} : c.isDigit = true ↔ '0' ≤ c ∧ c ≤ '9' := by
  rw [Char.isDigit, Bool.and_eq_true, decide_eq_true_iff, decide_eq_true_iff]
  rfl

/-- **The digits are read from the left**; the induction is on them, for any value that was
read before. -/
theorem foldlM_shift_eq_some_iff {cs : List Char} {acc n : Nat} :
    cs.foldlM shift acc = some n ↔
      (∀ c ∈ cs, c.isDigit = true) ∧ Nat.ofDigitChars 10 cs acc = n := by
  induction cs generalizing acc with
  | nil => simp [Nat.ofDigitChars]
  | cons c rest ih =>
    rw [List.foldlM_cons, Nat.ofDigitChars, List.foldl_cons, ← Nat.ofDigitChars,
      List.forall_mem_cons]
    by_cases hdigit : c.isDigit = true
    · have hshift : shift acc c = some (10 * acc + (c.toNat - '0'.toNat)) := by
        rw [shift, digit?, if_pos (isDigit_iff.1 hdigit)]
        rfl
      rw [hshift]
      simp only [Option.bind_eq_bind, Option.bind_some, hdigit, true_and]
      exact ih
    · have hshift : shift acc c = none := by
        rw [shift, digit?, if_neg (mt isDigit_iff.2 hdigit)]
        rfl
      rw [hshift]
      simp [hdigit]

theorem value?_eq_some_iff {cs : List Char} {n : Nat} : value? cs = some n ↔ Denotes cs n := by
  cases cs with
  | nil =>
    constructor
    · intro h
      exact absurd h nofun
    · rintro ⟨hnil, -, -⟩
      exact absurd rfl hnil
  | cons c rest =>
    rw [value?, foldlM_shift_eq_some_iff]
    · constructor
      · rintro ⟨hdigits, hvalue⟩
        exact ⟨List.cons_ne_nil c rest, hdigits, hvalue⟩
      · rintro ⟨-, hdigits, hvalue⟩
        exact ⟨hdigits, hvalue⟩
    · exact List.cons_ne_nil c rest

theorem word?_eq_some_iff {cs : List Char} {n : Nat} :
    word? cs = some n ↔ Denotes cs n ∧ n < UInt64.size := by
  rw [word?, Option.filter_eq_some_iff, value?_eq_some_iff, decide_eq_true_iff, wordLimit]

/-- A numeral begins with a digit. -/
theorem Denotes.not_plus {rest : List Char} {n : Nat} : ¬ Denotes ('+' :: rest) n := fun h =>
  absurd (h.digits '+' List.mem_cons_self) (by decide)

/-- **A reader of 64-bit numbers takes the numerals that fit** and nothing else. -/
theorem signedWord?_eq_some_iff {cs : List Char} {n : Nat} :
    signedWord? cs = some n ↔ Signed n cs := by
  constructor
  · intro h
    rw [signedWord?.eq_def] at h
    split at h
    · next rest =>
      obtain ⟨hdenotes, hlimit⟩ := word?_eq_some_iff.1 h
      exact ⟨['+'], rest, rfl, .inr rfl, hdenotes, hlimit⟩
    · obtain ⟨hdenotes, hlimit⟩ := word?_eq_some_iff.1 h
      exact ⟨[], cs, rfl, .inl rfl, hdenotes, hlimit⟩
  · rintro ⟨sign, numeral, rfl, rfl | rfl, hdenotes, hlimit⟩
    · rw [List.nil_append, signedWord?]
      · exact word?_eq_some_iff.2 ⟨hdenotes, hlimit⟩
      · rintro rest rfl
        exact hdenotes.not_plus
    · exact word?_eq_some_iff.2 ⟨hdenotes, hlimit⟩

/-! ## Writing -/

/-- **The shortest numeral of a value** is one of its numerals. -/
theorem denotes_digits (n : Nat) : Denotes (digits n) n where
  nonempty := Nat.toDigits_ne_nil
  digits := fun _ hc => Nat.isDigit_of_mem_toDigits (by decide) (by decide) hc
  value := Nat.ofDigitChars_toDigits (by decide) (by decide)

/-- What is written is read back, if it fits. -/
theorem signed_digits {n : Nat} (h : n < UInt64.size) : Signed n (digits n) :=
  ⟨[], digits n, rfl, .inl rfl, denotes_digits n, h⟩

/-! ## Characters -/

/-- In front of a numeral there may be a plus sign, and all else are digits. -/
theorem Signed.mem {cs : List Char} {n : Nat} (h : Signed n cs) {c : Char} (hc : c ∈ cs) :
    c = '+' ∨ c.isDigit = true := by
  obtain ⟨sign, numeral, rfl, hsign, hdenotes, -⟩ := h
  rcases List.mem_append.1 hc with hin | hin
  · rcases hsign with rfl | rfl
    · exact absurd hin List.not_mem_nil
    · exact .inl (List.mem_singleton.1 hin)
  · exact .inr (hdenotes.digits c hin)

end ReadAhead.Text.Decimal
