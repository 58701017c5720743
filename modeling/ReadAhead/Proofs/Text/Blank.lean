/-
Trimming, as far as a reader of a text relies on it. The blanks that go stand in front and
behind, so a text around a character that is no blank is trimmed on either side of that
character and nowhere else; and to trim the parts of a text that was trimmed before comes to
trimming them once.

What is said of a trimmed text can then be said of the text itself: it is such a text with
blanks around it (`around_iff`).
-/
import ReadAhead.Text.Blank
import Mathlib.Data.List.DropRight

set_option autoImplicit false

namespace ReadAhead.Text

/-- Nothing but blanks, or nothing at all. -/
def Blank (cs : List Char) : Prop := ∀ c ∈ cs, isBlank c = true

/-- A text of a kind with blanks in front and behind, if any. -/
def Around (P : List Char → Prop) (cs : List Char) : Prop :=
  ∃ front core back, cs = front ++ core ++ back ∧ Blank front ∧ Blank back ∧ P core

section

variable {c : Char} {cs front back left right : List Char}

/-! ## One side -/

theorem trimRight_eq (cs : List Char) : trimRight cs = (trimLeft cs.reverse).reverse := rfl

theorem Blank.reverse (h : Blank cs) : Blank cs.reverse := fun c hc => h c (List.mem_reverse.1 hc)

/-- Blanks in front do not matter. -/
theorem trimLeft_append (h : Blank front) (cs : List Char) :
    trimLeft (front ++ cs) = trimLeft cs := List.dropWhile_append_of_pos h

theorem trimRight_append (h : Blank back) (cs : List Char) :
    trimRight (cs ++ back) = trimRight cs := by
  rw [trimRight_eq, List.reverse_append, trimLeft_append h.reverse, ← trimRight_eq]

theorem trimLeft_of_blank (h : Blank cs) : trimLeft cs = [] := by
  rw [← List.append_nil cs, trimLeft_append h]
  rfl

theorem trimRight_of_blank (h : Blank cs) : trimRight cs = [] := by
  rw [trimRight_eq, trimLeft_of_blank h.reverse, List.reverse_nil]

/-- **A character that is no blank** ends the trimming in front. -/
theorem trimLeft_append_cons (h : isBlank c = false) (left right : List Char) :
    trimLeft (left ++ c :: right) = trimLeft left ++ c :: right := by
  have hstop : (c :: right).dropWhile isBlank = c :: right :=
    List.dropWhile_cons_of_neg (by rw [h]; exact Bool.false_ne_true)
  rw [trimLeft, trimLeft, List.dropWhile_append, hstop]
  by_cases hnil : (left.dropWhile isBlank).isEmpty = true
  · rw [if_pos hnil, List.isEmpty_iff.1 hnil, List.nil_append]
  · rw [if_neg hnil]

theorem trimRight_append_cons (h : isBlank c = false) (left right : List Char) :
    trimRight (left ++ c :: right) = left ++ c :: trimRight right := by
  have hreverse : (left ++ c :: right).reverse = right.reverse ++ c :: left.reverse := by simp
  rw [trimRight_eq, hreverse, trimLeft_append_cons h, trimRight_eq]
  simp

theorem trimLeft_trimLeft (cs : List Char) : trimLeft (trimLeft cs) = trimLeft cs :=
  List.dropWhile_idempotent isBlank cs

theorem trimRight_trimRight (cs : List Char) : trimRight (trimRight cs) = trimRight cs := by
  rw [trimRight_eq, trimRight_eq, List.reverse_reverse, trimLeft_trimLeft]

/-- What goes in front is blank. -/
theorem exists_trimLeft (cs : List Char) : ∃ front, cs = front ++ trimLeft cs ∧ Blank front :=
  ⟨cs.takeWhile isBlank, List.takeWhile_append_dropWhile.symm, fun _ => List.mem_takeWhile_imp⟩

theorem exists_trimRight (cs : List Char) : ∃ back, cs = trimRight cs ++ back ∧ Blank back := by
  obtain ⟨front, hsplit, hfront⟩ := exists_trimLeft cs.reverse
  refine ⟨front.reverse, ?_, hfront.reverse⟩
  rw [trimRight_eq, ← List.reverse_append, ← hsplit, List.reverse_reverse]

/-! ## Both sides -/

/-- A text of blanks, or one with a character that is none. -/
theorem blank_or_exists (cs : List Char) :
    Blank cs ∨ ∃ left c right, cs = left ++ c :: right ∧ isBlank c = false := by
  by_cases h : Blank cs
  · exact .inl h
  · obtain ⟨c, hc, hblank⟩ : ∃ c ∈ cs, isBlank c = false := by simpa [Blank] using h
    obtain ⟨left, right, rfl⟩ := List.append_of_mem hc
    exact .inr ⟨left, c, right, rfl, hblank⟩

theorem trim_append_cons (h : isBlank c = false) (left right : List Char) :
    trim (left ++ c :: right) = trimLeft left ++ c :: trimRight right := by
  rw [trim, trimLeft_append_cons h, trimRight_append_cons h]

/-- **The side that is trimmed first** does not matter. -/
theorem trim_eq (cs : List Char) : trim cs = trimLeft (trimRight cs) := by
  rcases blank_or_exists cs with h | ⟨left, c, right, rfl, h⟩
  · rw [trim, trimLeft_of_blank h, trimRight_of_blank h]
    rfl
  · rw [trim_append_cons h, trimRight_append_cons h, trimLeft_append_cons h]

theorem trim_trimLeft (cs : List Char) : trim (trimLeft cs) = trim cs := by
  rw [trim, trimLeft_trimLeft, ← trim]

theorem trim_trimRight (cs : List Char) : trim (trimRight cs) = trim cs := by
  rw [trim_eq, trimRight_trimRight, ← trim_eq]

/-- **Blanks on either side** do not matter. -/
theorem trim_append_append (hfront : Blank front) (hback : Blank back) (cs : List Char) :
    trim (front ++ cs ++ back) = trim cs := by
  rw [trim_eq, trimRight_append hback, ← trim_eq, trim, trimLeft_append hfront, ← trim]

/-- What goes is blank. -/
theorem exists_trim (cs : List Char) :
    ∃ front back, cs = front ++ trim cs ++ back ∧ Blank front ∧ Blank back := by
  obtain ⟨front, hleft, hfront⟩ := exists_trimLeft cs
  obtain ⟨back, hright, hback⟩ := exists_trimRight (trimLeft cs)
  refine ⟨front, back, ?_, hfront, hback⟩
  rw [List.append_assoc, trim, ← hright, ← hleft]

/-- A text without blanks is trimmed already. -/
theorem trim_of_not_blank (h : ∀ c ∈ cs, isBlank c = false) : trim cs = cs := by
  have hleft : ∀ cs : List Char, (∀ c ∈ cs, isBlank c = false) → trimLeft cs = cs := by
    intro cs h
    cases cs with
    | nil => rfl
    | cons first rest => exact trimLeft_append_cons (h first List.mem_cons_self) [] rest
  have hreverse := hleft cs.reverse fun c hc => h c (List.mem_reverse.1 hc)
  rw [trim, hleft cs h, trimRight_eq, hreverse, List.reverse_reverse]

/-- **A text that is of a kind once it is trimmed** is one of that kind with blanks around it,
for any kind of text that has no blanks in it. -/
theorem around_iff {P : List Char → Prop} (hP : ∀ core, P core → ∀ c ∈ core, isBlank c = false) :
    Around P cs ↔ P (trim cs) := by
  constructor
  · rintro ⟨front, core, back, rfl, hfront, hback, hcore⟩
    rwa [trim_append_append hfront hback, trim_of_not_blank (hP core hcore)]
  · intro h
    obtain ⟨front, back, hsplit, hfront, hback⟩ := exists_trim cs
    exact ⟨front, trim cs, back, hsplit, hfront, hback, h⟩

/-! ## Cutting -/

theorem cutAt_eq_some_iff :
    cutAt c cs = some (left, right) ↔ cs = left ++ c :: right ∧ c ∉ left := by
  constructor
  · exact eq_of_cutAt
  · rintro ⟨rfl, h⟩
    exact cutAt_append_cons right h

theorem cutAt_of_not_mem (h : c ∉ cs) : cutAt c cs = none := by
  induction cs with
  | nil => rfl
  | cons d rest ih =>
    rw [List.mem_cons, not_or] at h
    rw [cutAt, if_neg (Ne.symm h.1), ih h.2]
    rfl

/-- **To trim and then to cut** at a character that is no blank is to cut, and then to trim
the outer sides of the two parts. -/
theorem cutAt_trim (h : isBlank c = false) (cs : List Char) :
    cutAt c (trim cs) =
      (cutAt c cs).map fun (left, right) => (trimLeft left, trimRight right) := by
  by_cases hmem : c ∈ cs
  · obtain ⟨left, right, rfl, hleft⟩ := List.eq_append_cons_of_mem hmem
    have hshort : c ∉ trimLeft left := fun hin =>
      hleft ((List.dropWhile_suffix isBlank).mem hin)
    rw [trim_append_cons h, cutAt_append_cons _ hshort, cutAt_append_cons _ hleft]
    rfl
  · have hshort : c ∉ trim cs := by
      obtain ⟨front, back, hsplit, -⟩ := exists_trim cs
      intro hin
      rw [hsplit] at hmem
      exact hmem (List.mem_append_left back (List.mem_append_right front hin))
    rw [cutAt_of_not_mem hshort, cutAt_of_not_mem hmem]
    rfl

end

/-! ## Letters -/

/-- The lower case of a character is the library's. -/
theorem lowerAscii_eq_toLower (c : Char) : lowerAscii c = c.toLower := by
  rw [lowerAscii]
  by_cases h : 'A' ≤ c ∧ c ≤ 'Z'
  · have hval : 'A'.val ≤ c.val ∧ c.val ≤ 'Z'.val := h
    have hlast : c.toNat ≤ 90 := h.2
    have hvalid : (c.toNat + 32).isValidChar := .inl (by omega)
    have hshift : (c.val + ('a'.val - 'A'.val)).toNat = (c.toNat + 32) % 2 ^ 32 :=
      UInt32.toNat_add _ _
    have hlower : c.toLower = ⟨c.val + ('a'.val - 'A'.val), _⟩ := dif_pos hval
    rw [if_pos h, hlower]
    apply Char.toNat_inj.1
    rw [Char.ofNat, dif_pos hvalid]
    show c.toNat + 32 = (c.val + ('a'.val - 'A'.val)).toNat
    omega
  · have hval : ¬ ('A'.val ≤ c.val ∧ c.val ≤ 'Z'.val) := h
    have hlower : c.toLower = c := dif_neg hval
    rw [if_neg h, hlower]

theorem sameLetters_iff {a b : List Char} :
    sameLetters a b = true ↔ a.map Char.toLower = b.map Char.toLower := by
  have hlower : lowerAscii = Char.toLower := funext lowerAscii_eq_toLower
  rw [sameLetters, beq_iff_eq, hlower]

/-- A blank has no case. -/
theorem toLower_of_isBlank {c : Char} (h : isBlank c = true) : c.toLower = c := by
  apply dif_neg
  intro hupper
  have hfirst : 65 ≤ c.toNat := hupper.1
  have hlast : c.toNat ≤ 90 := hupper.2
  simp only [isBlank, Bool.or_eq_true, Bool.and_eq_true, decide_eq_true_iff, beq_iff_eq] at h
  omega

end ReadAhead.Text
