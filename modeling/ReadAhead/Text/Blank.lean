/-
White space as Unicode understands it, and trimming by it. Header values are
trimmed by this rule before they are read, so a no-break space around a number
does no harm while a zero-width space does.
-/

set_option autoImplicit false

namespace ReadAhead.Text

/-- The code points with the property `White_Space`. -/
def isBlank (c : Char) : Bool :=
  let n := c.toNat
  (9 ≤ n && n ≤ 13) || n == 0x20 || n == 0x85 || n == 0xA0 || n == 0x1680 ||
    (0x2000 ≤ n && n ≤ 0x200A) || n == 0x2028 || n == 0x2029 || n == 0x202F ||
    n == 0x205F || n == 0x3000

/-- The text without the blanks in front. -/
def trimLeft (cs : List Char) : List Char := cs.dropWhile isBlank

/-- The text without the blanks behind. -/
def trimRight (cs : List Char) : List Char := (cs.reverse.dropWhile isBlank).reverse

/-- The text without the blanks on either side. -/
def trim (cs : List Char) : List Char := trimRight (trimLeft cs)

/-- The text cut at the first `c`, which belongs to neither part. -/
def cutAt (c : Char) : List Char → Option (List Char × List Char)
  | [] => none
  | d :: rest =>
    if d = c then some ([], rest)
    else (cutAt c rest).map fun (left, right) => (d :: left, right)

/-- **A cut can be undone.** -/
theorem eq_of_cutAt {c : Char} {cs left right : List Char}
    (h : cutAt c cs = some (left, right)) : cs = left ++ c :: right ∧ c ∉ left := by
  induction cs generalizing left with
  | nil => simp [cutAt] at h
  | cons d rest ih =>
    rw [cutAt] at h
    split at h
    · next hd =>
      cases h
      exact ⟨by simp [hd], by simp⟩
    · next hd =>
      obtain ⟨⟨l, r⟩, hlr, heq⟩ := Option.map_eq_some_iff.1 h
      cases heq
      obtain ⟨hrest, hmem⟩ := ih hlr
      exact ⟨by simp [hrest], by simp [hmem, Ne.symm hd]⟩

/-- The first separator decides where the text is cut. -/
theorem cutAt_append_cons {c : Char} {left : List Char} (right : List Char) (h : c ∉ left) :
    cutAt c (left ++ c :: right) = some (left, right) := by
  induction left with
  | nil => simp [cutAt]
  | cons d rest ih =>
    simp only [List.mem_cons, not_or] at h
    simp [cutAt, Ne.symm h.1, ih h.2]

/-- Lower case of an ASCII letter; every other character is its own. -/
def lowerAscii (c : Char) : Char :=
  if 'A' ≤ c ∧ c ≤ 'Z' then Char.ofNat (c.toNat + 32) else c

/-- Equality of two texts that takes no notice of the case of ASCII letters. -/
def sameLetters (a b : List Char) : Bool := a.map lowerAscii == b.map lowerAscii

end ReadAhead.Text
