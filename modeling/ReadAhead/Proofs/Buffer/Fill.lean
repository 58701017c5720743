/-
Copying out of a buffer. `fill` overwrites the head of a destination with what is
cached from a position on and leaves the rest of it alone; it finds nothing
exactly if the byte at the position is not cached, or there is nothing to fill.
-/
import ReadAhead.Proofs.Cache.Reading
import ReadAhead.Buffer.Basic

set_option autoImplicit false

namespace ReadAhead.Buffer

variable {b : Buffer} {position count : Nat} {destination out : Bytes}

/-- What was copied is what was read, and the destination goes on behind it. -/
theorem fill_eq_some_iff :
    b.fill position destination = (some count, out) ↔
      b.cache.read position destination.length ≠ [] ∧
        count = (b.cache.read position destination.length).length ∧
        out = b.cache.read position destination.length ++ destination.drop count := by
  rw [fill]
  split
  · next h => simp [h]
  · next found hne =>
    rw [Prod.mk.injEq, Option.some.injEq]
    constructor
    · rintro ⟨rfl, rfl⟩
      exact ⟨hne, rfl, rfl⟩
    · rintro ⟨-, rfl, rfl⟩
      exact ⟨rfl, rfl⟩

/-- At least one byte is copied, and no more than there is room for. -/
theorem count_of_fill (h : b.fill position destination = (some count, out)) :
    0 < count ∧ count ≤ destination.length := by
  obtain ⟨hne, rfl, -⟩ := fill_eq_some_iff.1 h
  exact ⟨List.length_pos_iff.2 hne, b.cache.length_read_le _ _⟩

/-- **The bytes copied are the bytes cached.** -/
theorem getElem?_of_fill (hs : b.cache.Sized) (h : b.fill position destination = (some count, out))
    {i : Nat} (hi : i < count) : out[i]? = b.cache.byte? (position + i) := by
  obtain ⟨-, rfl, rfl⟩ := fill_eq_some_iff.1 h
  rw [List.getElem?_append_left hi, Cache.getElem?_read hs hi]

/-- **Behind the bytes copied, the destination is what it was.** -/
theorem drop_of_fill (h : b.fill position destination = (some count, out)) :
    out.drop count = destination.drop count := by
  obtain ⟨-, rfl, rfl⟩ := fill_eq_some_iff.1 h
  rw [List.drop_left]

theorem length_of_fill (h : b.fill position destination = (some count, out)) :
    out.length = destination.length := by
  have hle := (count_of_fill h).2
  obtain ⟨-, rfl, rfl⟩ := fill_eq_some_iff.1 h
  rw [List.length_append, List.length_drop]
  omega

/-- **Something is copied exactly if the byte at the position is cached**, and
there is room for it. -/
theorem isSome_fill_iff (hs : b.cache.Sized) :
    (b.fill position destination).1.isSome = true ↔
      destination ≠ [] ∧ (b.cache.byte? position).isSome = true := by
  rw [ne_eq, ← List.length_eq_zero_iff, ← Cache.read_ne_nil_iff hs, fill]
  split
  · next h => simp [h]
  · next hne => exact ⟨fun _ => hne, fun _ => rfl⟩

/-- Room for one byte is filled exactly if the byte is cached. -/
theorem fill_singleton_iff (hs : b.cache.Sized) (x : UInt8) :
    (b.fill position [x]).1 = some 1 ↔ (b.cache.byte? position).isSome = true := by
  have hsome : (b.fill position [x]).1.isSome = true ↔
      [x] ≠ [] ∧ (b.cache.byte? position).isSome = true := isSome_fill_iff hs
  constructor
  · intro h
    rw [h] at hsome
    exact (hsome.1 rfl).2
  · intro h
    obtain ⟨count, hcount⟩ := Option.isSome_iff_exists.1 (hsome.2 ⟨List.cons_ne_nil _ _, h⟩)
    have hfill : b.fill position [x] = (some count, (b.fill position [x]).2) := Prod.ext hcount rfl
    obtain ⟨hlo, hhi⟩ := count_of_fill hfill
    rw [List.length_singleton] at hhi
    rw [hcount, Nat.le_antisymm hhi hlo]

end ReadAhead.Buffer
