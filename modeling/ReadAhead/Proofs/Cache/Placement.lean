/-
Where the bytes of a chunk go, block by block. The view by positions says which byte is
cached where; a cache is also asked which block holds it and how far that one is filled.

For the blocks a chunk touches the answer follows from the view, since a block is filled as
far as its positions have bytes. For the others it is a matter of the rounds: none of them
writes outside the range that is still to be written, and that range only shrinks.
-/
import ReadAhead.Proofs.Cache.Ingestion

set_option autoImplicit false

namespace ReadAhead.Cache

/-! ## Fill levels and the view -/

/-- **A fill level is determined by the offsets below it.** -/
theorem Sized.filledAt_eq {c : Cache} (hs : c.Sized) {id level : Nat}
    (hlevel : level ≤ c.geometry.size)
    (h : ∀ offset < c.geometry.size,
      (c.byte? (c.geometry.startOf id + offset)).isSome = true ↔ offset < level) :
    c.filledAt id = level := by
  have hle := hs.filledAt_le id
  have hsame : ∀ offset < c.geometry.size, offset < c.filledAt id ↔ offset < level := by
    intro offset hoffset
    rw [← isSome_byte?_startOf_add_iff c id hoffset]
    exact h offset hoffset
  -- The smaller one of two different levels would be an offset below the other.
  rcases Nat.lt_trichotomy (c.filledAt id) level with hlt | heq | hlt
  · exact absurd ((hsame _ (by omega)).2 hlt) (Nat.lt_irrefl _)
  · exact heq
  · exact absurd ((hsame _ (by omega)).1 hlt) (Nat.lt_irrefl _)

/-! ## The loop -/

namespace Ingestion

variable {i : Ingestion}

/-- **A round leaves less to be done**, if anything is left at all. -/
theorem length_left_round_lt (hs : i.cache.Sized) (h : i.left ≠ []) :
    i.round.left.length < i.left.length := by
  have hpos := share_pos h
  have hle := i.share_le
  rw [round_of_ne_nil h hs]
  dsimp only
  rw [List.length_drop]
  omega

theorem rounds_of_nil (h : i.left = []) (n : Nat) : rounds n i = i := by
  induction n with
  | zero => rfl
  | succ n ih => rw [rounds, round_of_nil h, ih]

theorem rounds_add (m n : Nat) (i : Ingestion) : rounds (m + n) i = rounds n (rounds m i) := by
  induction m generalizing i with
  | zero => rw [Nat.zero_add, rounds]
  | succ m ih => rw [Nat.succ_add, rounds, ih, rounds]

theorem rounds_succ (n : Nat) (i : Ingestion) : rounds (n + 1) i = (rounds n i).round := by
  rw [rounds_add, rounds, rounds]

/-- **The loop ends with the whole chunk stored**, however many rounds it may take. -/
theorem rounds_of_length_le {c : Cache} {position : Nat} {bytes : Bytes}
    (hr : Ready ⟨c, position, bytes⟩) {n : Nat} (h : bytes.length ≤ n) :
    rounds n ⟨c, position, bytes⟩ =
      ⟨c.ingest position bytes, position + bytes.length, []⟩ := by
  have hend := left_rounds bytes.length hr (Nat.le_refl _)
  have hpos := position_rounds bytes.length hr
  obtain ⟨more, rfl⟩ := Nat.exists_eq_add_of_le h
  rw [rounds_add, rounds_of_nil hend, ingest]
  generalize rounds bytes.length ⟨c, position, bytes⟩ = last at hend hpos ⊢
  obtain ⟨cache, reached, left⟩ := last
  obtain rfl : left = [] := hend
  obtain rfl : reached = position + bytes.length := hpos
  rfl

/-! ## Blocks that are not touched -/

/-- The block holds a position of the range. -/
def Touches (g : Geometry) (position count id : Nat) : Prop :=
  ∃ q, position ≤ q ∧ q < position + count ∧ g.blockOf q = id

/-- A round writes to one block of the range and leaves the rest of the range to be written. -/
theorem block?_round (hs : i.cache.Sized) {id : Nat}
    (h : ¬ Touches i.cache.geometry i.position i.left.length id) :
    i.round.cache.block? id = i.cache.block? id ∧
      ¬ Touches i.round.cache.geometry i.round.position i.round.left.length id := by
  by_cases hnil : i.left = []
  · rw [round_of_nil hnil]
    exact ⟨rfl, h⟩
  have hpos := share_pos hnil
  have hle := i.share_le
  have hother : id ≠ i.cache.geometry.blockOf i.position := by
    rintro rfl
    exact h ⟨i.position, Nat.le_refl _, by omega, rfl⟩
  rw [round_of_ne_nil hnil hs]
  dsimp only
  rw [block?_write, if_neg hother, geometry_write, List.length_drop]
  refine ⟨rfl, ?_⟩
  rintro ⟨q, hlo, hhi, hq⟩
  exact h ⟨q, by omega, by omega, hq⟩

theorem block?_rounds (n : Nat) (hr : i.Ready) {id : Nat}
    (h : ¬ Touches i.cache.geometry i.position i.left.length id) :
    (rounds n i).cache.block? id = i.cache.block? id := by
  induction n generalizing i with
  | zero => rfl
  | succ n ih =>
    obtain ⟨hsame, hrest⟩ := block?_round hr.sized h
    rw [rounds, ih (ready_round hr) hrest, hsame]

end Ingestion

/-! ## A chunk in its place -/

/-- What becomes of a cache in which a chunk is stored from a position on. -/
structure Places (c : Cache) (position : Nat) (bytes : Bytes) (c' : Cache) : Prop where
  /-- Every byte is in the block of its position, at its offset there. -/
  placed : ∀ i x, bytes[i]? = some x →
    ∃ block, c'.block? (c.geometry.blockOf (position + i)) = some block ∧
      block.data[c.geometry.offsetOf (position + i)]? = some x
  /-- A block that is touched is filled as far as before, or to the end of what was written. -/
  filled : ∀ id, Ingestion.Touches c.geometry position bytes.length id →
    c'.filledAt id =
      max (c.filledAt id) (min c.geometry.size (position + bytes.length - c.geometry.startOf id))
  /-- Bytes that are not overwritten stay. -/
  elsewhere : ∀ q, q < position ∨ position + bytes.length ≤ q → c'.byte? q = c.byte? q
  /-- Blocks that are not touched stay. -/
  untouched : ∀ id, ¬ Ingestion.Touches c.geometry position bytes.length id →
    c'.block? id = c.block? id

section

variable {c : Cache} {position : Nat} (hs : c.Sized) (hw : c.Writable position) (bytes : Bytes)
include hs hw

/-- **How far a touched block is filled.** Offsets before the chunk were filled before,
since the chunk begins where it leaves no hole. -/
theorem filledAt_ingest {id : Nat} (h : Ingestion.Touches c.geometry position bytes.length id) :
    (c.ingest position bytes).filledAt id =
      max (c.filledAt id)
        (min c.geometry.size (position + bytes.length - c.geometry.startOf id)) := by
  have hs' := hs.ingest hw bytes
  have hgeometry := geometry_ingest c position bytes
  apply hs'.filledAt_eq
  · have := hs.filledAt_le id
    rw [hgeometry]
    omega
  · intro offset hoffset
    rw [hgeometry] at hoffset ⊢
    rw [byte?_ingest hs hw]
    by_cases hin : position ≤ c.geometry.startOf id + offset ∧
        c.geometry.startOf id + offset < position + bytes.length
    · rw [if_pos hin, List.getElem?_eq_getElem (by omega)]
      exact iff_of_true rfl (by omega)
    · rw [if_neg hin, isSome_byte?_startOf_add_iff c id hoffset]
      obtain ⟨q, hlo, hhi, rfl⟩ := h
      have hsplit := c.geometry.startOf_add_offsetOf q
      have hlt := c.geometry.offsetOf_lt q
      -- In front of the chunk there is only the block that it begins in.
      have hfront : c.geometry.startOf (c.geometry.blockOf q) + offset < position →
          offset < c.filledAt (c.geometry.blockOf q) := by
        intro hbefore
        have hle : c.geometry.blockOf q ≤ c.geometry.blockOf position :=
          (c.geometry.startOf_le_iff _ _).1 (by omega)
        have hblock : c.geometry.blockOf position = c.geometry.blockOf q :=
          Nat.le_antisymm (c.geometry.blockOf_mono hlo) hle
        have hstart := c.geometry.startOf_add_offsetOf position
        rw [Writable, hblock] at hw
        rw [hblock] at hstart
        omega
      omega

theorem places_ingest : c.Places position bytes (c.ingest position bytes) where
  placed := by
    intro i x hx
    have hi : i < bytes.length := (List.getElem?_eq_some_iff.1 hx).1
    have hbyte : (c.ingest position bytes).byte? (position + i) = some x := by
      rw [byte?_ingest hs hw, if_pos ⟨Nat.le_add_right _ _, by omega⟩, Nat.add_sub_cancel_left]
      exact hx
    rw [byte?, geometry_ingest] at hbyte
    exact Option.bind_eq_some_iff.1 hbyte
  filled := fun id h => filledAt_ingest hs hw bytes h
  elsewhere := by
    intro q hq
    rw [byte?_ingest hs hw, if_neg (by omega)]
  untouched := fun id h => Ingestion.block?_rounds bytes.length ⟨hs, hw⟩ h

end

end ReadAhead.Cache
