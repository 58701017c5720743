/-
What reading gives back, through the view of a cache by positions: the bytes
found from a position on are the cached bytes of the positions from there on,
and something is found exactly if the first of them is cached.

Reading starts from the last block not above the wanted one. In a sized cache
that block holds the position only if it is the wanted block itself, so looking
for a lower block never finds bytes that do not belong there.
-/
import ReadAhead.Proofs.Cache.Contents

set_option autoImplicit false

namespace ReadAhead.Cache

variable {c : Cache}

/-! ## The block of a position -/

/-- In a sized cache, a block that reaches past a position at or behind its start
is the position's block. -/
theorem Sized.blockOf_eq (hs : c.Sized) {id position : Nat} {block : Block}
    (hb : c.block? id = some block) (hlo : c.geometry.startOf id ≤ position)
    (hhi : position < c.geometry.startOf id + block.filled) :
    c.geometry.blockOf position = id := by
  have hfill := (hs id block hb).2
  obtain ⟨k, rfl⟩ := Nat.exists_eq_add_of_le hlo
  exact c.geometry.blockOf_startOf_add id (by omega)

/-- A full block is filled to the block size. -/
theorem Sized.filled_of_isFull (hs : c.Sized) {id : Nat} {block : Block}
    (hb : c.block? id = some block) (hfull : block.isFull = true) :
    block.filled = c.geometry.size := by
  rw [← (hs id block hb).1]
  simpa [Block.isFull] using hfull

/-- The byte at an offset inside the filled part of a block. -/
theorem Sized.byte?_of_block? (hs : c.Sized) {id offset : Nat} {block : Block}
    (hb : c.block? id = some block) (ho : offset < block.filled) :
    c.byte? (c.geometry.startOf id + offset) = block.data[offset]? := by
  have hfill := (hs id block hb).2
  rw [byte?_startOf_add c id (by omega), hb, Option.bind_some]

/-- **A position is covered exactly if its byte is cached.** -/
theorem covers_iff (hs : c.Sized) (position : Nat) :
    c.covers position = true ↔ (c.byte? position).isSome = true := by
  have hsplit := c.geometry.startOf_add_offsetOf position
  constructor
  · intro h
    unfold covers at h
    split at h
    · next id block hfloor =>
      obtain ⟨hget, hle⟩ := Table.get?_of_floor? hfloor
      have hhi : position < c.geometry.startOf id + block.filled := by simpa using h
      -- A lower block does not reach this far, so the one found is the position's own.
      have hid := hs.blockOf_eq hget ((c.geometry.startOf_le_iff id position).2 hle) hhi
      rw [isSome_byte?_iff]
      rw [hid] at hsplit ⊢
      rw [filledAt_of_block? hget]
      omega
    · cases h
  · intro h
    obtain ⟨block, hblock, hfilled⟩ := block?_of_isSome_byte? h
    have hfloor : c.floor? (c.geometry.blockOf position) = some (_, block) :=
      Table.floor?_of_get? hblock
    rw [covers, hfloor]
    simp only [decide_eq_true_eq]
    omega

/-! ## Reading on -/

section

variable {g : Geometry} {id expected position want : Nat} {block : Block}
  {rest : List (BlockId × Block)}

/-- A block is missing, or there is enough, or the block does not reach the position. -/
theorem collect_of_stop
    (h : id ≠ expected ∨ want = 0 ∨ g.startOf id + block.filled ≤ position) :
    collect g ((id, block) :: rest) expected position want = [] := by
  rw [collect]
  by_cases hgap : id ≠ expected ∨ want = 0
  · rw [if_pos hgap]
  · rw [if_neg hgap]
    rcases h with hid | hwant | hreach
    · exact absurd (.inl hid) hgap
    · exact absurd (.inr hwant) hgap
    · rw [if_pos hreach]

theorem reach_of_not_stop
    (h : ¬ (id ≠ expected ∨ want = 0 ∨ g.startOf id + block.filled ≤ position)) :
    id = expected ∧ want ≠ 0 ∧ position < g.startOf id + block.filled := by
  simp only [not_or, Decidable.not_not, Nat.not_le] at h
  exact h

/-- The expected block gives what is wanted of it, and if it is full, the blocks behind it
give the rest. -/
theorem collect_of_reach (hid : id = expected) (hwant : want ≠ 0)
    (hreach : position < g.startOf id + block.filled) :
    collect g ((id, block) :: rest) expected position want =
      (block.data.drop (position - g.startOf id)).take want ++
        if block.isFull = true then
          collect g rest (expected + 1)
            (position + ((block.data.drop (position - g.startOf id)).take want).length)
            (want - ((block.data.drop (position - g.startOf id)).take want).length)
        else [] := by
  have hgo : ¬ (id ≠ expected ∨ want = 0) := fun hstop => hstop.elim (· hid) hwant
  rw [collect, if_neg hgo, if_neg (Nat.not_le.2 hreach)]
  dsimp only
  by_cases hfull : block.isFull = true
  · rw [if_pos hfull, if_pos hfull]
  · rw [if_neg hfull, if_neg hfull, List.append_nil]

end

theorem length_collect_le (g : Geometry) (entries : List (BlockId × Block))
    (expected position want : Nat) :
    (collect g entries expected position want).length ≤ want := by
  induction entries generalizing expected position want with
  | nil => exact Nat.zero_le _
  | cons entry rest ih =>
    obtain ⟨id, block⟩ := entry
    by_cases hstop : id ≠ expected ∨ want = 0 ∨ g.startOf id + block.filled ≤ position
    · rw [collect_of_stop hstop]
      exact Nat.zero_le _
    obtain ⟨hid, hwant, hreach⟩ := reach_of_not_stop hstop
    have hchunk := List.length_take_le want (block.data.drop (position - g.startOf id))
    rw [collect_of_reach hid hwant hreach, List.length_append]
    split
    · have hmore := ih (expected + 1)
        (position + ((block.data.drop (position - g.startOf id)).take want).length)
        (want - ((block.data.drop (position - g.startOf id)).take want).length)
      omega
    · exact hchunk

/-- **What is collected is what is cached.** The induction is on the blocks that
are left; from a full block to the next one the position is the start of the
expected block, unless there is enough already. -/
theorem getElem?_collect (hs : c.Sized) (entries : List (BlockId × Block))
    (hmem : ∀ entry ∈ entries, c.block? entry.1 = some entry.2) {expected position want : Nat}
    (hpos : want = 0 ∨ c.geometry.startOf expected ≤ position) {i : Nat}
    (hi : i < (collect c.geometry entries expected position want).length) :
    (collect c.geometry entries expected position want)[i]? = c.byte? (position + i) := by
  induction entries generalizing expected position want i with
  | nil => exact absurd hi (Nat.not_lt_zero i)
  | cons entry rest ih =>
    obtain ⟨id, block⟩ := entry
    have hb : c.block? id = some block := hmem _ List.mem_cons_self
    by_cases hstop : id ≠ expected ∨ want = 0 ∨ c.geometry.startOf id + block.filled ≤ position
    · rw [collect_of_stop hstop] at hi
      exact absurd hi (Nat.not_lt_zero i)
    obtain ⟨rfl, hwant, hreach⟩ := reach_of_not_stop hstop
    rw [collect_of_reach rfl hwant hreach] at hi ⊢
    have hlo : c.geometry.startOf id ≤ position := hpos.resolve_left hwant
    obtain ⟨offset, rfl⟩ := Nat.exists_eq_add_of_le hlo
    rw [Nat.add_sub_cancel_left] at hi ⊢
    have hlen : ((block.data.drop offset).take want).length = min want (block.filled - offset) := by
      rw [List.length_take, List.length_drop, Block.filled]
    by_cases hj : i < ((block.data.drop offset).take want).length
    · rw [List.getElem?_append_left hj, List.getElem?_take_of_lt (by omega), List.getElem?_drop,
        Nat.add_assoc, hs.byte?_of_block? hb (by omega)]
    · rw [List.length_append] at hi
      rw [List.getElem?_append_right (Nat.not_lt.1 hj)]
      by_cases hfull : block.isFull = true
      · have hsize := hs.filled_of_isFull hb hfull
        have hnext := c.geometry.startOf_succ id
        rw [if_pos hfull] at hi ⊢
        rw [ih (fun entry hin => hmem entry (List.mem_cons_of_mem _ hin)) (by omega) (by omega)]
        congr 1
        omega
      · rw [if_neg hfull, List.length_nil] at hi
        exact absurd hi hj

/-! ## Reading -/

theorem length_read_le (c : Cache) (position want : Nat) :
    (c.read position want).length ≤ want := by
  rw [read]
  split
  · exact Nat.zero_le _
  · exact length_collect_le _ _ _ _ _

/-- **What is read is what is cached**, byte by byte. -/
theorem getElem?_read (hs : c.Sized) {position want i : Nat}
    (hi : i < (c.read position want).length) :
    (c.read position want)[i]? = c.byte? (position + i) := by
  rw [read] at hi ⊢
  split at hi
  · exact absurd hi (Nat.not_lt_zero i)
  next id block hfloor =>
  obtain ⟨hget, hle⟩ := Table.get?_of_floor? hfloor
  refine getElem?_collect hs _ ?_ (.inr ((c.geometry.startOf_le_iff id position).2 hle)) hi
  intro entry hin
  rcases List.mem_cons.1 hin with rfl | hin
  · exact hget
  · exact (Table.mem_above.1 hin).1

/-- **Something is read exactly if the first byte is cached**, and wanted. -/
theorem read_ne_nil_iff (hs : c.Sized) (position want : Nat) :
    c.read position want ≠ [] ↔ want ≠ 0 ∧ (c.byte? position).isSome = true := by
  constructor
  · intro h
    have hpos := List.length_pos_iff.2 h
    have hle := c.length_read_le position want
    have hfirst := getElem?_read hs hpos
    rw [List.getElem?_eq_getElem hpos, Nat.add_zero] at hfirst
    exact ⟨by omega, by rw [← hfirst]; rfl⟩
  · rintro ⟨hwant, hbyte⟩
    have hsplit := c.geometry.startOf_add_offsetOf position
    obtain ⟨block, hblock, hfilled⟩ := block?_of_isSome_byte? hbyte
    have hfloor : c.floor? (c.geometry.blockOf position) = some (_, block) :=
      Table.floor?_of_get? hblock
    have hchunk : 0 < ((block.data.drop
        (position - c.geometry.startOf (c.geometry.blockOf position))).take want).length := by
      rw [Block.filled] at hfilled
      rw [List.length_take, List.length_drop]
      omega
    rw [read, hfloor]
    dsimp only
    -- The first block collected from has a byte to give, whatever the others add.
    rw [collect_of_reach rfl hwant (by omega)]
    exact List.append_ne_nil_of_left_ne_nil (List.ne_nil_of_length_pos hchunk) _

end ReadAhead.Cache
