/-
What a cache holds, as a function of positions. Blocks, fill levels and tables
are how the cache stores bytes; what a reader and a writer agree on is which byte
is cached at which position. `byte?` is that view, and every operation of the
cache has one equation through it.

Two conditions make the view faithful. A cache is `Sized` if no block holds more
than a block's worth of bytes: then bytes of different blocks never share a
position. A position is `Writable` if its block is filled up to it: then a write
there puts each byte where the view expects it, and no block claims a byte that
nobody wrote.
-/
import ReadAhead.Cache.Span

set_option autoImplicit false

namespace ReadAhead.Cache

/-! ## The view -/

/-- The cached byte at a position. -/
def byte? (c : Cache) (position : Nat) : Option UInt8 :=
  (c.block? (c.geometry.blockOf position)).bind (·.data[c.geometry.offsetOf position]?)

/-- Length of the filled part of a block, zero if the block is not cached. -/
def filledAt (c : Cache) (id : Nat) : Nat := ((c.block? id).map Block.filled).getD 0

/-- Every cached block has the capacity of the geometry and holds no more. -/
def Sized (c : Cache) : Prop :=
  ∀ id block, c.block? id = some block →
    block.capacity = c.geometry.size ∧ block.filled ≤ c.geometry.size

/-- A write at the position leaves no hole. -/
def Writable (c : Cache) (position : Nat) : Prop :=
  c.geometry.offsetOf position ≤ c.filledAt (c.geometry.blockOf position)

theorem filledAt_of_block? {c : Cache} {id : Nat} {block : Block} (h : c.block? id = some block) :
    c.filledAt id = block.filled := by
  simp [filledAt, h]

/-- Only a cached block is filled. -/
theorem block?_of_lt_filledAt {c : Cache} {id offset : Nat} (h : offset < c.filledAt id) :
    ∃ block, c.block? id = some block ∧ offset < block.filled := by
  cases hblock : c.block? id with
  | none =>
    rw [filledAt, hblock] at h
    exact absurd h (Nat.not_lt_zero offset)
  | some block =>
    rw [filledAt_of_block? hblock] at h
    exact ⟨block, rfl, h⟩

theorem contains_iff {c : Cache} {id : Nat} :
    c.contains id = true ↔ ∃ block, c.block? id = some block := by
  rw [contains, Option.isSome_iff_exists]

/-- **A byte is cached where its block is filled past it.** -/
theorem isSome_byte?_iff (c : Cache) (position : Nat) :
    (c.byte? position).isSome = true ↔
      c.geometry.offsetOf position < c.filledAt (c.geometry.blockOf position) := by
  rw [byte?, filledAt]
  cases c.block? (c.geometry.blockOf position) with
  | none => simp
  | some block => simp [Block.filled]

/-- A byte that is cached lies in the filled part of a cached block. -/
theorem block?_of_isSome_byte? {c : Cache} {position : Nat}
    (h : (c.byte? position).isSome = true) :
    ∃ block, c.block? (c.geometry.blockOf position) = some block ∧
      c.geometry.offsetOf position < block.filled :=
  block?_of_lt_filledAt ((isSome_byte?_iff c position).1 h)

/-- A block is filled as far as its positions have bytes. -/
theorem isSome_byte?_startOf_add_iff (c : Cache) (id : Nat) {offset : Nat}
    (h : offset < c.geometry.size) :
    (c.byte? (c.geometry.startOf id + offset)).isSome = true ↔ offset < c.filledAt id := by
  rw [isSome_byte?_iff, c.geometry.blockOf_startOf_add id h, c.geometry.offsetOf_startOf_add id h]

/-- The byte at an offset of a block. -/
theorem byte?_startOf_add (c : Cache) (id : Nat) {offset : Nat} (h : offset < c.geometry.size) :
    c.byte? (c.geometry.startOf id + offset) = (c.block? id).bind (·.data[offset]?) := by
  rw [byte?, c.geometry.blockOf_startOf_add id h, c.geometry.offsetOf_startOf_add id h]

/-- A position at the start of a block is always writable. -/
theorem writable_of_offsetOf_eq_zero {c : Cache} {position : Nat}
    (h : c.geometry.offsetOf position = 0) : c.Writable position := by
  rw [Writable, h]
  exact Nat.zero_le _

/-- **The position behind a cached byte is writable**, in the same block or at the
start of the next one. -/
theorem writable_succ {c : Cache} {position : Nat} (h : (c.byte? position).isSome = true) :
    c.Writable (position + 1) := by
  rw [isSome_byte?_iff] at h
  have hlt := c.geometry.offsetOf_lt position
  rcases Nat.lt_or_ge (c.geometry.offsetOf position + 1) c.geometry.size with hin | hend
  · rw [Writable, c.geometry.blockOf_add position 1 hin, c.geometry.offsetOf_add position 1 hin]
    exact h
  · exact writable_of_offsetOf_eq_zero (c.geometry.offsetOf_add_of_eq position 1 (by omega))

/-! ## One operation, one equation -/

theorem block?_empty (label : String) (geometry : Geometry) (budget id : Nat) :
    (empty label geometry budget).block? id = none :=
  Table.get?_empty id

theorem sized_empty (label : String) (geometry : Geometry) (budget : Nat) :
    (empty label geometry budget).Sized := by
  intro id block h
  rw [block?_empty] at h
  cases h

@[simp] theorem geometry_write (c : Cache) (id offset : Nat) (bytes : Bytes) :
    (c.write id offset bytes).2.geometry = c.geometry := rfl

theorem block?_ensure (c : Cache) (id j : Nat) :
    (c.ensure id).block? j =
      if j = id then some ((c.block? id).getD (.empty c.geometry.size)) else c.block? j := by
  rw [ensure, block?]
  dsimp only
  -- A block that is there already is left as it is.
  cases hblock : c.block? id with
  | none =>
    rw [contains, hblock, Option.isSome_none, if_neg Bool.false_ne_true, Table.get?_put]
    rfl
  | some block =>
    rw [contains, hblock, Option.isSome_some, if_pos rfl]
    split
    · next h => rw [h]; exact hblock
    · rfl

/-- A block that was just made sure of is the one that a write goes to. -/
theorem block?_write (c : Cache) (id offset : Nat) (bytes : Bytes) (j : Nat) :
    (c.write id offset bytes).2.block? j =
      if j = id then some (((c.block? id).getD (.empty c.geometry.size)).write offset bytes).2
      else c.block? j := by
  -- The block is made sure of first, so the write finds it whatever was there before.
  have hput : (c.write id offset bytes).2.block? j =
      if j = id then
        some ((((c.ensure id).block? id).getD (.empty c.geometry.size)).write offset bytes).2
      else (c.ensure id).block? j := Table.get?_put _ _ _ _
  rw [hput, block?_ensure, block?_ensure, if_pos rfl, Option.getD_some]
  split <;> rfl

theorem fst_write (c : Cache) (id offset : Nat) (bytes : Bytes) :
    (c.write id offset bytes).1 =
      (((c.block? id).getD (.empty c.geometry.size)).write offset bytes).1 := by
  rw [write]
  dsimp only
  rw [block?_ensure, if_pos rfl, Option.getD_some]

theorem block?_erase (c : Cache) (id j : Nat) :
    (c.erase id).block? j = if j = id then none else c.block? j :=
  Table.get?_erase _ _ _

theorem contains_write (c : Cache) (id offset : Nat) (bytes : Bytes) (j : Nat) :
    (c.write id offset bytes).2.contains j = true ↔ j = id ∨ c.contains j = true := by
  rw [contains, block?_write]
  by_cases h : j = id
  · simp [h]
  · simp [h, contains]

/-! ## Sized caches -/

/-- The block that a write goes to, new or not, has the capacity of the geometry
and holds no more. -/
theorem Sized.getD {c : Cache} (hs : c.Sized) (id : Nat) :
    ((c.block? id).getD (.empty c.geometry.size)).capacity = c.geometry.size ∧
      ((c.block? id).getD (.empty c.geometry.size)).filled ≤ c.geometry.size := by
  cases hblock : c.block? id with
  | none => exact ⟨rfl, Nat.zero_le _⟩
  | some block => exact hs id block hblock

theorem Sized.filledAt_le {c : Cache} (hs : c.Sized) (id : Nat) :
    c.filledAt id ≤ c.geometry.size := by
  rw [filledAt]
  cases hblock : c.block? id with
  | none => exact Nat.zero_le _
  | some block => exact (hs id block hblock).2

theorem filled_getD (c : Cache) (id : Nat) :
    ((c.block? id).getD (.empty c.geometry.size)).filled = c.filledAt id := by
  rw [filledAt]
  cases c.block? id <;> rfl

/-- A write takes what fits between the offset and the end of the block. -/
theorem Sized.fst_write {c : Cache} (hs : c.Sized) (id offset : Nat) (bytes : Bytes) :
    (c.write id offset bytes).1 = min bytes.length (c.geometry.size - offset) := by
  rw [Cache.fst_write, Block.fst_write, (hs.getD id).1]

theorem Sized.write {c : Cache} (hs : c.Sized) {id offset : Nat} (bytes : Bytes)
    (ho : offset ≤ c.filledAt id) : (c.write id offset bytes).2.Sized := by
  intro j block h
  rw [block?_write] at h
  split at h
  · obtain rfl := Option.some.inj h
    obtain ⟨hcap, hfill⟩ := hs.getD id
    -- The write goes no further than the capacity, and the capacity is the block size.
    rw [← filled_getD] at ho
    rw [Block.capacity_write, Block.filled_write _ _ _ ho, Block.fst_write, geometry_write, hcap]
    exact ⟨rfl, by omega⟩
  · exact hs j block h

theorem Sized.erase {c : Cache} (hs : c.Sized) (id : Nat) : (c.erase id).Sized := by
  intro j block h
  rw [block?_erase] at h
  split at h
  · cases h
  · exact hs j block h

/-- **Writing at a position.** From there to the end of its block, the bytes
written are what is cached; everything else stays. -/
theorem byte?_write {c : Cache} (hs : c.Sized) {position : Nat} (hw : c.Writable position)
    (bytes : Bytes) (q : Nat) :
    (c.write (c.geometry.blockOf position) (c.geometry.offsetOf position) bytes).2.byte? q =
      if c.geometry.blockOf q = c.geometry.blockOf position ∧ position ≤ q ∧
        q < position + bytes.length then bytes[q - position]?
      else c.byte? q := by
  rw [byte?, geometry_write, block?_write]
  by_cases hblock : c.geometry.blockOf q = c.geometry.blockOf position
  · -- In one block, positions and offsets differ by the same amount.
    have hp := c.geometry.startOf_add_offsetOf position
    have hq := c.geometry.startOf_add_offsetOf q
    rw [hblock] at hq
    have hdiff : c.geometry.offsetOf q - c.geometry.offsetOf position = q - position := by omega
    obtain ⟨hcap, -⟩ := hs.getD (c.geometry.blockOf position)
    rw [Writable, ← filled_getD] at hw
    rw [if_pos hblock, Option.bind_some,
      Block.getElem?_data_write _ _ _ hw (hcap.symm ▸ c.geometry.offsetOf_lt q), hdiff]
    by_cases hin : position ≤ q ∧ q < position + bytes.length
    · rw [if_pos (by omega), if_pos ⟨hblock, hin⟩]
    · rw [if_neg (by omega), if_neg (fun h => hin h.2), byte?, hblock]
      cases c.block? (c.geometry.blockOf position) with
      | none => simp [Block.empty]
      | some block => rfl
  · rw [if_neg hblock, if_neg (fun h => hblock h.1), byte?]

end ReadAhead.Cache
