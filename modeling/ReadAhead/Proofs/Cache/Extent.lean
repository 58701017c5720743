/-
How far reading goes: to the end of the cached run, and no further than wanted.

Reading goes through the blocks in the order of their ids and has several reasons to stop:
a block is missing, there is enough, a block does not reach the position, a block is not
full. Each reason but the second means that the next position is not cached, given that the
blocks ahead are all the cached ones from the expected id on. This is what `Lists` says, and
going on to the next block keeps it.
-/
import Mathlib.Data.Nat.Find
import ReadAhead.Proofs.Cache.Reading

set_option autoImplicit false

namespace ReadAhead.Cache

variable {c : Cache} {position want : Nat}

/-! ## Cached positions -/

/-- The position's block is cached, and filled past the position. -/
def Caches (c : Cache) (position : Nat) : Prop :=
  ∃ block, c.block? (c.geometry.blockOf position) = some block ∧
    position - c.geometry.startOf (c.geometry.blockOf position) < block.filled

/-- **The cached positions are those that have a byte.** -/
theorem caches_iff : c.Caches position ↔ (c.byte? position).isSome = true := by
  have hsplit := c.geometry.startOf_add_offsetOf position
  constructor
  · rintro ⟨block, hblock, hfilled⟩
    rw [isSome_byte?_iff, filledAt_of_block? hblock]
    omega
  · intro h
    obtain ⟨block, hblock, hfilled⟩ := block?_of_isSome_byte? h
    exact ⟨block, hblock, by omega⟩

instance (c : Cache) (position : Nat) : Decidable (c.Caches position) :=
  decidable_of_iff _ caches_iff.symm

/-- Within a cached block, the cached positions are those before the end of its filled part. -/
theorem caches_startOf_add_iff {id offset : Nat} {block : Block} (hb : c.block? id = some block)
    (h : offset < c.geometry.size) :
    c.Caches (c.geometry.startOf id + offset) ↔ offset < block.filled := by
  rw [caches_iff, isSome_byte?_startOf_add_iff c id h, filledAt_of_block? hb]

/-! ## The end of a run -/

/-- The number of cached positions from a position on, without a gap, is `length`. -/
structure Extends (c : Cache) (position length : Nat) : Prop where
  cached : ∀ i < length, c.Caches (position + i)
  ends : ¬ c.Caches (position + length)

/-- Behind the last cached block nothing is cached, from whatever position on one looks. -/
theorem exists_not_caches (c : Cache) (position : Nat) : ∃ n, ¬ c.Caches (position + n) := by
  let last := c.ids.max?.getD 0
  let far := position + c.geometry.startOf (last + 1)
  refine ⟨c.geometry.startOf (last + 1), ?_⟩
  rintro ⟨block, hblock, -⟩
  have hentry : (c.geometry.blockOf far, block) ∈ c.blocks.entries := Table.mem_entries.2 hblock
  have hlow : c.geometry.blockOf far ≤ last :=
    List.le_max?_getD_of_mem (List.mem_map_of_mem hentry)
  have hhigh : last + 1 ≤ c.geometry.blockOf far :=
    (c.geometry.startOf_le_iff _ _).1 (Nat.le_add_left _ _)
  exact Nat.not_succ_le_self last (Nat.le_trans hhigh hlow)

/-- **Every run ends.** -/
theorem exists_extends (c : Cache) (position : Nat) : ∃ length, c.Extends position length := by
  have hend := c.exists_not_caches position
  refine ⟨Nat.find hend, ⟨fun i hi => ?_, Nat.find_spec hend⟩⟩
  exact Decidable.not_not.1 (Nat.find_min hend hi)

/-- **The run is the longest one.** -/
theorem Extends.forall_caches_iff {length : Nat} (h : c.Extends position length) (n : Nat) :
    (∀ i < n, c.Caches (position + i)) ↔ n ≤ length := by
  constructor
  · intro hall
    by_contra hlong
    exact h.ends (hall length (Nat.not_le.1 hlong))
  · intro hle i hi
    exact h.cached i (Nat.lt_of_lt_of_le hi hle)

/-! ## The blocks ahead -/

/-- The entries are the cached blocks from an id on, in order. -/
structure Lists (c : Cache) (first : Nat) (entries : List (BlockId × Block)) : Prop where
  mem_iff : ∀ id block, (id, block) ∈ entries ↔ c.block? id = some block ∧ first ≤ id
  ascending : entries.Pairwise fun a b => a.1 < b.1

/-- A cached block and the ones above it. -/
theorem lists_above {id : Nat} {block : Block} (hb : c.block? id = some block) :
    c.Lists id ((id, block) :: c.above id) where
  mem_iff := by
    intro j other
    rw [List.mem_cons, above, Table.mem_above, Prod.mk.injEq]
    constructor
    · rintro (⟨rfl, rfl⟩ | ⟨hother, hlt⟩)
      · exact ⟨hb, Nat.le_refl j⟩
      · exact ⟨hother, Nat.le_of_lt hlt⟩
    · rintro ⟨hother, hle⟩
      rcases Nat.eq_or_lt_of_le hle with rfl | hlt
      · exact .inl ⟨rfl, Option.some.inj (hother.symm.trans hb)⟩
      · exact .inr ⟨hother, hlt⟩
  ascending := by
    refine List.pairwise_cons.2 ⟨fun entry hentry => (Table.mem_above.1 hentry).2, ?_⟩
    exact c.blocks.pairwise_entries.filter _

section

variable {first id : Nat} {block : Block} {rest : List (BlockId × Block)}

/-- If the first block is cached, it is the one in front. -/
theorem Lists.head_eq (hl : c.Lists first ((id, block) :: rest)) {other : Block}
    (hb : c.block? first = some other) : id = first := by
  have hfront := ((hl.mem_iff id block).1 List.mem_cons_self).2
  rcases List.mem_cons.1 ((hl.mem_iff first other).2 ⟨hb, Nat.le_refl _⟩) with heq | hin
  · exact (congrArg Prod.fst heq).symm
  · have hlt : id < first := (List.pairwise_cons.1 hl.ascending).1 _ hin
    omega

/-- **Going on to the next block.** -/
theorem Lists.tail (hl : c.Lists first ((id, block) :: rest)) : c.Lists (id + 1) rest where
  mem_iff := by
    have hfront := ((hl.mem_iff id block).1 List.mem_cons_self).2
    obtain ⟨habove, -⟩ := List.pairwise_cons.1 hl.ascending
    intro j other
    constructor
    · intro hin
      exact ⟨((hl.mem_iff j other).1 (List.mem_cons_of_mem _ hin)).1, habove _ hin⟩
    · rintro ⟨hother, hlt⟩
      rcases List.mem_cons.1 ((hl.mem_iff j other).2 ⟨hother, by omega⟩) with heq | hin
      · obtain rfl : j = id := congrArg Prod.fst heq
        omega
      · exact hin
  ascending := (List.pairwise_cons.1 hl.ascending).2

end

/-! ## Reading to the end -/

/-- **Collecting stops short of what is wanted only at a position that is not cached.** The
induction is on the blocks ahead: a full block is left at the start of the next one. -/
theorem not_caches_collect (hs : c.Sized) (entries : List (BlockId × Block))
    (hl : c.Lists (c.geometry.blockOf position) entries)
    (hshort : (collect c.geometry entries (c.geometry.blockOf position) position want).length <
      want) :
    ¬ c.Caches (position +
      (collect c.geometry entries (c.geometry.blockOf position) position want).length) := by
  induction entries generalizing position want with
  | nil =>
    rintro ⟨block, hblock, -⟩
    exact List.not_mem_nil ((hl.mem_iff _ block).2 ⟨hblock, Nat.le_refl _⟩)
  | cons entry rest ih =>
    obtain ⟨id, block⟩ := entry
    have hb : c.block? id = some block := ((hl.mem_iff id block).1 List.mem_cons_self).1
    have hfill := (hs id block hb).2
    have hlt := c.geometry.offsetOf_lt position
    have hsplit := c.geometry.startOf_add_offsetOf position
    by_cases hgap : id ≠ c.geometry.blockOf position
    · -- The block that the position falls into is missing.
      rw [collect_of_stop (.inl hgap)]
      rintro ⟨other, hother, -⟩
      exact hgap (hl.head_eq hother)
    have hid : id = c.geometry.blockOf position := Decidable.not_not.1 hgap
    rw [← hid] at hsplit
    by_cases hreach : c.geometry.startOf id + block.filled ≤ position
    · -- The block does not reach the position.
      rw [collect_of_stop (.inr (.inr hreach)), List.length_nil, Nat.add_zero, ← hsplit,
        caches_startOf_add_iff hb hlt]
      omega
    rw [← hid, collect_of_reach rfl (by omega) (Nat.not_le.1 hreach)] at hshort ⊢
    generalize hoffset : c.geometry.offsetOf position = offset at hlt hsplit
    obtain rfl : position = c.geometry.startOf id + offset := hsplit.symm
    rw [Nat.add_sub_cancel_left] at hshort ⊢
    have hlen : ((block.data.drop offset).take want).length = min want (block.filled - offset) := by
      rw [List.length_take, List.length_drop, Block.filled]
    rw [List.length_append] at hshort ⊢
    by_cases hfull : block.isFull = true
    · have hsize := hs.filled_of_isFull hb hfull
      have hnext : c.geometry.startOf id + offset +
          ((block.data.drop offset).take want).length = c.geometry.startOf (id + 1) := by
        rw [c.geometry.startOf_succ]
        omega
      have hblock : c.geometry.blockOf (c.geometry.startOf id + offset +
          ((block.data.drop offset).take want).length) = id + 1 := by
        rw [hnext, c.geometry.blockOf_startOf]
      have htail : c.Lists (c.geometry.blockOf (c.geometry.startOf id + offset +
          ((block.data.drop offset).take want).length)) rest := by
        rw [hblock]
        exact hl.tail
      rw [if_pos hfull, ← hblock] at hshort ⊢
      rw [← Nat.add_assoc]
      exact ih htail (by omega)
    · -- The block is not full, and ends where it was read to.
      have hpart : block.filled ≠ c.geometry.size := by
        rw [← (hs id block hb).1]
        simpa [Block.isFull] using hfull
      rw [if_neg hfull, List.length_nil, Nat.add_zero] at hshort ⊢
      rw [hlen, Nat.add_assoc, caches_startOf_add_iff hb (by omega)]
      omega

/-- Reading stops short of what is wanted only at a position that is not cached. -/
theorem not_caches_read (hs : c.Sized) (hshort : (c.read position want).length < want) :
    ¬ c.Caches (position + (c.read position want).length) := by
  by_cases hcached : c.Caches position
  · obtain ⟨block, hblock, -⟩ := hcached
    have hfloor : c.floor? (c.geometry.blockOf position) = some (_, block) :=
      Table.floor?_of_get? hblock
    rw [read, hfloor] at hshort ⊢
    exact not_caches_collect hs _ (lists_above hblock) hshort
  · have hnil : c.read position want = [] := by
      by_contra hne
      exact hcached (caches_iff.2 ((read_ne_nil_iff hs position want).1 hne).2)
    rw [hnil]
    exact hcached

/-- **Reading gives the whole run**, or as much of it as is wanted. -/
theorem length_read (hs : c.Sized) {length : Nat} (h : c.Extends position length) (want : Nat) :
    (c.read position want).length = min want length := by
  have hle := c.length_read_le position want
  have hall : ∀ i < (c.read position want).length, c.Caches (position + i) := by
    intro i hi
    rw [caches_iff, ← getElem?_read hs hi, List.getElem?_eq_getElem hi]
    rfl
  have hrun := (h.forall_caches_iff _).1 hall
  by_cases hshort : (c.read position want).length < want
  · have hend := not_caches_read hs hshort
    have hstop : ¬ (c.read position want).length < length := fun hlt => hend (h.cached _ hlt)
    omega
  · omega

end ReadAhead.Cache
