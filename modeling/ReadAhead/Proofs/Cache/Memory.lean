/-
What the cached blocks are charged with, and what giving memory back achieves. The
recency chain and the table of blocks are two accounts of the same blocks, written in
different places; `Tracked` says that they agree, and in which order the chain has the
blocks. Every operation keeps them in agreement, so the memory in use is the block
size times the number of blocks.

That the chain misses no block is what eviction rests on: it goes through the chain,
so a block that the chain had lost could never be given back. Hence a cache is above
its budget after eviction only if every block that is left is pinned.
-/
import ReadAhead.Proofs.Cache.Recency
import ReadAhead.Proofs.Cache.Ingestion
import ReadAhead.Proofs.Cache.Eviction
import Mathlib.Data.List.Perm.Subperm

set_option autoImplicit false

namespace ReadAhead.Cache

/-! ## Two accounts of the same blocks -/

/-- The chain holds the cached blocks and no others, in this order, and charges each
of them in full. -/
structure Tracked (c : Cache) (ids : List BlockId) : Prop where
  chain : c.recency.Tracks (ids.map fun id => (id, c.geometry.size))
  mem_iff : ∀ id, id ∈ ids ↔ c.contains id = true

/-- Chain and table of a cache agree. -/
def Coherent (c : Cache) : Prop := ∃ ids, c.Tracked ids

section

variable {c : Cache} {ids : List BlockId}

theorem map_fst_charge (ids : List BlockId) (size : Nat) :
    (ids.map fun id => (id, size)).map Prod.fst = ids := by
  rw [List.map_map]
  exact List.map_id _

theorem filter_charge (ids : List BlockId) (size : Nat) (id : BlockId) :
    (ids.map fun id => (id, size)).filter (·.1 ≠ id) =
      (ids.filter (· ≠ id)).map fun id => (id, size) := by
  rw [List.filter_map]
  rfl

theorem Tracked.distinct (h : c.Tracked ids) : ids.Nodup := by
  have hkeys := h.chain.distinct
  rwa [map_fst_charge] at hkeys

/-- The chain is walked in the order that is tracked. -/
theorem Tracked.order (h : c.Tracked ids) : c.recency.order = ids := by
  rw [h.chain.order, map_fst_charge]

theorem mem_ids_iff (c : Cache) (id : BlockId) : id ∈ c.ids ↔ c.contains id = true := by
  rw [contains_iff]
  constructor
  · intro h
    obtain ⟨⟨_, block⟩, hin, rfl⟩ := List.mem_map.1 h
    exact ⟨block, Table.mem_entries.1 hin⟩
  · rintro ⟨block, hblock⟩
    exact List.mem_map.2 ⟨(id, block), Table.mem_entries.2 hblock, rfl⟩

theorem length_ids (c : Cache) : c.ids.length = c.count := by
  rw [ids, Table.ids, List.length_map]
  exact Std.ExtTreeMap.length_toList

/-- **Both accounts have as many blocks.** -/
theorem Tracked.count (h : c.Tracked ids) : c.count = ids.length := by
  have hdistinct : c.ids.Nodup := c.blocks.pairwise_ids.imp Nat.ne_of_lt
  have hperm : c.ids.Perm ids := by
    rw [List.perm_ext_iff_of_nodup hdistinct h.distinct]
    intro id
    rw [mem_ids_iff, h.mem_iff]
  rw [← length_ids, hperm.length_eq]

/-- **Every block is charged in full.** -/
theorem Coherent.memory (h : c.Coherent) : c.memory = c.geometry.size * c.count := by
  obtain ⟨ids, h⟩ := h
  have hcharges : ((ids.map fun id => (id, c.geometry.size)).map Prod.snd) =
      List.replicate ids.length c.geometry.size := by
    rw [List.map_map]
    exact List.map_const'
  rw [Cache.memory, h.chain.memory, h.count, hcharges, List.sum_replicate_nat, Nat.mul_comm]

end

/-! ## From single blocks to whole operations -/

section

variable {c : Cache} {P : Cache → Prop}

/-- **What holds of a cache and is kept by every write holds after a chunk was stored.**
The induction is on the rounds. -/
theorem ingest_induction
    (write : ∀ (c : Cache) (id offset : Nat) (bytes : Bytes), P c → P (c.write id offset bytes).2)
    (hc : P c) (position : Nat) (bytes : Bytes) : P (c.ingest position bytes) := by
  have hrounds : ∀ (n : Nat) (i : Ingestion), P i.cache → P (Ingestion.rounds n i).cache := by
    intro n
    induction n with
    | zero => exact fun _ hi => hi
    | succ n ih =>
      intro i hi
      refine ih i.round ?_
      unfold Ingestion.round
      split
      · exact hi
      · exact write _ _ _ _ hi
  exact hrounds bytes.length ⟨c, position, bytes⟩ hc

/-- **What holds of a cache and is kept whichever block goes holds after eviction.** -/
theorem evict_induction (erase : ∀ (c : Cache) (id : BlockId), P c → P (c.erase id)) (hc : P c)
    (pinned : List IdRange) : P (c.evict pinned).2 := by
  have hfold : ∀ (ids : List BlockId) (s : List BlockId × Cache), P s.2 →
      P (ids.foldl shedOne s).2 := by
    intro ids
    induction ids with
    | nil => exact fun _ hs => hs
    | cons id rest ih =>
      intro s hs
      refine ih (shedOne s id) ?_
      unfold shedOne
      split
      · exact erase _ _ hs
      · exact hs
  exact hfold (c.candidates pinned) ([], c) hc

end

/-! ## Every operation -/

section

variable {c : Cache} {ids : List BlockId}

theorem coherent_empty (label : String) (geometry : Geometry) (budget : Nat) :
    (empty label geometry budget).Coherent := by
  refine ⟨[], Recency.tracks_empty, fun id => ?_⟩
  rw [contains, block?_empty]
  simp

theorem contains_ensure (c : Cache) (id j : BlockId) :
    (c.ensure id).contains j = true ↔ j = id ∨ c.contains j = true := by
  rw [contains, block?_ensure, contains]
  by_cases h : j = id <;> simp [h]

/-- **A block that is made sure of** is the last one in the chain. -/
theorem Tracked.ensure (h : c.Tracked ids) (id : BlockId) :
    (c.ensure id).Tracked (ids.filter (· ≠ id) ++ [id]) := by
  refine ⟨?_, fun j => ?_⟩
  · have hchain := h.chain.touch id c.geometry.size
    rw [filter_charge] at hchain
    rw [List.map_append]
    exact hchain
  · rw [contains_ensure, ← h.mem_iff, List.mem_append, List.mem_singleton, List.mem_filter,
      decide_eq_true_iff]
    by_cases hj : j = id <;> simp [hj]

theorem Coherent.write (h : c.Coherent) (id offset : Nat) (bytes : Bytes) :
    (c.write id offset bytes).2.Coherent := by
  obtain ⟨ids, h⟩ := h
  have hensure := h.ensure id
  refine ⟨_, hensure.chain, fun j => ?_⟩
  rw [hensure.mem_iff, contains_write, contains_ensure]

/-- **A block that is removed** is missing from the chain, too. -/
theorem Tracked.erase (h : c.Tracked ids) (id : BlockId) :
    (c.erase id).Tracked (ids.filter (· ≠ id)) := by
  refine ⟨?_, fun j => ?_⟩
  · have hchain := h.chain.remove id
    rw [filter_charge] at hchain
    exact hchain
  · rw [contains, block?_erase, List.mem_filter, decide_eq_true_iff, h.mem_iff, contains]
    by_cases hj : j = id <;> simp [hj]

/-- **Storing a chunk** keeps chain and table in agreement, however many blocks it
spans. -/
theorem Coherent.ingest (h : c.Coherent) (position : Nat) (bytes : Bytes) :
    (c.ingest position bytes).Coherent :=
  ingest_induction (P := Coherent) (fun _ id offset bytes h => h.write id offset bytes) h
    position bytes

theorem Coherent.evict (h : c.Coherent) (pinned : List IdRange) :
    (c.evict pinned).2.Coherent := by
  refine evict_induction (P := Coherent) ?_ h pinned
  rintro c id ⟨ids, h⟩
  exact ⟨_, h.erase id⟩

end

/-! ## The budget -/

theorem overBudget_eq_false_iff {c : Cache} : c.overBudget = false ↔ c.memory ≤ c.budget := by
  rw [overBudget, decide_eq_false_iff_not, Nat.not_lt]

theorem overBudget_eq_true_iff {c : Cache} : c.overBudget = true ↔ c.budget < c.memory := by
  rw [overBudget, decide_eq_true_iff]

@[simp] theorem budget_ingest (c : Cache) (position : Nat) (bytes : Bytes) :
    (c.ingest position bytes).budget = c.budget :=
  ingest_induction (P := (·.budget = c.budget)) (fun _ _ _ _ h => h) rfl position bytes

@[simp] theorem budget_evict (c : Cache) (pinned : List IdRange) :
    (c.evict pinned).2.budget = c.budget :=
  evict_induction (P := (·.budget = c.budget)) (fun _ _ h => h) rfl pinned

/-! ## What eviction achieves -/

theorem mem_foldl_shedOne_of_mem {s : List BlockId × Cache} {id : BlockId} (h : id ∈ s.1)
    (candidates : List BlockId) : id ∈ (candidates.foldl shedOne s).1 := by
  induction candidates generalizing s with
  | nil => exact h
  | cons next rest ih =>
    refine ih ?_
    unfold shedOne
    split
    · exact List.mem_cons_of_mem _ h
    · exact h

/-- Where the budget is exceeded to the end, every candidate went. -/
theorem mem_foldl_shedOne_of_overBudget {candidates : List BlockId} {s : List BlockId × Cache}
    (h : (candidates.foldl shedOne s).2.overBudget = true) {id : BlockId} (hid : id ∈ candidates) :
    id ∈ (candidates.foldl shedOne s).1 := by
  induction candidates generalizing s with
  | nil => exact absurd hid List.not_mem_nil
  | cons next rest ih =>
    rw [List.foldl_cons] at h ⊢
    by_cases hover : s.2.overBudget = true
    · rcases List.mem_cons.1 hid with rfl | hrest
      · refine mem_foldl_shedOne_of_mem ?_ rest
        rw [shedOne, if_pos hover]
        exact List.mem_cons_self
      · exact ih h hrest
    · -- Within the budget nothing goes any more, so it would not be exceeded at the end.
      have hwithin : s.2.overBudget = false := by simpa using hover
      rw [shedOne, if_neg hover] at h
      obtain ⟨gone, left⟩ := s
      rw [foldl_shedOne_of_not_overBudget hwithin] at h
      exact absurd h hover

/-- **A cache is above its budget after eviction only if every block is pinned.** -/
theorem pinned_of_overBudget {c : Cache} (hc : c.Coherent) {pinned : List IdRange}
    (hover : (c.evict pinned).2.overBudget = true) {id : BlockId}
    (hin : (c.evict pinned).2.contains id = true) :
    ∃ range ∈ pinned, range.first ≤ id ∧ id ≤ range.last := by
  obtain ⟨ids, hc⟩ := hc
  obtain ⟨block, hblock⟩ := contains_iff.1 hin
  have hbefore : id ∈ ids := (hc.mem_iff id).2 (contains_iff.2 ⟨block, block?_of_evict hblock⟩)
  -- A block that is still there did not go, so it was no candidate.
  have hstayed : id ∉ (c.evict pinned).1 := by
    intro hgone
    rw [block?_evict, if_pos hgone] at hblock
    exact absurd hblock nofun
  by_contra hfree
  refine hstayed ?_
  have hcandidate : id ∈ c.candidates pinned := by
    rw [candidates, List.mem_filter, hc.order, unpinned_iff]
    exact ⟨hbefore, fun range hrange hheld => hfree ⟨range, hrange, hheld⟩⟩
  rw [evict, shed, List.mem_reverse]
  exact mem_foldl_shedOne_of_overBudget hover hcandidate

/-- **A cache with blocks of a few ids only** is charged for no more than those. -/
theorem Coherent.memory_le {c : Cache} (h : c.Coherent) {ids : List BlockId}
    (hids : ∀ id, c.contains id = true → id ∈ ids) : c.memory ≤ ids.length * c.geometry.size := by
  have hmemory := h.memory
  obtain ⟨tracked, h⟩ := h
  have hsub : tracked ⊆ ids := fun id hid => hids id ((h.mem_iff id).1 hid)
  have hlength : tracked.length ≤ ids.length := (h.distinct.subperm hsub).length_le
  rw [hmemory, h.count, Nat.mul_comm]
  exact Nat.mul_le_mul_right _ hlength

end ReadAhead.Cache
