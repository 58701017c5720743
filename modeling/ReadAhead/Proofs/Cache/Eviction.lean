/-
What eviction takes and what it leaves. The blocks it names are gone, every other
block is exactly what it was, and a block inside a pinned range is never named.
None of this asks how the recency chain looks: eviction goes through whatever
candidates it is given, and a pinned block is no candidate.
-/
import ReadAhead.Proofs.Cache.Contents
import ReadAhead.Cache.Eviction

set_option autoImplicit false

namespace ReadAhead.Cache

/-! ## One block after another -/

/-- What shedding has done to a cache so far: the blocks that went are missing,
and nothing else changed. -/
structure Shed (c : Cache) (s : List BlockId × Cache) : Prop where
  geometry : s.2.geometry = c.geometry
  block? : ∀ id, s.2.block? id = if id ∈ s.1 then none else c.block? id

theorem Shed.shedOne {c : Cache} {s : List BlockId × Cache} (h : Shed c s) (id : BlockId) :
    Shed c (Cache.shedOne s id) := by
  rw [Cache.shedOne]
  split
  · refine ⟨h.geometry, fun j => ?_⟩
    rw [block?_erase, h.block?]
    by_cases hj : j = id
    · rw [if_pos hj, if_pos (hj ▸ List.mem_cons_self)]
    · rw [if_neg hj]
      simp only [List.mem_cons, hj, false_or]
  · exact h

theorem Shed.foldl {c : Cache} {s : List BlockId × Cache} (h : Shed c s) (ids : List BlockId) :
    Shed c (ids.foldl Cache.shedOne s) := by
  induction ids generalizing s with
  | nil => exact h
  | cons id rest ih => exact ih (h.shedOne id)

/-- Nothing goes that is not on the list. -/
theorem mem_of_mem_foldl_shedOne {ids : List BlockId} {s : List BlockId × Cache} {id : BlockId}
    (h : id ∈ (ids.foldl shedOne s).1) : id ∈ s.1 ∨ id ∈ ids := by
  induction ids generalizing s with
  | nil => exact .inl h
  | cons next rest ih =>
    rcases ih h with hin | hin
    -- What is on the pile after one more block is that block, or was there before.
    · rw [shedOne] at hin
      split at hin
      · rcases List.mem_cons.1 hin with rfl | hin
        · exact .inr List.mem_cons_self
        · exact .inl hin
      · exact .inl hin
    · exact .inr (List.mem_cons_of_mem _ hin)

/-- A cache within its budget sheds nothing. -/
theorem foldl_shedOne_of_not_overBudget {c : Cache} (h : c.overBudget = false)
    (gone ids : List BlockId) : ids.foldl shedOne (gone, c) = (gone, c) := by
  induction ids with
  | nil => rfl
  | cons id rest ih => rw [List.foldl_cons, shedOne, h, if_neg Bool.false_ne_true, ih]

/-! ## Eviction -/

theorem shed_evict (c : Cache) (pinned : List IdRange) :
    Shed c ((c.evict pinned).1.reverse, (c.evict pinned).2) := by
  have hstart : Shed c ([], c) := ⟨rfl, fun id => by rw [if_neg List.not_mem_nil]⟩
  rw [evict, shed]
  -- The blocks that went are collected last first.
  simpa using hstart.foldl (c.candidates pinned)

@[simp] theorem geometry_evict (c : Cache) (pinned : List IdRange) :
    (c.evict pinned).2.geometry = c.geometry :=
  (shed_evict c pinned).geometry

/-- **Evicted blocks are gone, all others are untouched.** -/
theorem block?_evict (c : Cache) (pinned : List IdRange) (id : Nat) :
    (c.evict pinned).2.block? id = if id ∈ (c.evict pinned).1 then none else c.block? id := by
  rw [(shed_evict c pinned).block? id]
  simp only [List.mem_reverse]

theorem unpinned_iff {pinned : List IdRange} {id : BlockId} :
    unpinned pinned id = true ↔ ∀ range ∈ pinned, ¬ (range.first ≤ id ∧ id ≤ range.last) := by
  simp [unpinned, IdRange.contains]

/-- **A pinned block is not evicted.** -/
theorem not_mem_evict {c : Cache} {pinned : List IdRange} {range : IdRange} {id : Nat}
    (hr : range ∈ pinned) (hid : range.first ≤ id ∧ id ≤ range.last) :
    id ∉ (c.evict pinned).1 := by
  intro h
  rw [evict, shed, List.mem_reverse] at h
  rcases mem_of_mem_foldl_shedOne h with hnil | hcand
  · exact List.not_mem_nil hnil
  · -- Candidates are the blocks that no pinned range holds.
    have hfree := unpinned_iff.1 (List.mem_filter.1 hcand).2
    exact hfree range hr hid

theorem block?_evict_of_pinned {c : Cache} {pinned : List IdRange} {range : IdRange} {id : Nat}
    (hr : range ∈ pinned) (hid : range.first ≤ id ∧ id ≤ range.last) :
    (c.evict pinned).2.block? id = c.block? id := by
  rw [block?_evict, if_neg (not_mem_evict hr hid)]

/-- A block that is cached afterwards was cached before, and is the same. -/
theorem block?_of_evict {c : Cache} {pinned : List IdRange} {id : Nat} {block : Block}
    (h : (c.evict pinned).2.block? id = some block) : c.block? id = some block := by
  rw [block?_evict] at h
  split at h
  · cases h
  · exact h

theorem Sized.evict {c : Cache} (hs : c.Sized) (pinned : List IdRange) :
    (c.evict pinned).2.Sized := by
  intro id block h
  rw [geometry_evict]
  exact hs id block (block?_of_evict h)

theorem byte?_evict (c : Cache) (pinned : List IdRange) (q : Nat) :
    (c.evict pinned).2.byte? q =
      if c.geometry.blockOf q ∈ (c.evict pinned).1 then none else c.byte? q := by
  rw [byte?, geometry_evict, block?_evict]
  split
  · rfl
  · rw [byte?]

/-- Within its budget a cache evicts nothing. -/
theorem evict_of_not_overBudget {c : Cache} (h : c.overBudget = false) (pinned : List IdRange) :
    c.evict pinned = ([], c) := by
  rw [evict, shed, foldl_shedOne_of_not_overBudget h]
  rfl

end ReadAhead.Cache
