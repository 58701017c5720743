/-
The blocks of a cache along every run, in the order of its recency chain. A run makes sure
of blocks, one after another, and loses some of them again; `made` is what it made sure of,
in order and as often as it did. The chain then has the blocks that are still there, each
at the place where it was made sure of last (`tracked_after`), whatever was lost in between
and why. Their size is the geometry's, whatever was written to them.
-/
import ReadAhead.Cache.Edit
import ReadAhead.Proofs.Cache.Memory
import Mathlib.Data.List.Dedup
import Mathlib.Data.List.Induction

set_option autoImplicit false

namespace ReadAhead.Cache

/-! ## One edit -/

section

variable {c : Cache} {ids : List BlockId}

theorem block?_amend (c : Cache) (id : BlockId) (writes : List (Nat × Bytes)) (j : BlockId) :
    (c.amend id writes).block? j =
      if j = id then some (((c.block? id).getD (.empty c.geometry.size)).amend writes)
      else c.block? j := by
  have hput : (c.amend id writes).block? j =
      if j = id then
        some ((((c.ensure id).block? id).getD (.empty c.geometry.size)).amend writes)
      else (c.ensure id).block? j := Table.get?_put _ _ _ _
  rw [hput, block?_ensure, block?_ensure, if_pos rfl, Option.getD_some]
  split <;> rfl

theorem contains_amend (c : Cache) (id : BlockId) (writes : List (Nat × Bytes)) (j : BlockId) :
    (c.amend id writes).contains j = true ↔ j = id ∨ c.contains j = true := by
  rw [contains, block?_amend, contains]
  by_cases h : j = id <;> simp [h]

/-- **A block that is amended** is the last one in the chain. -/
theorem Tracked.amend (h : c.Tracked ids) (id : BlockId) (writes : List (Nat × Bytes)) :
    (c.amend id writes).Tracked (ids.filter (· ≠ id) ++ [id]) := by
  have hensure := h.ensure id
  refine ⟨hensure.chain, fun j => ?_⟩
  rw [hensure.mem_iff, contains_amend, contains_ensure]

/-- The cache has lost blocks and gained none, and the chain has the others in the order
they had. -/
structure Loses (c c' : Cache) : Prop where
  contains : ∀ id, c'.contains id = true → c.contains id = true
  tracked : ∀ ids, c.Tracked ids → c'.Tracked (ids.filter c'.contains)

/-- Of the blocks that were there before, those that are there now are all of them. -/
theorem Loses.filter {c c' : Cache} (h : c.Loses c') (ids : List BlockId) :
    (ids.filter c.contains).filter c'.contains = ids.filter c'.contains := by
  rw [List.filter_filter]
  apply List.filter_congr
  intro id _
  by_cases hin : c'.contains id = true
  · simp [hin, h.contains id hin]
  · simp [hin]

theorem Loses.refl (c : Cache) : c.Loses c := by
  refine ⟨fun _ h => h, fun ids h => ?_⟩
  rwa [List.filter_eq_self.2 fun id hid => (h.mem_iff id).1 hid]

theorem Loses.trans {c c' c'' : Cache} (h : c.Loses c') (h' : c'.Loses c'') : c.Loses c'' := by
  refine ⟨fun id hid => h.contains id (h'.contains id hid), fun ids hids => ?_⟩
  rw [← h'.filter]
  exact h'.tracked _ (h.tracked ids hids)

theorem loses_erase (c : Cache) (id : BlockId) : c.Loses (c.erase id) := by
  have hcontains : ∀ j, (c.erase id).contains j = true ↔ j ≠ id ∧ c.contains j = true := by
    intro j
    rw [contains, block?_erase, contains]
    by_cases h : j = id <;> simp [h]
  refine ⟨fun j hj => ((hcontains j).1 hj).2, fun ids h => ?_⟩
  have hsame : ids.filter (c.erase id).contains = ids.filter (· ≠ id) := by
    apply List.filter_congr
    intro j hj
    rw [Bool.eq_iff_iff, hcontains, decide_eq_true_iff]
    exact and_iff_left ((h.mem_iff j).1 hj)
  rw [hsame]
  exact h.erase id

theorem loses_evict (c : Cache) (pinned : List IdRange) : c.Loses (c.evict pinned).2 :=
  evict_induction (P := c.Loses) (fun c' id h => h.trans (loses_erase c' id)) (.refl c) pinned

theorem block?_clear (c : Cache) (id : BlockId) : c.clear.block? id = none := Table.get?_empty id

theorem loses_clear (c : Cache) : c.Loses c.clear := by
  have hcontains : ∀ id, c.clear.contains id = false := by
    intro id
    rw [contains, block?_clear]
    rfl
  refine ⟨fun id hid => ?_, fun ids _ => ?_⟩
  · rw [hcontains] at hid
    exact absurd hid Bool.false_ne_true
  · rw [List.filter_eq_nil_iff.2 fun id _ => by simp [hcontains]]
    exact ⟨Recency.tracks_empty, fun id => by simp [hcontains]⟩

end

/-! ## Every run -/

/-- The block that an edit makes sure of. -/
def Edit.made? : Edit → Option BlockId
  | .amend id _ => some id
  | .erase _ | .evict _ | .clear => none

/-- The blocks that edits make sure of, one after another. -/
def made (edits : List Edit) : List BlockId := edits.filterMap Edit.made?

theorem made_concat (edits : List Edit) (e : Edit) :
    made (edits ++ [e]) = made edits ++ e.made?.toList := by
  rw [made, List.filterMap_append]
  cases e <;> rfl

/-- Of elements that occur again only the last occurrence counts. -/
theorem dedup_concat (ids : List BlockId) (id : BlockId) :
    (ids ++ [id]).dedup = ids.dedup.filter (· ≠ id) ++ [id] := by
  induction ids with
  | nil => rfl
  | cons first rest ih =>
    rw [List.cons_append, List.dedup_cons, List.dedup_cons, ih]
    by_cases hrest : first ∈ rest
    · simp [hrest]
    · by_cases hid : first = id
      · subst hid
        simp [hrest]
      · simp [hrest, hid]

/-- An edit that makes sure of no block only takes blocks away. -/
theorem loses_edit (c : Cache) {e : Edit} (h : e.made? = none) : c.Loses (c.edit e) := by
  cases e with
  | amend => exact absurd h nofun
  | erase id => exact loses_erase c id
  | evict pinned => exact loses_evict c pinned
  | clear => exact loses_clear c

/-- **One edit.** Whatever it takes away, what is left keeps its place; a block that it makes
sure of is the last one from then on. -/
theorem tracked_edit {c : Cache} {edits : List Edit}
    (h : c.Tracked ((made edits).dedup.filter c.contains)) (e : Edit) :
    (c.edit e).Tracked ((made (edits ++ [e])).dedup.filter (c.edit e).contains) := by
  rw [made_concat]
  cases hmade : e.made? with
  | none =>
    have hloses := c.loses_edit hmade
    rw [Option.toList_none, List.append_nil, ← hloses.filter]
    exact hloses.tracked _ h
  | some last =>
    cases e with
    | amend id writes =>
      obtain rfl : id = last := Option.some.inj hmade
      have hself : (c.amend id writes).contains id = true :=
        (contains_amend c id writes id).2 (.inl rfl)
      have hothers :
          (made edits).dedup.filter (fun j => (c.amend id writes).contains j && decide (j ≠ id)) =
            (made edits).dedup.filter (fun j => decide (j ≠ id) && c.contains j) := by
        apply List.filter_congr
        intro j _
        rw [Bool.eq_iff_iff, Bool.and_eq_true, Bool.and_eq_true, contains_amend, decide_eq_true_iff]
        by_cases hj : j = id <;> simp [hj]
      have hamend := h.amend id writes
      rw [List.filter_filter, ← hothers] at hamend
      rw [show c.edit (.amend id writes) = c.amend id writes from rfl, Option.toList_some,
        dedup_concat, List.filter_append, List.filter_filter, List.filter_cons_of_pos hself,
        List.filter_nil]
      exact hamend
    | _ => exact absurd hmade nofun

/-- **What every edit keeps holds after every run.** -/
theorem after_induction {P : Cache → Prop} (keep : ∀ c e, P c → P (c.edit e)) {c : Cache}
    (hc : P c) (edits : List Edit) : P (c.after edits) := by
  induction edits generalizing c with
  | nil => exact hc
  | cons e rest ih => exact ih (keep c e hc)

theorem after_concat (c : Cache) (edits : List Edit) (e : Edit) :
    c.after (edits ++ [e]) = (c.after edits).edit e := by
  rw [after, List.foldl_append]
  rfl

/-- **The chain has the cached blocks in the order in which they were made sure of last.**
The induction is on the run from its end. -/
theorem tracked_after (label : String) (geometry : Geometry) (budget : Nat) (edits : List Edit) :
    ((empty label geometry budget).after edits).Tracked
      ((made edits).dedup.filter ((empty label geometry budget).after edits).contains) := by
  induction edits using List.reverseRecOn with
  | nil => exact ⟨Recency.tracks_empty, fun id => by simp [after, made, contains, block?_empty]⟩
  | append_singleton edits e ih =>
    rw [after_concat]
    exact tracked_edit ih e

/-- The budget is the same after every run. -/
theorem budget_after (c : Cache) (edits : List Edit) : (c.after edits).budget = c.budget := by
  refine after_induction (P := fun c' => c'.budget = c.budget) (fun c' e h => ?_) rfl edits
  cases e with
  | evict pinned => exact (budget_evict c' pinned).trans h
  | amend | erase | clear => exact h

/-- **Writes never fill a block beyond its capacity**, wherever they go. -/
theorem filled_amend_le {b : Block} (h : b.filled ≤ b.capacity) (writes : List (Nat × Bytes)) :
    (b.amend writes).capacity = b.capacity ∧ (b.amend writes).filled ≤ b.capacity := by
  induction writes generalizing b with
  | nil => exact ⟨rfl, h⟩
  | cons write rest ih =>
    have hcapacity := b.capacity_write write.1 write.2
    have hfits : (b.write write.1 write.2).2.filled ≤ b.capacity := by
      rw [Block.write]
      split
      · exact h
      · simp only [Block.filled, Bytes.overlay, List.length_append, List.length_take,
          List.length_drop] at h ⊢
        omega
    rw [← hcapacity] at hfits ⊢
    exact ih hfits

/-- **Every block has the size of the geometry**, and no more in it, after every run. -/
theorem sized_after {c : Cache} (hc : c.Sized) (edits : List Edit) : (c.after edits).Sized := by
  refine after_induction (P := Sized) (fun c e hs => ?_) hc edits
  cases e with
  | amend id writes =>
    intro j block hblock
    change (c.amend id writes).block? j = some block at hblock
    rw [block?_amend] at hblock
    split at hblock
    · obtain rfl := Option.some.inj hblock
      obtain ⟨hcapacity, hfilled⟩ := hs.getD id
      have hamend := filled_amend_le (Nat.le_trans hfilled (Nat.le_of_eq hcapacity.symm)) writes
      rwa [hcapacity] at hamend
    · exact hs j block hblock
  | erase id => exact hs.erase id
  | evict pinned => exact hs.evict pinned
  | clear =>
    intro j block hblock
    exact absurd (hblock.symm.trans (block?_clear c j)) nofun

end ReadAhead.Cache
