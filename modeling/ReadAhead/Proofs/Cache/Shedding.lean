/-
Eviction takes no block too many and none too few. It goes through the blocks that may go
from the oldest on, and stops as soon as the cache fits its budget: what goes is the
shortest front part of that list whose removal is enough, or the whole list where no front
part is (`Least`). Which blocks may go, and in which order, is read off the run that led to
the cache.

The list is drawn up before the first block goes, and every removal changes the chain it
was drawn from. That makes no difference, since a removal keeps the other blocks in order.
-/
import ReadAhead.Proofs.Cache.Course

set_option autoImplicit false

namespace ReadAhead.Cache

/-! ## As many as needed -/

/-- A cache with blocks removed, one after another. -/
def without (c : Cache) (ids : List BlockId) : Cache := ids.foldl erase c

/-- The first blocks of a list, as many of them as have to go before the cache fits its
budget, and all of them if it does not fit even then. -/
structure Least (c : Cache) (ids front : List BlockId) : Prop where
  part : front <+: ids
  all : (c.without front).overBudget = true → front = ids
  least : ∀ fewer, fewer <+: ids → (c.without fewer).overBudget = false → front <+: fewer

section

variable {c : Cache}

theorem least_nil_of_not_overBudget (h : c.overBudget = false) (ids : List BlockId) :
    c.Least ids [] := by
  refine ⟨List.nil_prefix, fun hover => ?_, fun _ _ _ => List.nil_prefix⟩
  rw [without, List.foldl_nil, h] at hover
  exact absurd hover Bool.false_ne_true

theorem least_nil (c : Cache) : c.Least [] [] :=
  ⟨List.nil_prefix, fun _ => rfl, fun _ _ _ => List.nil_prefix⟩

/-- **One more block.** Above the budget the first block goes, whatever comes after it. -/
theorem Least.cons {id : BlockId} {rest front : List BlockId} (hover : c.overBudget = true)
    (h : (c.erase id).Least rest front) : c.Least (id :: rest) (id :: front) := by
  refine ⟨?_, fun hleft => ?_, fun fewer hfewer hfits => ?_⟩
  · rw [List.cons_prefix_cons]
    exact ⟨rfl, h.part⟩
  · rw [h.all hleft]
  · cases fewer with
    | nil =>
      rw [without, List.foldl_nil, hover] at hfits
      exact absurd hfits.symm Bool.false_ne_true
    | cons next fewer =>
      rw [List.cons_prefix_cons] at hfewer ⊢
      obtain ⟨rfl, hrest⟩ := hfewer
      exact ⟨rfl, h.least fewer hrest hfits⟩

/-- **Shedding stops in time.** The induction is on the list; within the budget the rest of
it changes nothing any more. -/
theorem exists_least_foldl (c : Cache) (gone ids : List BlockId) :
    ∃ front, c.Least ids front ∧
      ids.foldl shedOne (gone, c) = (front.reverse ++ gone, c.without front) := by
  induction ids generalizing c gone with
  | nil => exact ⟨[], c.least_nil, rfl⟩
  | cons id rest ih =>
    by_cases hover : c.overBudget = true
    · obtain ⟨front, hleast, hfold⟩ := ih (c.erase id) (id :: gone)
      refine ⟨id :: front, hleast.cons hover, ?_⟩
      rw [List.foldl_cons, shedOne, if_pos hover, hfold, List.reverse_cons, List.append_assoc]
      rfl
    · rw [Bool.not_eq_true] at hover
      refine ⟨[], least_nil_of_not_overBudget hover _, ?_⟩
      rw [foldl_shedOne_of_not_overBudget hover]
      rfl

theorem least_evict (c : Cache) (pinned : List IdRange) :
    c.Least (c.candidates pinned) (c.evict pinned).1 ∧
      (c.evict pinned).2 = c.without (c.evict pinned).1 := by
  obtain ⟨front, hleast, hfold⟩ := c.exists_least_foldl [] (c.candidates pinned)
  have hevict : c.evict pinned = (front, c.without front) := by
    rw [evict, shed, hfold]
    simp
  rw [hevict]
  exact ⟨hleast, rfl⟩

/-! ## What is left -/

theorem contains_evict (c : Cache) (pinned : List IdRange) (id : BlockId) :
    (c.evict pinned).2.contains id = true ↔ id ∉ (c.evict pinned).1 ∧ c.contains id = true := by
  rw [contains, block?_evict, contains]
  by_cases h : id ∈ (c.evict pinned).1 <;> simp [h]

/-- **The blocks that stay keep their order.** -/
theorem order_evict (h : c.Coherent) (pinned : List IdRange) :
    (c.evict pinned).2.recency.order =
      c.recency.order.filter (· ∉ (c.evict pinned).1) := by
  obtain ⟨ids, h⟩ := h
  rw [((c.loses_evict pinned).tracked ids h).order, h.order]
  apply List.filter_congr
  intro id hid
  rw [Bool.eq_iff_iff, contains_evict, decide_eq_true_iff]
  exact and_iff_left ((h.mem_iff id).1 hid)

/-- **Evicting twice is evicting once**: above the budget all that is left is pinned, so
there is nothing to go. -/
theorem evict_evict (h : c.Coherent) (pinned : List IdRange) :
    (c.evict pinned).2.evict pinned = ([], (c.evict pinned).2) := by
  by_cases hover : (c.evict pinned).2.overBudget = true
  · have hnone : (c.evict pinned).2.candidates pinned = [] := by
      obtain ⟨ids, hleft⟩ := h.evict pinned
      rw [candidates, hleft.order, List.filter_eq_nil_iff]
      intro id hid
      obtain ⟨range, hrange, hheld⟩ := pinned_of_overBudget h hover ((hleft.mem_iff id).1 hid)
      rw [unpinned_iff]
      intro hfree
      exact hfree range hrange hheld
    rw [evict, shed, hnone]
    rfl
  · rw [Bool.not_eq_true] at hover
    exact evict_of_not_overBudget hover pinned

end

/-! ## Every run -/

theorem budget_without (c : Cache) (ids : List BlockId) : (c.without ids).budget = c.budget := by
  induction ids generalizing c with
  | nil => rfl
  | cons id rest ih => exact ih (c.erase id)

/-- A block that eviction may take: it is there, and no pinned range holds it. -/
def Spare (c : Cache) (pinned : List IdRange) (id : BlockId) : Prop :=
  c.contains id = true ∧ ∀ range ∈ pinned, ¬ (range.first ≤ id ∧ id ≤ range.last)

instance (c : Cache) (pinned : List IdRange) (id : BlockId) : Decidable (c.Spare pinned id) :=
  inferInstanceAs (Decidable (_ ∧ ∀ range ∈ pinned, _))

/-- **What may go after a run**: the blocks that are there and not pinned, the one that was
made sure of longest ago in front. -/
theorem candidates_after (label : String) (geometry : Geometry) (budget : Nat)
    (edits : List Edit) (pinned : List IdRange) :
    ((empty label geometry budget).after edits).candidates pinned =
      (made edits).dedup.filter ((empty label geometry budget).after edits |>.Spare pinned) := by
  rw [candidates, (tracked_after label geometry budget edits).order, List.filter_filter]
  apply List.filter_congr
  intro id _
  rw [Bool.eq_iff_iff, Bool.and_eq_true, unpinned_iff, decide_eq_true_iff]
  exact and_comm

/-- **Eviction is exact.** After any run of edits, and with any ranges pinned, let `spare` be
the blocks outside those ranges, in the order in which they were made sure of last. What
goes is a front part of `spare`; it is all of it if the budget is exceeded even so, and
otherwise no shorter front part would have been enough. Every other block is what it was,
at the place in the chain where it was, and no block of a pinned range goes. A cache within
its budget is left alone; one that is above its budget afterwards has pinned blocks only;
and to evict again changes nothing. -/
theorem evict_exact (label : String) (geometry : Geometry) (budget : Nat) (edits : List Edit)
    (pinned : List IdRange) :
    let c := (empty label geometry budget).after edits
    let spare := (made edits).dedup.filter (c.Spare pinned)
    let gone := (c.evict pinned).1
    let c' := (c.evict pinned).2
    (gone <+: spare ∧ c' = c.without gone ∧ (budget < c'.memory → gone = spare) ∧
      ∀ fewer, fewer <+: spare → (c.without fewer).memory ≤ budget → gone <+: fewer) ∧
    (∀ id, c'.block? id = if id ∈ gone then none else c.block? id) ∧
    c'.recency.order = c.recency.order.filter (· ∉ gone) ∧
    (∀ range ∈ pinned, ∀ id, range.first ≤ id → id ≤ range.last → id ∉ gone) ∧
    (c.memory ≤ budget → c.evict pinned = ([], c)) ∧
    (budget < c'.memory → ∀ id, c'.contains id = true →
      ∃ range ∈ pinned, range.first ≤ id ∧ id ≤ range.last) ∧
    c'.evict pinned = ([], c') := by
  intro c spare gone c'
  have hcoherent : c.Coherent := ⟨_, tracked_after label geometry budget edits⟩
  have hbudget : c.budget = budget := budget_after _ edits
  have hbudget' : c'.budget = budget := (budget_evict c pinned).trans hbudget
  obtain ⟨hleast, hwithout⟩ := c.least_evict pinned
  have hspare : c.candidates pinned = spare :=
    candidates_after label geometry budget edits pinned
  rw [hspare] at hleast
  have hover : budget < c'.memory → c'.overBudget = true := fun h => by
    rwa [overBudget_eq_true_iff, hbudget']
  refine ⟨⟨hleast.part, hwithout, fun h => ?_, fun fewer hpart hfits => ?_⟩,
    c.block?_evict pinned, order_evict hcoherent pinned, ?_, fun h => ?_, fun h => ?_,
    evict_evict hcoherent pinned⟩
  · exact hleast.all (hwithout ▸ hover h)
  · apply hleast.least fewer hpart
    rwa [overBudget_eq_false_iff, budget_without, hbudget]
  · intro range hrange id hfirst hlast
    exact not_mem_evict hrange ⟨hfirst, hlast⟩
  · apply evict_of_not_overBudget
    rwa [overBudget_eq_false_iff, hbudget]
  · intro id hid
    exact pinned_of_overBudget hcoherent (hover h) hid

/-- Room for two blocks of four: the oldest one is pinned, and the one that was asked for
again is not the oldest any more. A range from a greater id to a smaller one pins nothing. -/
example :
    let edits : List Edit := [.amend 3 [], .amend 1 [], .amend 2 [], .amend 3 [], .amend 0 []]
    let c := (empty "" ⟨2⟩ 8).after edits
    (c.evict [⟨1, 1⟩, ⟨9, 2⟩]).1 = [2, 3] := by decide

end ReadAhead.Cache
