/-
The recency tracker along every run, as the plain list it stands for. What a use of the
tracker makes of that list is said without any links (`Use.list`), and every tracker that
can come about stands for the list that its uses make (`tracks_after`). Whatever is asked
of a tracker is then answered from the list.

The list has no key twice, so that a walk along the links cannot come back to where it was.
That is why a walk ends by itself, and not because its steps are counted.
-/
import ReadAhead.Proofs.Cache.Recency

set_option autoImplicit false

namespace ReadAhead.Recency

variable {κ : Type}

/-! ## The plain list -/

/-- What a use of a tracker makes of a list of keys with their sizes, oldest first. -/
def Use.list [DecidableEq κ] (entries : List (κ × Nat)) : Use κ → List (κ × Nat)
  | .touch key size => entries.filter (·.1 ≠ key) ++ [(key, size)]
  | .remove key => entries.filter (·.1 ≠ key)
  | .clear => []

/-- The list that uses one after another make, from no keys on. -/
def listAfter [DecidableEq κ] (uses : List (Use κ)) : List (κ × Nat) := uses.foldl Use.list []

variable [Ord κ] [Std.TransOrd κ] [Std.LawfulEqOrd κ] [DecidableEq κ]

/-- **One use, one step of the list.** -/
theorem Tracks.use {r : Recency κ} {entries : List (κ × Nat)} (h : r.Tracks entries) (u : Use κ) :
    (r.use u).Tracks (Use.list entries u) := by
  cases u with
  | touch key size => exact h.touch key size
  | remove key => exact h.remove key
  | clear => exact tracks_empty

/-- **A tracker stands for the list that its uses make.** -/
theorem tracks_after (uses : List (Use κ)) :
    ((empty : Recency κ).after uses).Tracks (listAfter uses) := by
  have hfold : ∀ (r : Recency κ) (entries : List (κ × Nat)), r.Tracks entries →
      (r.after uses).Tracks (uses.foldl Use.list entries) := by
    induction uses with
    | nil => exact fun _ _ h => h
    | cons u rest ih => exact fun r entries h => ih (r.use u) _ (h.use u)
  exact hfold empty [] tracks_empty

/-! ## What a tracker answers -/

section

variable {r : Recency κ} {entries : List (κ × Nat)} (h : r.Tracks entries)

include h

omit [Std.LawfulEqOrd κ] in
theorem Tracks.contains (key : κ) : r.contains key = true ↔ key ∈ entries.map Prod.fst := by
  rw [Recency.contains, h.node?, Option.isSome_map, List.find?_isSome, List.mem_map]
  simp

omit [Std.LawfulEqOrd κ] in
theorem Tracks.isEmpty : r.isEmpty = true ↔ entries = [] := by
  have hcount : r.nodes.size = entries.length := h.count
  rw [Recency.isEmpty, Std.ExtTreeMap.isEmpty_eq_size_beq_zero, hcount]
  simp

omit [Std.LawfulEqOrd κ] in
/-- What is removed is answered with what it was charged with. -/
theorem Tracks.fst_remove (key : κ) :
    (r.remove key).1 = (entries.find? (·.1 = key)).map Prod.snd := by
  have hunlink : (r.remove key).1 = (r.node? key).map Node.size := by
    unfold Recency.remove Recency.unlink
    cases r.node? key <;> rfl
  rw [hunlink, h.node?, Option.map_map]
  rfl

omit [Std.LawfulEqOrd κ] in
/-- **No key is charged with more than all of them together**, so that taking its size off
the sum never goes below zero. -/
theorem Tracks.size_le_memory {key : κ} {node : Node κ} (hnode : r.node? key = some node) :
    node.size ≤ r.memory := by
  rw [h.node?] at hnode
  obtain ⟨⟨found, size⟩, hfind, rfl⟩ := Option.map_eq_some_iff.1 hnode
  obtain ⟨front, back, hsplit⟩ := List.append_of_mem (List.mem_of_find?_eq_some hfind)
  have hsum : (entries.map Prod.snd).sum =
      (front.map Prod.snd).sum + (size + (back.map Prod.snd).sum) := by
    rw [hsplit, List.map_append, List.map_cons, List.sum_append, List.sum_cons]
  rw [h.memory, hsum]
  dsimp only
  omega

end

/-! ## Every run -/

/-- **A tracker is the list of its keys**, after any uses of an empty one. Let `entries` be
the list that the uses make of no keys: a key that is touched is taken out and put at the
end with its new size, one that is removed is taken out. It holds every key once. Walking
from the oldest key to ever newer ones ends by itself and meets the keys in order, walking
from the newest to ever older ones meets them in reverse; the two ends are the last key and
the first. What is contained and how much that is, is read off the list. A key that is
removed is answered with its size, and with nothing if there is no such key. The memory is
the sum of the sizes, from which the size of each key can be taken off. -/
theorem tracker_is_list (uses : List (Use κ)) :
    let r := (empty : Recency κ).after uses
    let entries := listAfter uses
    let keys := entries.map Prod.fst
    keys.Nodup ∧
      (r.order = keys ∧ ∀ n, keys.length ≤ n →
        (r.follow Node.newer n r.oldest []).reverse = keys) ∧
      (r.reversed = keys.reverse ∧ ∀ n, keys.length ≤ n →
        (r.follow Node.older n r.newest []).reverse = keys.reverse) ∧
      r.newest = keys.getLast? ∧ r.oldest = keys.head? ∧
      (∀ key, r.contains key = true ↔ key ∈ keys) ∧
      r.count = keys.length ∧ (r.isEmpty = true ↔ keys = []) ∧
      (∀ key, (r.remove key).1 = (entries.find? (·.1 = key)).map Prod.snd) ∧
      r.memory = (entries.map Prod.snd).sum ∧
      ∀ key node, r.node? key = some node → node.size ≤ r.memory := by
  intro r entries keys
  have h : r.Tracks entries := tracks_after uses
  have hlength : keys.length = entries.length := List.length_map _
  refine ⟨h.distinct, ⟨h.order, fun n hn => ?_⟩, ⟨h.reversed, fun n hn => ?_⟩, ?_, h.oldest,
    h.contains, ?_, ?_, h.fst_remove, h.memory, fun key node hnode => h.size_le_memory hnode⟩
  · rw [h.follow_newer (by omega), List.reverse_reverse]
  · rw [h.follow_older (by omega)]
  · rw [h.newest, List.head?_reverse]
  · rw [h.count, hlength]
  · rw [h.isEmpty, List.map_eq_nil_iff]

/-- Four keys, of which the second is touched again with another size, the first is removed
and the third is touched again: the second one is the oldest then. -/
theorem tracker_is_list_retouched :
    let uses : List (Use Nat) := [.touch 1 10, .touch 2 20, .touch 3 30, .touch 4 40,
      .touch 2 25, .remove 1, .remove 1, .touch 4 5, .touch 3 30]
    let r := (empty : Recency Nat).after uses
    r.order = [2, 4, 3] ∧ r.reversed = [3, 4, 2] ∧ (r.follow Node.newer 9 r.oldest []).length = 3 ∧
      r.newest = some 3 ∧ r.oldest = some 2 ∧ (r.remove 2).1 = some 25 ∧ (r.remove 1).1 = none ∧
      r.memory = 60 := by
  intro uses r
  obtain ⟨-, ⟨horder, hwalk⟩, ⟨hreversed, -⟩, hnewest, holdest, -, -, -, hremove, hmemory, -⟩ :=
    tracker_is_list uses
  have hlist : listAfter uses = [(2, 25), (4, 5), (3, 30)] := by decide
  rw [hlist] at horder hreversed hnewest holdest hmemory hwalk
  refine ⟨horder, hreversed, ?_, hnewest, holdest, ?_, ?_, hmemory⟩
  · rw [← List.length_reverse, hwalk 9 (by decide)]
    rfl
  · rw [hremove, hlist]
    rfl
  · rw [hremove, hlist]
    rfl

end ReadAhead.Recency
