/-
The recency chain as a plain list. A chain with its links, its two ends and its
running sum stands for the list of its keys, oldest first, each with the size it is
charged with; `Tracks` says which list. Through that list every operation is one line:
touching a key moves it to the end, removing it takes it out.

A link is the neighbour of a key in the list of keys, and a link the other way is the
neighbour in the reversed list. So each fact about links is proved for one direction
and used for both, and both ends are the first key of one of the two lists.
-/
import ReadAhead.Cache.Recency
import Mathlib.Algebra.GroupWithZero.Nat
import Mathlib.Data.List.Nodup

set_option autoImplicit false

namespace ReadAhead

/-! ## Neighbours -/

section

variable {α : Type} [DecidableEq α] {keys : List α} {key other gone : α}

/-- The element right behind the first occurrence of another one. -/
def next? (key : α) : List α → Option α
  | [] => none
  | first :: rest => if first = key then rest.head? else next? key rest

theorem next?_append_cons {front back : List α} (h : key ∉ front) :
    next? key (front ++ key :: back) = back.head? := by
  induction front with
  | nil => exact if_pos rfl
  | cons first rest ih =>
    rw [List.mem_cons, not_or] at h
    rw [List.cons_append, next?, if_neg (Ne.symm h.1), ih h.2]

theorem next?_of_not_mem (h : key ∉ keys) : next? key keys = none := by
  induction keys with
  | nil => rfl
  | cons first rest ih =>
    rw [List.mem_cons, not_or] at h
    rw [next?, if_neg (Ne.symm h.1), ih h.2]

/-- Where every element occurs once, neighbours are what stands side by side. -/
theorem next?_eq_some_iff (h : keys.Nodup) :
    next? key keys = some other ↔ ∃ front back, keys = front ++ key :: other :: back := by
  constructor
  · intro hnext
    by_cases hmem : key ∈ keys
    · obtain ⟨front, back, rfl, hfront⟩ := List.eq_append_cons_of_mem hmem
      rw [next?_append_cons hfront] at hnext
      obtain ⟨rest, rfl⟩ := List.head?_eq_some_iff.1 hnext
      exact ⟨front, rest, rfl⟩
    · rw [next?_of_not_mem hmem] at hnext
      exact absurd hnext nofun
  · rintro ⟨front, back, rfl⟩
    have hfront : key ∉ front := by
      intro hin
      have hapart := (List.nodup_append.1 h).2.2
      exact hapart key hin key List.mem_cons_self rfl
    rw [next?_append_cons hfront]
    rfl

/-- **Neighbourhood is mutual.** -/
theorem next?_reverse (h : keys.Nodup) :
    next? key keys.reverse = some other ↔ next? other keys = some key := by
  rw [next?_eq_some_iff (List.nodup_reverse.2 h), next?_eq_some_iff h]
  constructor
  · rintro ⟨front, back, heq⟩
    refine ⟨back.reverse, front.reverse, ?_⟩
    rw [← List.reverse_reverse keys, heq]
    simp
  · rintro ⟨front, back, rfl⟩
    exact ⟨back.reverse, front.reverse, by simp⟩

theorem filter_ne_self (h : gone ∉ keys) : keys.filter (· ≠ gone) = keys := by
  refine List.filter_eq_self.2 fun other hother => ?_
  exact decide_eq_true fun heq => h (heq ▸ hother)

/-- **Taking an element out** makes its two neighbours neighbours of each other. -/
theorem next?_filter (h : keys.Nodup) (hne : key ≠ gone) :
    next? key (keys.filter (· ≠ gone)) =
      if next? key keys = some gone then next? gone keys else next? key keys := by
  induction keys with
  | nil => rfl
  | cons first rest ih =>
    obtain ⟨hfirst, hrest⟩ := List.nodup_cons.1 h
    by_cases hgone : first = gone
    · -- What is behind the element that goes has no other neighbour than before.
      subst hgone
      have hnot : next? key rest ≠ some first := by
        rw [ne_eq, next?_eq_some_iff hrest]
        rintro ⟨front, back, rfl⟩
        exact hfirst (by simp)
      rw [List.filter_cons_of_neg (by simp), filter_ne_self hfirst, next?, if_neg (Ne.symm hne),
        if_neg hnot]
    · rw [List.filter_cons_of_pos (by simpa using hgone)]
      by_cases hkey : first = key
      · -- Only the neighbour of the first element can go now.
        rw [next?, next?, next?, if_pos hkey, if_pos hkey, if_neg hgone]
        cases rest with
        | nil => rfl
        | cons second others =>
          by_cases hsecond : second = gone
          · subst hsecond
            rw [List.filter_cons_of_neg (by simp), filter_ne_self (List.nodup_cons.1 hrest).1,
              List.head?_cons, if_pos rfl, next?, if_pos rfl]
          · rw [List.filter_cons_of_pos (by simpa using hsecond), List.head?_cons, List.head?_cons,
              if_neg (by simpa using hsecond)]
      · rw [next?, next?, next?, if_neg hkey, if_neg hkey, if_neg hgone]
        exact ih hrest

/-- The first of what is left when an element is taken out. -/
theorem head?_filter (h : keys.Nodup) (hmem : gone ∈ keys) :
    (keys.filter (· ≠ gone)).head? =
      if next? gone keys.reverse = none then next? gone keys else keys.head? := by
  cases keys with
  | nil => exact absurd hmem List.not_mem_nil
  | cons first rest =>
    obtain ⟨hfirst, hrest⟩ := List.nodup_cons.1 h
    by_cases hgone : first = gone
    · subst hgone
      have hlast : next? first (first :: rest).reverse = none := by
        rw [List.reverse_cons, next?_append_cons (by simpa using hfirst)]
        rfl
      rw [List.filter_cons_of_neg (by simp), filter_ne_self hfirst, if_pos hlast, next?,
        if_pos rfl]
    · -- Something stands in front of the element, and the first one stays.
      have hin : gone ∈ rest := (List.mem_cons.1 hmem).resolve_left (Ne.symm hgone)
      obtain ⟨front, back, rfl, hfront⟩ := List.eq_append_cons_of_mem hin
      have hback : gone ∉ back := by
        have hapart := (List.nodup_append.1 hrest).2.1
        exact (List.nodup_cons.1 hapart).1
      have hsome : next? gone (first :: (front ++ gone :: back)).reverse ≠ none := by
        have hsplit : (first :: (front ++ gone :: back)).reverse =
            back.reverse ++ gone :: (front.reverse ++ [first]) := by simp
        rw [hsplit, next?_append_cons (by simpa using hback)]
        simp
      rw [List.filter_cons_of_pos (by simpa using hgone), if_neg hsome, List.head?_cons,
        List.head?_cons]

/-- **Adding an element at the end** makes it the neighbour of the last one. -/
theorem next?_concat (h : keys.Nodup) (hfresh : gone ∉ keys) :
    next? key (keys ++ [gone]) =
      if keys.reverse.head? = some key then some gone else next? key keys := by
  rw [List.head?_reverse]
  by_cases hmem : key ∈ keys
  · obtain ⟨front, back, rfl, hfront⟩ := List.eq_append_cons_of_mem hmem
    have hback : key ∉ back := by
      have hapart := (List.nodup_append.1 h).2.1
      exact (List.nodup_cons.1 hapart).1
    rw [List.append_assoc, List.cons_append, next?_append_cons hfront, next?_append_cons hfront,
      List.getLast?_append_cons]
    cases back with
    | nil => simp
    | cons second others =>
      rw [List.cons_append, List.head?_cons, List.head?_cons, if_neg]
      intro hlast
      refine hback (List.mem_of_getLast? ?_)
      rwa [List.getLast?_cons_cons] at hlast
  · have hlast : keys.getLast? ≠ some key := fun hlast => hmem (List.mem_of_getLast? hlast)
    rw [if_neg hlast, next?_of_not_mem hmem]
    by_cases hkey : key = gone
    · subst hkey
      rw [next?_append_cons hmem]
      rfl
    · exact next?_of_not_mem (by simp [hmem, hkey])

end

namespace Recency

variable {κ : Type} [Ord κ] [Std.TransOrd κ]

/-! ## One operation, one equation -/

section

variable (r : Recency κ) (key : κ) (node : Node κ) (size : Nat)

@[simp] theorem count_alter (change : Node κ → Node κ) : (r.alter key change).count = r.count :=
  Std.ExtTreeMap.size_modify

theorem newest_bridge :
    (r.bridge node).newest = if node.newer = none then node.older else r.newest := by
  obtain ⟨size, newer, older⟩ := node
  cases newer <;> cases older <;> rfl

theorem oldest_bridge :
    (r.bridge node).oldest = if node.older = none then node.newer else r.oldest := by
  obtain ⟨size, newer, older⟩ := node
  cases newer <;> cases older <;> rfl

@[simp] theorem memory_bridge : (r.bridge node).memory = r.memory := by
  obtain ⟨size, newer, older⟩ := node
  cases newer <;> cases older <;> rfl

@[simp] theorem count_bridge : (r.bridge node).count = r.count := by
  obtain ⟨size, newer, older⟩ := node
  cases newer with
  | none =>
    cases older with
    | none => rfl
    | some second => exact count_alter _ second _
  | some first =>
    cases older with
    | none => exact count_alter r first _
    | some second => exact (count_alter _ second _).trans (count_alter r first _)

theorem count_erase (h : r.node? key = some node) :
    ({ r with nodes := r.nodes.erase key } : Recency κ).count = r.count - 1 := by
  have hcontains : r.nodes.contains key = true := by
    rw [Std.ExtTreeMap.contains_iff_mem, Std.ExtTreeMap.mem_iff_isSome_getElem?]
    exact Option.isSome_of_eq_some h
  unfold count
  rw [Std.ExtTreeMap.size_erase, if_pos hcontains]

theorem oldest_pushNewest :
    (r.pushNewest key size).oldest = if r.newest = none then some key else r.oldest := by
  unfold pushNewest
  cases r.newest <;> rfl

theorem memory_pushNewest : (r.pushNewest key size).memory = r.memory + size := by
  unfold pushNewest
  cases r.newest <;> rfl

end

variable [Std.LawfulEqOrd κ] [DecidableEq κ]

section

variable (r : Recency κ) (key other : κ) (node : Node κ) (size : Nat)

theorem node?_alter (change : Node κ → Node κ) :
    (r.alter key change).node? other =
      if key = other then (r.node? other).map change else r.node? other := by
  unfold alter node?
  rw [Std.ExtTreeMap.getElem?_modify]
  by_cases h : key = other
  · rw [if_pos (Std.compare_eq_iff_eq.2 h), if_pos h, h]
  · rw [if_neg (mt Std.compare_eq_iff_eq.1 h), if_neg h]

theorem node?_erase :
    ({ r with nodes := r.nodes.erase key } : Recency κ).node? other =
      if key = other then none else r.node? other := by
  unfold node?
  rw [Std.ExtTreeMap.getElem?_erase]
  by_cases h : key = other
  · rw [if_pos (Std.compare_eq_iff_eq.2 h), if_pos h]
  · rw [if_neg (mt Std.compare_eq_iff_eq.1 h), if_neg h]

/-- A link that leads to an end of the chain changes no node. -/
theorem node?_alter_link {s : Recency κ} (h : s.nodes = r.nodes) (link : Option κ)
    (change : Node κ → Node κ) :
    (match link with
      | some key => r.alter key change
      | none => s).node? other =
      (r.node? other).map fun n => if link = some other then change n else n := by
  cases link with
  | none =>
    rw [node?, h]
    simp [node?]
  | some key =>
    dsimp only
    rw [node?_alter]
    by_cases hkey : key = other <;> simp [hkey]

/-- **Closing a gap** links the two neighbours of the node that goes. -/
theorem node?_bridge :
    (r.bridge node).node? other = (r.node? other).map fun n =>
      { n with
        newer := if node.older = some other then node.newer else n.newer
        older := if node.newer = some other then node.older else n.older } := by
  let linked : Recency κ := match node.newer with
    | some key => r.alter key fun n => { n with older := node.older }
    | none => { r with newest := node.older }
  have hlinked : linked.node? other = _ :=
    node?_alter_link r other (s := { r with newest := node.older }) rfl node.newer
      fun n => { n with older := node.older }
  have hbridge : (r.bridge node).node? other = _ :=
    node?_alter_link linked other (s := { linked with oldest := node.newer }) rfl node.older
      fun n => { n with newer := node.newer }
  rw [hbridge, hlinked, Option.map_map]
  congr 1
  funext n
  by_cases hnewer : node.newer = some other <;> by_cases holder : node.older = some other <;>
    simp [hnewer, holder]

/-- **A key at the newest end** is linked with the one that was newest before. -/
theorem node?_pushNewest :
    (r.pushNewest key size).node? other =
      if key = other then some { size, newer := none, older := r.newest }
      else (r.node? other).map fun n =>
        if r.newest = some other then { n with newer := some key } else n := by
  unfold pushNewest node?
  dsimp only
  rw [Std.ExtTreeMap.getElem?_insert]
  by_cases h : key = other
  · rw [if_pos (Std.compare_eq_iff_eq.2 h), if_pos h]
  · rw [if_neg (mt Std.compare_eq_iff_eq.1 h), if_neg h]
    exact node?_alter_link r other (s := { r with oldest := some key }) rfl r.newest
      fun n => { n with newer := some key }

theorem count_pushNewest (h : r.node? key = none) :
    (r.pushNewest key size).count = r.count + 1 := by
  have hsize : ∀ (linked : Recency κ) (node : Node κ), linked.node? key = none →
      (linked.nodes.insert key node).size = linked.count + 1 := by
    intro linked node hnone
    have hfree : linked.nodes.contains key = false := by
      rw [Std.ExtTreeMap.contains_eq_isSome_getElem?]
      exact Option.isSome_eq_false_iff.2 (Option.isNone_iff_eq_none.2 hnone)
    rw [Std.ExtTreeMap.size_insert, hfree]
    rfl
  unfold pushNewest
  cases r.newest with
  | none => exact hsize { r with newest := none, oldest := some key } _ h
  | some top =>
    refine (hsize (r.alter top _) _ ?_).trans (congrArg (· + 1) (count_alter r top _))
    rw [node?_alter, h]
    split <;> rfl

end

/-! ## The list -/

/-- The chain stands for a list of keys with their sizes, oldest first. -/
structure Tracks (r : Recency κ) (entries : List (κ × Nat)) : Prop where
  distinct : (entries.map Prod.fst).Nodup
  /-- The links of a key are its neighbours in the list. -/
  node? : ∀ key, r.node? key = (entries.find? (·.1 = key)).map fun entry =>
    { size := entry.2
      newer := next? key (entries.map Prod.fst)
      older := next? key (entries.map Prod.fst).reverse }
  newest : r.newest = (entries.map Prod.fst).reverse.head?
  oldest : r.oldest = (entries.map Prod.fst).head?
  memory : r.memory = (entries.map Prod.snd).sum
  count : r.count = entries.length

omit [Std.LawfulEqOrd κ] in
theorem tracks_empty : (empty : Recency κ).Tracks [] where
  distinct := List.nodup_nil
  node? := fun _ => Std.ExtTreeMap.getElem?_empty
  newest := rfl
  oldest := rfl
  memory := rfl
  count := Std.ExtTreeMap.size_empty

/-- **A chain is determined by the list it stands for.** -/
theorem Tracks.ext {r s : Recency κ} {entries : List (κ × Nat)} (hr : r.Tracks entries)
    (hs : s.Tracks entries) : r = s := by
  have hnodes : r.nodes = s.nodes := by
    apply Std.ExtTreeMap.ext_getElem?
    intro key
    exact (hr.node? key).trans (hs.node? key).symm
  have hnewest : r.newest = s.newest := hr.newest.trans hs.newest.symm
  have holdest : r.oldest = s.oldest := hr.oldest.trans hs.oldest.symm
  have hmemory : r.memory = s.memory := hr.memory.trans hs.memory.symm
  cases r
  cases s
  simp_all

section

variable {r : Recency κ} {entries : List (κ × Nat)} {key other : κ} {size : Nat}

omit [Ord κ] [Std.TransOrd κ] [Std.LawfulEqOrd κ] in
theorem map_fst_filter (entries : List (κ × Nat)) (key : κ) :
    (entries.filter (·.1 ≠ key)).map Prod.fst = (entries.map Prod.fst).filter (· ≠ key) := by
  rw [List.filter_map]
  rfl

omit [Ord κ] [Std.TransOrd κ] [Std.LawfulEqOrd κ] in
theorem find?_filter_key (entries : List (κ × Nat)) (key other : κ) :
    (entries.filter (·.1 ≠ key)).find? (·.1 = other) =
      if key = other then none else entries.find? (·.1 = other) := by
  by_cases h : key = other
  · subst h
    rw [if_pos rfl, List.find?_eq_none]
    intro entry hentry
    simpa using (List.mem_filter.1 hentry).2
  · rw [if_neg h, List.find?_filter]
    congr 1
    funext entry
    by_cases heq : entry.1 = other <;> simp [heq, Ne.symm h]

omit [Ord κ] [Std.TransOrd κ] [Std.LawfulEqOrd κ] in
theorem find?_concat_key (h : key ∉ entries.map Prod.fst) (size : Nat) (other : κ) :
    (entries ++ [(key, size)]).find? (·.1 = other) =
      if key = other then some (key, size) else entries.find? (·.1 = other) := by
  rw [List.find?_append]
  by_cases hother : key = other
  · subst hother
    have hnone : entries.find? (·.1 = key) = none := by
      rw [List.find?_eq_none]
      intro entry hentry
      rw [decide_eq_true_iff]
      exact fun heq => h (heq ▸ List.mem_map_of_mem hentry)
    rw [hnone]
    simp
  · simp [hother]

omit [Ord κ] [Std.TransOrd κ] [Std.LawfulEqOrd κ] in
/-- An entry splits the list of which it is the only one of its key. -/
theorem split_of_mem (h : (entries.map Prod.fst).Nodup) (hmem : (key, size) ∈ entries) :
    ∃ front back, entries = front ++ (key, size) :: back ∧
      entries.find? (·.1 = key) = some (key, size) ∧
      entries.filter (·.1 ≠ key) = front ++ back := by
  obtain ⟨front, back, rfl⟩ := List.append_of_mem hmem
  rw [List.map_append, List.map_cons] at h
  obtain ⟨-, hrest, hapart⟩ := List.nodup_append.1 h
  have hfront : ∀ entry ∈ front, entry.1 ≠ key := fun entry hin =>
    hapart entry.1 (List.mem_map_of_mem hin) key List.mem_cons_self
  have hback : ∀ entry ∈ back, entry.1 ≠ key := by
    intro entry hin heq
    have hmap : entry.1 ∈ back.map Prod.fst := List.mem_map_of_mem hin
    exact (List.nodup_cons.1 hrest).1 (heq ▸ hmap)
  refine ⟨front, back, rfl, ?_, ?_⟩
  · rw [List.find?_append, List.find?_eq_none.2 (by simpa using hfront)]
    simp
  · rw [List.filter_append, List.filter_cons_of_neg (by simp),
      List.filter_eq_self.2 (by simpa using hfront), List.filter_eq_self.2 (by simpa using hback)]

omit [Std.LawfulEqOrd κ] in
theorem Tracks.node?_of_not_mem (h : r.Tracks entries) (hkey : key ∉ entries.map Prod.fst) :
    r.node? key = none := by
  rw [h.node?, List.find?_eq_none.2, Option.map_none]
  intro entry hin
  rw [decide_eq_true_iff]
  rintro rfl
  exact hkey (List.mem_map_of_mem hin)

/-- **Unlinking takes a key out.** -/
theorem Tracks.unlink (h : r.Tracks entries) (hmem : (key, size) ∈ entries) :
    ∃ node rest, r.unlink key = some (node, rest) ∧ node.size = size ∧
      ({ rest with memory := rest.memory - size } : Recency κ).Tracks
        (entries.filter (·.1 ≠ key)) := by
  obtain ⟨front, back, hsplit, hfind, hfilter⟩ := split_of_mem h.distinct hmem
  have hkeys := h.distinct
  have hin : key ∈ entries.map Prod.fst := List.mem_map_of_mem hmem
  have hnode := h.node? key
  rw [hfind, Option.map_some] at hnode
  refine ⟨_, _, by rw [Recency.unlink, hnode]; rfl, rfl, ?_, ?_, ?_, ?_, ?_, ?_⟩
  · rw [map_fst_filter]
    exact hkeys.filter _
  · intro other
    show (bridge _ _).node? other = _
    rw [node?_bridge, node?_erase, find?_filter_key, map_fst_filter, ← List.filter_reverse]
    by_cases hother : key = other
    · rw [if_pos hother, if_pos hother]
      rfl
    · -- The neighbours of the key become neighbours, in both directions.
      rw [if_neg hother, if_neg hother, h.node?, Option.map_map,
        next?_filter hkeys (Ne.symm hother),
        next?_filter (List.nodup_reverse.2 hkeys) (Ne.symm hother)]
      congr 1
      funext entry
      simp only [Function.comp_apply, next?_reverse hkeys]
  · rw [map_fst_filter, ← List.filter_reverse,
      head?_filter (List.nodup_reverse.2 hkeys) (List.mem_reverse.2 hin), List.reverse_reverse,
      ← h.newest]
    exact newest_bridge _ _
  · rw [map_fst_filter, head?_filter hkeys hin, ← h.oldest]
    exact oldest_bridge _ _
  · rw [hfilter]
    dsimp only
    rw [memory_bridge, h.memory, hsplit]
    simp only [List.map_append, List.map_cons, List.sum_append, List.sum_cons]
    omega
  · rw [hfilter]
    show (bridge _ _).count = _
    rw [count_bridge, count_erase r key _ hnode, h.count, hsplit]
    simp only [List.length_append, List.length_cons]
    omega

/-- **A new key goes to the end.** -/
theorem Tracks.pushNewest (h : r.Tracks entries) (hfresh : key ∉ entries.map Prod.fst)
    (size : Nat) : (r.pushNewest key size).Tracks (entries ++ [(key, size)]) := by
  have hkeys := h.distinct
  have hmap : (entries ++ [(key, size)]).map Prod.fst = entries.map Prod.fst ++ [key] :=
    List.map_append
  refine ⟨?_, ?_, ?_, ?_, ?_, ?_⟩
  · rw [hmap]
    exact List.nodup_append.2 ⟨hkeys, List.nodup_singleton key, fun x hx y hy heq =>
      hfresh (List.mem_singleton.1 hy ▸ heq ▸ hx)⟩
  · intro other
    rw [node?_pushNewest, find?_concat_key hfresh, hmap, next?_concat hkeys hfresh,
      List.reverse_append, List.reverse_singleton, List.singleton_append, next?, h.newest]
    by_cases hother : key = other
    · subst hother
      have hlast : (entries.map Prod.fst).reverse.head? ≠ some key := fun hlast =>
        hfresh (List.mem_reverse.1 (List.mem_of_head? hlast))
      rw [if_pos rfl, if_pos rfl, if_pos rfl, if_neg hlast, next?_of_not_mem hfresh]
      rfl
    · rw [if_neg hother, if_neg hother, if_neg hother, h.node?, Option.map_map]
      congr 1
      funext entry
      dsimp only [Function.comp_apply]
      split <;> rfl
  · rw [hmap, List.reverse_append]
    rfl
  · rw [oldest_pushNewest, hmap, h.newest, h.oldest]
    cases entries <;> simp
  · rw [memory_pushNewest, h.memory, List.map_append, List.sum_append]
    simp
  · rw [count_pushNewest r key size (h.node?_of_not_mem hfresh), h.count, List.length_append]
    rfl

omit [Std.LawfulEqOrd κ] in
/-- Where the key is not in the chain, there is nothing to take out. -/
theorem Tracks.unlink_of_not_mem (h : r.Tracks entries) (hkey : key ∉ entries.map Prod.fst) :
    r.unlink key = none ∧ entries.filter (·.1 ≠ key) = entries := by
  refine ⟨by rw [Recency.unlink, h.node?_of_not_mem hkey, Option.map_none], ?_⟩
  refine List.filter_eq_self.2 fun entry hin => decide_eq_true ?_
  rintro rfl
  exact hkey (List.mem_map_of_mem hin)

/-- **Touching a key moves it to the end**, charged with the new size. -/
theorem Tracks.touch (h : r.Tracks entries) (key : κ) (size : Nat) :
    (r.touch key size).Tracks (entries.filter (·.1 ≠ key) ++ [(key, size)]) := by
  unfold Recency.touch
  by_cases hmem : key ∈ entries.map Prod.fst
  · obtain ⟨⟨_, before⟩, hin, rfl⟩ := List.mem_map.1 hmem
    obtain ⟨node, rest, hunlink, rfl, hrest⟩ := h.unlink hin
    rw [hunlink]
    refine hrest.pushNewest ?_ size
    rw [map_fst_filter]
    simp
  · obtain ⟨hunlink, hstays⟩ := h.unlink_of_not_mem hmem
    rw [hunlink, hstays]
    exact h.pushNewest hmem size

/-- **Removing a key takes it out.** -/
theorem Tracks.remove (h : r.Tracks entries) (key : κ) :
    (r.remove key).2.Tracks (entries.filter (·.1 ≠ key)) := by
  unfold Recency.remove
  by_cases hmem : key ∈ entries.map Prod.fst
  · obtain ⟨⟨_, before⟩, hin, rfl⟩ := List.mem_map.1 hmem
    obtain ⟨node, rest, hunlink, rfl, hrest⟩ := h.unlink hin
    rw [hunlink]
    exact hrest
  · obtain ⟨hunlink, hstays⟩ := h.unlink_of_not_mem hmem
    rw [hunlink, hstays]
    exact h

/-! ## Walking along the chain -/

omit [Std.LawfulEqOrd κ] [DecidableEq κ] in
@[simp] theorem follow_none (link : Node κ → Option κ) (n : Nat) (met : List κ) :
    r.follow link n none met = met := by
  cases n <;> rfl

omit [Std.LawfulEqOrd κ] in
/-- A walk along a link that leads through a list meets the list, and ends there: more
steps than the list has keys meet nothing else. -/
theorem follow_eq (link : Node κ → Option κ) {front back met : List κ}
    (h : (front ++ back).Nodup)
    (hlink : ∀ key ∈ front ++ back, (r.node? key).bind link = next? key (front ++ back))
    {n : Nat} (hn : back.length ≤ n) :
    r.follow link n back.head? met = back.reverse ++ met := by
  induction back generalizing front met n with
  | nil => exact follow_none link n met
  | cons first rest ih =>
    obtain ⟨n, rfl⟩ : ∃ k, n = k + 1 := Nat.exists_eq_succ_of_ne_zero (by
      rw [List.length_cons] at hn
      omega)
    have hfront : first ∉ front := fun hin =>
      (List.nodup_append.1 h).2.2 first hin first List.mem_cons_self rfl
    have hassoc : front ++ first :: rest = (front ++ [first]) ++ rest := by simp
    rw [List.head?_cons, follow, hlink first (by simp), next?_append_cons hfront]
    rw [hassoc] at h hlink
    rw [ih h hlink (Nat.le_of_succ_le_succ hn), List.reverse_cons, List.append_assoc]
    rfl

omit [Std.LawfulEqOrd κ] in
/-- The links of a key lead to its two neighbours. -/
theorem Tracks.links (h : r.Tracks entries) (hkey : key ∈ entries.map Prod.fst) :
    (r.node? key).bind Node.newer = next? key (entries.map Prod.fst) ∧
      (r.node? key).bind Node.older = next? key (entries.map Prod.fst).reverse := by
  obtain ⟨⟨_, size⟩, hin, rfl⟩ := List.mem_map.1 hkey
  obtain ⟨-, -, -, hfind, -⟩ := split_of_mem h.distinct hin
  rw [h.node?, hfind]
  exact ⟨rfl, rfl⟩

omit [Std.LawfulEqOrd κ] in
/-- **The walk from the oldest key meets every key**, in the order of the list, and then
ends. -/
theorem Tracks.follow_newer (h : r.Tracks entries) {n : Nat} (hn : entries.length ≤ n) :
    r.follow Node.newer n r.oldest [] = (entries.map Prod.fst).reverse := by
  have hdistinct : ([] ++ entries.map Prod.fst).Nodup := h.distinct
  rw [h.oldest, follow_eq Node.newer hdistinct (fun key hkey => (h.links hkey).1)
    (by simpa using hn), List.append_nil]

omit [Std.LawfulEqOrd κ] in
/-- The walk from the newest key meets them the other way round. -/
theorem Tracks.follow_older (h : r.Tracks entries) {n : Nat} (hn : entries.length ≤ n) :
    r.follow Node.older n r.newest [] = entries.map Prod.fst := by
  have hdistinct : ([] ++ (entries.map Prod.fst).reverse).Nodup :=
    List.nodup_reverse.2 h.distinct
  have hlink : ∀ key ∈ [] ++ (entries.map Prod.fst).reverse,
      (r.node? key).bind Node.older = next? key ([] ++ (entries.map Prod.fst).reverse) :=
    fun key hkey => (h.links (List.mem_reverse.1 hkey)).2
  rw [h.newest, follow_eq Node.older hdistinct hlink (by simpa using hn), List.append_nil,
    List.reverse_reverse]

omit [Std.LawfulEqOrd κ] in
theorem Tracks.order (h : r.Tracks entries) : r.order = entries.map Prod.fst := by
  rw [Recency.order, h.follow_newer (Nat.le_of_eq h.count.symm), List.reverse_reverse]

omit [Std.LawfulEqOrd κ] in
theorem Tracks.reversed (h : r.Tracks entries) : r.reversed = (entries.map Prod.fst).reverse := by
  rw [Recency.reversed, h.follow_older (Nat.le_of_eq h.count.symm)]

end

end Recency

end ReadAhead
