/-
Values by number, in ascending order of the numbers. A table is determined by
what is read from it, so two tables that were filled in different ways are equal
as soon as they hold the same.

The order is what the readers of a cache rely on: the last entry not above an
id, and the entries above it in sequence. It is a property of `entries`, whatever
was done to the table.
-/
import Std.Data.ExtTreeMap

set_option autoImplicit false

namespace ReadAhead

/-- Values by number. -/
abbrev Table (α : Type) := Std.ExtTreeMap Nat α

namespace Table

variable {α : Type}

/-- The value at a number. -/
def get? (t : Table α) (id : Nat) : Option α := t[id]?

/-- Sets the value at a number. -/
def put (t : Table α) (id : Nat) (value : α) : Table α := t.insert id value

/-- Removes the value at a number. -/
def erase (t : Table α) (id : Nat) : Table α := Std.ExtTreeMap.erase t id

/-- The numbers that have a value, with their values, ascending. -/
def entries (t : Table α) : List (Nat × α) := t.toList

/-- The numbers that have a value, ascending. -/
def ids (t : Table α) : List Nat := t.entries.map Prod.fst

/-- The last entry whose number is at most `id`. -/
def floor? (t : Table α) (id : Nat) : Option (Nat × α) :=
  (t.entries.filter (·.1 ≤ id)).getLast?

/-- The entries whose number is above `id`. -/
def above (t : Table α) (id : Nat) : List (Nat × α) := t.entries.filter (id < ·.1)

/-! ## Reading back -/

/-- **A table is what is read from it.** -/
theorem ext_get? {t u : Table α} (h : ∀ id, t.get? id = u.get? id) : t = u :=
  Std.ExtTreeMap.ext_getElem? h

@[simp] theorem get?_empty (id : Nat) : get? (∅ : Table α) id = none := by
  simp [get?]

/-- **Reading after setting.** -/
theorem get?_put (t : Table α) (id j : Nat) (value : α) :
    (t.put id value).get? j = if j = id then some value else t.get? j := by
  simp only [get?, put, Std.ExtTreeMap.getElem?_insert, Nat.compare_eq_eq]
  grind

/-- **Reading after removing.** -/
theorem get?_erase (t : Table α) (id j : Nat) :
    (t.erase id).get? j = if j = id then none else t.get? j := by
  simp only [get?, erase, Std.ExtTreeMap.getElem?_erase, Nat.compare_eq_eq]
  grind

/-! ## The order -/

/-- The entries are what can be read. -/
theorem mem_entries {t : Table α} {id : Nat} {value : α} :
    (id, value) ∈ t.entries ↔ t.get? id = some value :=
  Std.ExtTreeMap.mem_toList_iff_getElem?_eq_some

/-- **The numbers ascend.** -/
theorem pairwise_entries (t : Table α) : t.entries.Pairwise (fun a b => a.1 < b.1) :=
  t.ordered_keys_toList.imp fun h => Nat.compare_eq_lt.1 h

theorem pairwise_ids (t : Table α) : t.ids.Pairwise (· < ·) :=
  List.pairwise_map.2 t.pairwise_entries

/-- What the floor finds is an entry, and not above what was asked for. -/
theorem get?_of_floor? {t : Table α} {id j : Nat} {value : α} (h : t.floor? id = some (j, value)) :
    t.get? j = some value ∧ j ≤ id := by
  have hmem := List.mem_of_getLast? h
  rw [List.mem_filter] at hmem
  exact ⟨mem_entries.1 hmem.1, by simpa using hmem.2⟩

/-- **The floor is the last entry.** No other one lies between it and what was
asked for. -/
theorem le_of_floor? {t : Table α} {id j k : Nat} {value other : α}
    (h : t.floor? id = some (j, value)) (hk : t.get? k = some other) (hle : k ≤ id) : k ≤ j := by
  obtain ⟨front, hfront⟩ := List.getLast?_eq_some_iff.1 h
  have hmem : (k, other) ∈ t.entries.filter (·.1 ≤ id) :=
    List.mem_filter.2 ⟨mem_entries.2 hk, by simpa using hle⟩
  have hord : (t.entries.filter (·.1 ≤ id)).Pairwise (fun a b => a.1 < b.1) :=
    t.pairwise_entries.filter _
  rw [hfront] at hmem hord
  rcases List.mem_append.1 hmem with hin | hlast
  · exact Nat.le_of_lt ((List.pairwise_append.1 hord).2.2 _ hin _ (List.mem_singleton_self _))
  · have heq := List.mem_singleton.1 hlast
    simp only [Prod.mk.injEq] at heq
    exact Nat.le_of_eq heq.1

/-- There is a floor as soon as there is an entry not above what is asked for. -/
theorem isSome_floor? {t : Table α} {id k : Nat} {value : α} (hk : t.get? k = some value)
    (hle : k ≤ id) : (t.floor? id).isSome := by
  have hmem : (k, value) ∈ t.entries.filter (·.1 ≤ id) :=
    List.mem_filter.2 ⟨mem_entries.2 hk, by simpa using hle⟩
  rw [floor?, List.getLast?_eq_some_getLast (List.ne_nil_of_mem hmem)]
  rfl

/-- An entry is its own floor. -/
theorem floor?_of_get? {t : Table α} {id : Nat} {value : α} (h : t.get? id = some value) :
    t.floor? id = some (id, value) := by
  obtain ⟨⟨j, found⟩, hfloor⟩ := Option.isSome_iff_exists.1 (isSome_floor? h (Nat.le_refl id))
  obtain ⟨hget, hle⟩ := get?_of_floor? hfloor
  obtain rfl : j = id := Nat.le_antisymm hle (le_of_floor? hfloor h (Nat.le_refl id))
  obtain rfl : found = value := Option.some.inj (hget.symm.trans h)
  exact hfloor

/-- The entries above a number, which go on in ascending order. -/
theorem mem_above {t : Table α} {id j : Nat} {value : α} :
    (j, value) ∈ t.above id ↔ t.get? j = some value ∧ id < j := by
  rw [above, List.mem_filter, mem_entries]
  simp

end Table

end ReadAhead
