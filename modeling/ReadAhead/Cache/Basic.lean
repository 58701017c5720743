/-
The block cache: blocks by id, the order in which they were last written, and a
memory budget. The budget is a wish and not a wall: writing never evicts, and
whoever writes asks for an eviction afterwards.

Looking a block up is free of side effects. Only `write` and `ensure` make a
block the most recent one.
-/
import ReadAhead.Failure
import ReadAhead.Cache.Geometry
import ReadAhead.Cache.Block
import ReadAhead.Cache.Table
import ReadAhead.Cache.Recency

set_option autoImplicit false

namespace ReadAhead

/-- Blocks of one resource within a memory budget. -/
structure Cache where
  label : String
  geometry : Geometry
  budget : Nat
  blocks : Table Block
  recency : Recency BlockId
  deriving DecidableEq, Repr

namespace Cache

/-- The greatest block shift a cache accepts. -/
def maxShift : Nat := 30

/-- A cache without blocks. -/
def empty (label : String) (geometry : Geometry) (budget : Nat) : Cache :=
  { label, geometry, budget, blocks := ∅, recency := .empty }

/-- A cache without blocks, if the shift is within `1..=30` and the budget holds
at least one block. -/
def new (label : String) (shift budget : Nat) : Except Failure Cache :=
  let geometry : Geometry := ⟨shift⟩
  if shift = 0 ∨ maxShift < shift then .error (.config (.cacheShift label shift))
  else if budget < geometry.size then .error (.config (.cacheLimit label budget geometry.size))
  else .ok (empty label geometry budget)

theorem new_eq_ok {label : String} {shift budget : Nat} (hshift : shift ≠ 0)
    (hmax : shift ≤ maxShift) (hbudget : Geometry.size ⟨shift⟩ ≤ budget) :
    new label shift budget = .ok (empty label ⟨shift⟩ budget) := by
  rw [new, if_neg (by omega), if_neg (Nat.not_lt.2 hbudget)]

/-- A new cache has no blocks, and its budget holds one. -/
theorem eq_empty_of_new {label : String} {shift budget : Nat} {c : Cache}
    (h : new label shift budget = .ok c) :
    c = empty label ⟨shift⟩ budget ∧ Geometry.size ⟨shift⟩ ≤ budget := by
  rw [new] at h
  split at h
  · exact absurd h nofun
  split at h
  · exact absurd h nofun
  next hbudget =>
  exact ⟨(Except.ok.inj h).symm, Nat.not_lt.1 hbudget⟩

/-! ## Looking -/

def block? (c : Cache) (id : BlockId) : Option Block := c.blocks.get? id

def contains (c : Cache) (id : BlockId) : Bool := (c.block? id).isSome

/-- The ids of all cached blocks, ascending. -/
def ids (c : Cache) : List BlockId := c.blocks.ids

/-- Number of cached blocks. -/
def count (c : Cache) : Nat := c.blocks.size

/-- The cached block with the greatest id not above `id`. -/
def floor? (c : Cache) (id : BlockId) : Option (BlockId × Block) := c.blocks.floor? id

/-- The cached blocks with ids above `id`, ascending. -/
def above (c : Cache) (id : BlockId) : List (BlockId × Block) := c.blocks.above id

/-- Bytes the cached blocks are charged with. A block is charged in full from
the moment it exists. -/
def memory (c : Cache) : Nat := c.recency.memory

/-- More memory is in use than the budget allows. -/
def overBudget (c : Cache) : Bool := c.budget < c.memory

/-! ## Changing -/

/-- Makes sure a block exists and makes it the most recent one. -/
def ensure (c : Cache) (id : BlockId) : Cache :=
  { c with
    recency := c.recency.touch id c.geometry.size
    blocks := if c.contains id then c.blocks else c.blocks.put id (.empty c.geometry.size) }

/-- Writes to a block, which exists from then on, and says how many bytes it took. -/
def write (c : Cache) (id : BlockId) (offset : Nat) (bytes : Bytes) : Nat × Cache :=
  let c := c.ensure id
  let written := ((c.block? id).getD (.empty c.geometry.size)).write offset bytes
  (written.1, { c with blocks := c.blocks.put id written.2 })

/-- Removes a block. -/
def erase (c : Cache) (id : BlockId) : Cache :=
  { c with recency := (c.recency.remove id).2, blocks := c.blocks.erase id }

/-- Removes every block. -/
def clear (c : Cache) : Cache := { c with blocks := ∅, recency := .empty }

end Cache

end ReadAhead
