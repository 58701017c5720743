/-
Eviction: giving memory back, oldest block first. Blocks inside a pinned range
are passed over, even if that leaves the cache above its budget; everything
else goes in the order it was last written, and no further than needed.
-/
import ReadAhead.Cache.Basic

set_option autoImplicit false

namespace ReadAhead

/-- Block ids from `first` to `last`, both included; none if `last < first`. -/
structure IdRange where
  first : BlockId
  last : BlockId
  deriving DecidableEq, Repr

def IdRange.contains (r : IdRange) (id : BlockId) : Bool := r.first ≤ id && id ≤ r.last

namespace Cache

/-- Whether a block may go: no pinned range holds it. -/
def unpinned (pinned : List IdRange) (id : BlockId) : Bool := !pinned.any (·.contains id)

/-- What may go, in the order in which it goes. -/
def candidates (c : Cache) (pinned : List IdRange) : List BlockId :=
  c.recency.order.filter (unpinned pinned)

/-- Removes one more block if the budget is exceeded. The last one that went is
in front. -/
def shedOne (s : List BlockId × Cache) (id : BlockId) : List BlockId × Cache :=
  if s.2.overBudget then (id :: s.1, s.2.erase id) else s

/-- Removes blocks in the given order for as long as the budget is exceeded. -/
def shed (c : Cache) (ids : List BlockId) : List BlockId × Cache :=
  let (gone, c) := ids.foldl shedOne ([], c)
  (gone.reverse, c)

/-- Removes the oldest blocks outside the pinned ranges until the cache fits
its budget, and says which went. -/
def evict (c : Cache) (pinned : List IdRange) : List BlockId × Cache :=
  c.shed (c.candidates pinned)

end Cache

end ReadAhead
