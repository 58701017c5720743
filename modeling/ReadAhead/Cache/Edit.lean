/-
Everything that can be done to a cache, and caches as what comes of it. A block is written
to only through the look-up that makes sure of it: whoever asks for a block may write to it
as often as they like, and has to ask again once anything else was done.
-/
import ReadAhead.Cache.Eviction

set_option autoImplicit false

namespace ReadAhead

/-- Writes to a block one after another, each one an offset with the bytes to go there. -/
def Block.amend (b : Block) (writes : List (Nat × Bytes)) : Block :=
  writes.foldl (fun b write => (b.write write.1 write.2).2) b

namespace Cache

/-- Makes sure a block exists, makes it the most recent one, and writes to it. -/
def amend (c : Cache) (id : BlockId) (writes : List (Nat × Bytes)) : Cache :=
  let c := c.ensure id
  let block := (c.block? id).getD (.empty c.geometry.size)
  { c with blocks := c.blocks.put id (block.amend writes) }

/-- To write once is to amend with one write. -/
theorem snd_write_eq_amend (c : Cache) (id offset : Nat) (bytes : Bytes) :
    (c.write id offset bytes).2 = c.amend id [(offset, bytes)] := rfl

/-- Everything that changes a cache. -/
inductive Edit where
  | amend (id : BlockId) (writes : List (Nat × Bytes))
  | erase (id : BlockId)
  | evict (pinned : List IdRange)
  | clear
  deriving DecidableEq, Repr

/-- One change. -/
def edit (c : Cache) : Edit → Cache
  | .amend id writes => c.amend id writes
  | .erase id => c.erase id
  | .evict pinned => (c.evict pinned).2
  | .clear => c.clear

/-- What changes one after another make of a cache. -/
def after (c : Cache) (edits : List Edit) : Cache := edits.foldl edit c

end Cache

end ReadAhead
