/-
Byte ranges across blocks. A chunk written from a position on is split where
blocks end; a read from a position on runs through consecutive blocks for as
long as each one is full and its successor is cached.

`ingest` bounds its rounds by the length of the chunk: every round writes at
least one byte, because the offset of a position lies below the block size.
-/
import ReadAhead.Cache.Basic

set_option autoImplicit false

namespace ReadAhead.Cache

/-! ## Writing -/

/-- A chunk on its way into a cache: what is left of it, and where that goes. -/
structure Ingestion where
  cache : Cache
  position : Nat
  left : Bytes
  deriving DecidableEq, Repr

namespace Ingestion

/-- Writes as much of what is left as its block takes. -/
def round (i : Ingestion) : Ingestion :=
  match i.left with
  | [] => i
  | _ :: _ =>
    let g := i.cache.geometry
    let (taken, cache) := i.cache.write (g.blockOf i.position) (g.offsetOf i.position) i.left
    { cache, position := i.position + taken, left := i.left.drop taken }

/-- A number of rounds. -/
def rounds : Nat → Ingestion → Ingestion
  | 0, i => i
  | n + 1, i => rounds n i.round

end Ingestion

/-- Writes a chunk from `position` on, however many blocks it spans. -/
def ingest (c : Cache) (position : Nat) (bytes : Bytes) : Cache :=
  (Ingestion.rounds bytes.length ⟨c, position, bytes⟩).cache

@[simp] theorem ingest_nil (c : Cache) (position : Nat) : c.ingest position [] = c := rfl

/-! ## Reading -/

/-- The bytes found from `position` on in a sequence of blocks, the first of
which should be `expected`; at most `want` of them. -/
def collect (g : Geometry) : List (BlockId × Block) → BlockId → Nat → Nat → Bytes
  | [], _, _, _ => []
  | (id, block) :: rest, expected, position, want =>
    -- A block is missing, or there is enough.
    if id ≠ expected ∨ want = 0 then []
    else if g.startOf id + block.filled ≤ position then []
    else
      let chunk := (block.data.drop (position - g.startOf id)).take want
      if block.isFull then
        chunk ++ collect g rest (expected + 1) (position + chunk.length) (want - chunk.length)
      else chunk

/-- The cached bytes from `position` on, without a gap, at most `want` of them. -/
def read (c : Cache) (position want : Nat) : Bytes :=
  match c.floor? (c.geometry.blockOf position) with
  | none => []
  | some (id, block) => collect c.geometry ((id, block) :: c.above id) id position want

/-- The byte at `position` is cached: the block that should hold it, or the
last one before it, reaches past it. -/
def covers (c : Cache) (position : Nat) : Bool :=
  match c.floor? (c.geometry.blockOf position) with
  | some (id, block) => position < c.geometry.startOf id + block.filled
  | none => false

end ReadAhead.Cache
