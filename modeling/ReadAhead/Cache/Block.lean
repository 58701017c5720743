/-
One block of the cache: a fixed capacity, filled from its start. Only the
filled part is kept, so a block never holds a byte that nobody wrote.

A write lands at an offset inside the filled part or directly behind it. It
overwrites, extends, and is cut where the capacity ends; `write` says how many
bytes it took.
-/
import ReadAhead.Bytes

set_option autoImplicit false

namespace ReadAhead

/-- A block and the bytes written to it so far. -/
structure Block where
  capacity : Nat
  data : Bytes
  deriving DecidableEq, Repr

namespace Block

/-- A block nothing was written to. -/
def empty (capacity : Nat) : Block := { capacity, data := [] }

/-- Length of the filled part. -/
def filled (b : Block) : Nat := b.data.length

def isFull (b : Block) : Bool := b.filled == b.capacity

/-- Writes as much of `bytes` as fits at `offset`, and says how much that was.
A write at or past the capacity takes nothing. -/
def write (b : Block) (offset : Nat) (bytes : Bytes) : Nat × Block :=
  if b.capacity ≤ offset then (0, b)
  else
    let taken := bytes.take (b.capacity - offset)
    (taken.length, { b with data := b.data.overlay offset taken })

@[simp] theorem capacity_write (b : Block) (offset : Nat) (bytes : Bytes) :
    (b.write offset bytes).2.capacity = b.capacity := by
  rw [write]
  split <;> rfl

/-- The number of bytes taken is what fits between the offset and the capacity. -/
theorem fst_write (b : Block) (offset : Nat) (bytes : Bytes) :
    (b.write offset bytes).1 = min bytes.length (b.capacity - offset) := by
  rw [write]
  split
  · next h => simp [Nat.sub_eq_zero_of_le h]
  · simp [Nat.min_comm]

/-- Behind or inside the filled part a write leaves no hole: the filled length
becomes the further of its old value and the end of what was written. -/
theorem filled_write (b : Block) (offset : Nat) (bytes : Bytes) (h : offset ≤ b.filled) :
    (b.write offset bytes).2.filled = max b.filled (offset + (b.write offset bytes).1) := by
  rw [write]
  split
  · simp only [filled] at h ⊢
    omega
  · exact Bytes.length_overlay _ _ _ h

/-- **Reading after writing.** A byte of the block is the byte written over it, if
there is one. What lies past the capacity is no byte of the block. -/
theorem getElem?_data_write (b : Block) (offset : Nat) (bytes : Bytes) (h : offset ≤ b.filled)
    {i : Nat} (hi : i < b.capacity) :
    (b.write offset bytes).2.data[i]? =
      if offset ≤ i ∧ i < offset + bytes.length then bytes[i - offset]? else b.data[i]? := by
  rw [write]
  split
  · next hfull => rw [if_neg (by omega)]
  · dsimp only
    have htaken : (bytes.take (b.capacity - offset)).length =
        min (b.capacity - offset) bytes.length := List.length_take
    split
    · next hin =>
      obtain ⟨j, rfl⟩ := Nat.exists_eq_add_of_le hin.1
      rw [Bytes.getElem?_overlay_add _ _ _ _ (by omega) h, Nat.add_sub_cancel_left,
        List.getElem?_take_of_lt (by omega)]
    · next hout =>
      by_cases hlt : i < offset
      · exact Bytes.getElem?_overlay_of_lt _ _ _ _ hlt h
      · exact Bytes.getElem?_overlay_of_le _ _ _ _ (by omega) h

end Block

end ReadAhead
