/-
Block geometry: how byte positions fall into blocks of equal size. A position
is its block's start plus an offset below the block size, and the two determine
each other; that is the whole of the arithmetic the cache needs.

The size is a power of two, so block and offset are division and remainder.
Positions are natural numbers here. Where a position is handed out as a 64-bit
word, `startWord` drops the bits that do not fit.
-/

set_option autoImplicit false

namespace ReadAhead

/-- Index of a block. -/
abbrev BlockId := Nat

/-- Blocks of `2 ^ shift` bytes. -/
structure Geometry where
  shift : Nat
  deriving DecidableEq, Repr

namespace Geometry

/-- Bytes in a block. -/
def size (g : Geometry) : Nat := 1 <<< g.shift

/-- The block a position falls into. -/
def blockOf (g : Geometry) (position : Nat) : Nat := position / g.size

/-- How far into its block a position lies. -/
def offsetOf (g : Geometry) (position : Nat) : Nat := position % g.size

/-- The first position of a block. -/
def startOf (g : Geometry) (id : BlockId) : Nat := id * g.size

/-- The first position of a block as a 64-bit word: bits beyond the 64th are lost. -/
def startWord (g : Geometry) (id : BlockId) : Nat := g.startOf id % UInt64.size

theorem size_pos (g : Geometry) : 0 < g.size := by
  rw [size, Nat.one_shiftLeft]
  exact Nat.two_pow_pos g.shift

theorem offsetOf_lt (g : Geometry) (position : Nat) : g.offsetOf position < g.size :=
  Nat.mod_lt _ g.size_pos

/-- **A position is its block's start plus its offset.** -/
theorem startOf_add_offsetOf (g : Geometry) (position : Nat) :
    g.startOf (g.blockOf position) + g.offsetOf position = position := by
  rw [startOf, blockOf, offsetOf, Nat.mul_comm]
  exact Nat.div_add_mod position g.size

@[simp] theorem blockOf_startOf (g : Geometry) (id : BlockId) :
    g.blockOf (g.startOf id) = id := by
  rw [blockOf, startOf, Nat.mul_div_cancel _ g.size_pos]

@[simp] theorem offsetOf_startOf (g : Geometry) (id : BlockId) :
    g.offsetOf (g.startOf id) = 0 := by
  rw [offsetOf, startOf, Nat.mul_mod_left]

/-! ## Order

Blocks lie in the order of their positions and do not overlap, so that comparing
a position with a block's start is comparing the position's block with it. -/

theorem startOf_succ (g : Geometry) (id : Nat) : g.startOf (id + 1) = g.startOf id + g.size :=
  Nat.succ_mul id g.size

theorem startOf_le_iff (g : Geometry) (id : Nat) (position : Nat) :
    g.startOf id ≤ position ↔ id ≤ g.blockOf position :=
  (Nat.le_div_iff_mul_le g.size_pos).symm

theorem startOf_blockOf_le (g : Geometry) (position : Nat) :
    g.startOf (g.blockOf position) ≤ position :=
  (g.startOf_le_iff _ _).2 (Nat.le_refl _)

theorem blockOf_mono (g : Geometry) {p q : Nat} (h : p ≤ q) : g.blockOf p ≤ g.blockOf q :=
  Nat.div_le_div_right h

theorem blockOf_lt_iff (g : Geometry) (id : Nat) (position : Nat) :
    g.blockOf position < id ↔ position < g.startOf id := by
  have := g.startOf_le_iff id position
  omega

/-- **An offset below the size stays in the block.** -/
theorem blockOf_startOf_add (g : Geometry) (id : Nat) {offset : Nat} (h : offset < g.size) :
    g.blockOf (g.startOf id + offset) = id := by
  have hle : id ≤ g.blockOf (g.startOf id + offset) :=
    (g.startOf_le_iff _ _).1 (Nat.le_add_right _ _)
  have hlt : g.blockOf (g.startOf id + offset) < id + 1 := by
    rw [blockOf_lt_iff, startOf_succ]
    exact Nat.add_lt_add_left h _
  omega

theorem offsetOf_startOf_add (g : Geometry) (id : Nat) {offset : Nat} (h : offset < g.size) :
    g.offsetOf (g.startOf id + offset) = offset := by
  have hsplit := g.startOf_add_offsetOf (g.startOf id + offset)
  rw [g.blockOf_startOf_add id h] at hsplit
  omega

/-- Going on from a position within its block. -/
theorem blockOf_add (g : Geometry) (position count : Nat)
    (h : g.offsetOf position + count < g.size) :
    g.blockOf (position + count) = g.blockOf position := by
  have hsplit := g.startOf_add_offsetOf position
  rw [← g.blockOf_startOf_add (g.blockOf position) h, ← Nat.add_assoc, hsplit]

theorem offsetOf_add (g : Geometry) (position count : Nat)
    (h : g.offsetOf position + count < g.size) :
    g.offsetOf (position + count) = g.offsetOf position + count := by
  have hsplit := g.startOf_add_offsetOf position
  rw [← g.offsetOf_startOf_add (g.blockOf position) h, ← Nat.add_assoc, hsplit]

/-- Going on from a position exactly to the end of its block. -/
theorem offsetOf_add_of_eq (g : Geometry) (position count : Nat)
    (h : g.offsetOf position + count = g.size) : g.offsetOf (position + count) = 0 := by
  have hsplit := g.startOf_add_offsetOf position
  have hnext : position + count = g.startOf (g.blockOf position + 1) := by
    rw [startOf_succ]
    omega
  rw [hnext, offsetOf_startOf]

end Geometry

end ReadAhead
