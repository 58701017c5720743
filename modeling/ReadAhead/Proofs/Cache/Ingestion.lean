/-
Ingestion: a chunk goes into the cache round by round, one block at a time. What
a round keeps is not the cache but the cache together with what is still to come:
the bytes that are cached now, overlaid with what is left of the chunk. A round
moves a piece from one to the other, and at the end nothing is left, so what the
two were together is what is cached.

The same goes for the set of blocks. Both need that every round finds its
position writable, which is `Ready`, and a round that leaves anything over
leaves it at the start of a block.
-/
import ReadAhead.Proofs.Cache.Contents

set_option autoImplicit false

namespace ReadAhead.Cache

namespace Ingestion

/-! ## A round -/

/-- The next write is within a block of the right size and leaves no hole. -/
structure Ready (i : Ingestion) : Prop where
  sized : i.cache.Sized
  writable : i.cache.Writable i.position

/-- Number of bytes that a round writes. -/
def share (i : Ingestion) : Nat :=
  min i.left.length (i.cache.geometry.size - i.cache.geometry.offsetOf i.position)

/-- The byte that will be cached at a position once nothing is left. -/
def eventual? (i : Ingestion) (q : Nat) : Option UInt8 :=
  if i.position ≤ q ∧ q < i.position + i.left.length then i.left[q - i.position]?
  else i.cache.byte? q

/-- The block will be cached once nothing is left. -/
def Reaches (i : Ingestion) (id : Nat) : Prop :=
  i.cache.contains id = true ∨
    ∃ q, i.position ≤ q ∧ q < i.position + i.left.length ∧ i.cache.geometry.blockOf q = id

/-- What a round does, if anything is left. -/
theorem round_of_ne_nil {i : Ingestion} (h : i.left ≠ []) (hs : i.cache.Sized) :
    i.round =
      { cache := (i.cache.write (i.cache.geometry.blockOf i.position)
          (i.cache.geometry.offsetOf i.position) i.left).2
        position := i.position + i.share
        left := i.left.drop i.share } := by
  obtain ⟨c, p, left⟩ := i
  cases left with
  | nil => exact absurd rfl h
  | cons b bytes => rw [round, share]; dsimp only; rw [hs.fst_write]

theorem round_of_nil {i : Ingestion} (h : i.left = []) : i.round = i := by
  obtain ⟨c, p, left⟩ := i
  cases h
  rfl

@[simp] theorem geometry_round (i : Ingestion) : i.round.cache.geometry = i.cache.geometry := by
  obtain ⟨c, p, left⟩ := i
  cases left <;> rfl

theorem share_pos {i : Ingestion} (h : i.left ≠ []) : 0 < i.share := by
  have := i.cache.geometry.offsetOf_lt i.position
  have := List.length_pos_iff.2 h
  rw [share]
  omega

theorem share_le (i : Ingestion) : i.share ≤ i.left.length := Nat.min_le_left _ _

/-- A round stays within one block. -/
theorem blockOf_of_lt_share {i : Ingestion} {q : Nat} (hlo : i.position ≤ q)
    (hhi : q < i.position + i.share) :
    i.cache.geometry.blockOf q = i.cache.geometry.blockOf i.position := by
  have hlt := i.cache.geometry.offsetOf_lt i.position
  have hshare : i.share ≤ i.cache.geometry.size - i.cache.geometry.offsetOf i.position :=
    Nat.min_le_right _ _
  obtain ⟨k, rfl⟩ := Nat.exists_eq_add_of_le hlo
  exact i.cache.geometry.blockOf_add i.position k (by omega)

/-- **The end of the chunk stays where it is.** -/
theorem position_round {i : Ingestion} (hs : i.cache.Sized) :
    i.round.position + i.round.left.length = i.position + i.left.length := by
  by_cases h : i.left = []
  · rw [round_of_nil h]
  · rw [round_of_ne_nil h hs]
    have := i.share_le
    simp only [List.length_drop]
    omega

/-- **A round moves its share.** Cached and left over make the same whole. -/
theorem eventual?_round {i : Ingestion} (hr : i.Ready) (q : Nat) :
    i.round.eventual? q = i.eventual? q := by
  by_cases h : i.left = []
  · rw [round_of_nil h]
  · have hle := i.share_le
    rw [round_of_ne_nil h hr.sized, eventual?, eventual?]
    simp only [List.length_drop]
    rw [byte?_write hr.sized hr.writable]
    -- A byte is left for later rounds, or in the share of this one, or not in the chunk.
    by_cases hrest : i.position + i.share ≤ q ∧ q < i.position + i.left.length
    · rw [if_pos (by omega), if_pos (by omega), List.getElem?_drop]
      congr 1
      omega
    · rw [if_neg (by omega)]
      by_cases hin : i.position ≤ q ∧ q < i.position + i.left.length
      · -- Within the chunk and not behind the share is within the block of this round.
        have hblock := blockOf_of_lt_share hin.1 (by omega)
        rw [if_pos ⟨hblock, hin⟩, if_pos hin]
      · rw [if_neg (fun hand => hin hand.2), if_neg hin]

/-- The blocks of a round are those of its chunk. -/
theorem reaches_round {i : Ingestion} (hs : i.cache.Sized) (id : Nat) :
    i.round.Reaches id ↔ i.Reaches id := by
  by_cases h : i.left = []
  · rw [round_of_nil h]
  · have hpos := share_pos h
    have hle := i.share_le
    rw [round_of_ne_nil h hs, Reaches, Reaches]
    simp only [List.length_drop, geometry_write]
    rw [contains_write]
    constructor
    · rintro ((rfl | hold) | ⟨q, hlo, hhi, hq⟩)
      · exact .inr ⟨i.position, Nat.le_refl _, by omega, rfl⟩
      · exact .inl hold
      · exact .inr ⟨q, by omega, by omega, hq⟩
    · rintro (hold | ⟨q, hlo, hhi, hq⟩)
      · exact .inl (.inr hold)
      · by_cases hrest : i.position + i.share ≤ q
        · exact .inr ⟨q, hrest, by omega, hq⟩
        · refine .inl (.inl ?_)
          rw [← hq]
          exact blockOf_of_lt_share hlo (Nat.not_le.1 hrest)

/-- **After a round the next position is writable**: it is the one behind a byte
that was just written. -/
theorem ready_round {i : Ingestion} (hr : i.Ready) : i.round.Ready := by
  by_cases h : i.left = []
  · rwa [round_of_nil h]
  · have hpos := share_pos h
    have hle := i.share_le
    rw [round_of_ne_nil h hr.sized]
    refine ⟨hr.sized.write _ hr.writable, ?_⟩
    -- The byte in front of the next position is the last one of the share.
    obtain ⟨k, hk⟩ := Nat.exists_eq_add_of_lt hpos
    have hlast : i.position + i.share = i.position + k + 1 := by omega
    have hblock := blockOf_of_lt_share (Nat.le_add_right i.position k) (by omega)
    dsimp only
    rw [hlast]
    apply writable_succ
    rw [byte?_write hr.sized hr.writable, if_pos ⟨hblock, by omega, by omega⟩,
      Nat.add_sub_cancel_left, List.getElem?_eq_getElem (by omega)]
    rfl

/-! ## All rounds -/

/-- **Every round finds its position writable.** -/
theorem ready_rounds (n : Nat) {i : Ingestion} (hr : i.Ready) : (rounds n i).Ready := by
  induction n generalizing i with
  | zero => exact hr
  | succ n ih => exact ih (ready_round hr)

@[simp] theorem geometry_rounds (n : Nat) (i : Ingestion) :
    (rounds n i).cache.geometry = i.cache.geometry := by
  induction n generalizing i with
  | zero => rfl
  | succ n ih => rw [rounds, ih, geometry_round]

theorem eventual?_rounds (n : Nat) {i : Ingestion} (hr : i.Ready) (q : Nat) :
    (rounds n i).eventual? q = i.eventual? q := by
  induction n generalizing i with
  | zero => rfl
  | succ n ih => rw [rounds, ih (ready_round hr), eventual?_round hr]

theorem reaches_rounds (n : Nat) {i : Ingestion} (hr : i.Ready) (id : Nat) :
    (rounds n i).Reaches id ↔ i.Reaches id := by
  induction n generalizing i with
  | zero => rfl
  | succ n ih => rw [rounds, ih (ready_round hr), reaches_round hr.sized]

theorem position_rounds (n : Nat) {i : Ingestion} (hr : i.Ready) :
    (rounds n i).position + (rounds n i).left.length = i.position + i.left.length := by
  induction n generalizing i with
  | zero => rfl
  | succ n ih => rw [rounds, ih (ready_round hr), position_round hr.sized]

/-- **The rounds come to an end.** Each one writes at least a byte. -/
theorem left_rounds (n : Nat) {i : Ingestion} (hr : i.Ready) (h : i.left.length ≤ n) :
    (rounds n i).left = [] := by
  induction n generalizing i with
  | zero => exact List.eq_nil_of_length_eq_zero (Nat.le_zero.1 h)
  | succ n ih =>
    refine ih (ready_round hr) ?_
    -- The bound goes down by one, and so does what is left, at least.
    by_cases hnil : i.left = []
    · rw [round_of_nil hnil, hnil]
      exact Nat.zero_le n
    · rw [round_of_ne_nil hnil hr.sized]
      have := share_pos hnil
      simp only [List.length_drop]
      omega

end Ingestion

/-! ## A chunk -/

@[simp] theorem geometry_ingest (c : Cache) (position : Nat) (bytes : Bytes) :
    (c.ingest position bytes).geometry = c.geometry :=
  Ingestion.geometry_rounds _ _

section

variable {c : Cache} {position : Nat} (hs : c.Sized) (hw : c.Writable position) (bytes : Bytes)
include hs hw

/-- **What is cached after a chunk was stored**: its bytes, each at its place, and
everywhere else what was cached before. -/
theorem byte?_ingest (q : Nat) :
    (c.ingest position bytes).byte? q =
      if position ≤ q ∧ q < position + bytes.length then bytes[q - position]? else c.byte? q := by
  have hr : Ingestion.Ready ⟨c, position, bytes⟩ := ⟨hs, hw⟩
  have hwhole := Ingestion.eventual?_rounds bytes.length hr q
  have hend := Ingestion.left_rounds bytes.length hr (Nat.le_refl _)
  rw [Ingestion.eventual?, hend, if_neg (by simp)] at hwhole
  exact hwhole

/-- **Which blocks are cached after a chunk was stored**: those it touches, and
those cached before. -/
theorem contains_ingest (id : Nat) :
    (c.ingest position bytes).contains id = true ↔ c.contains id = true ∨
      ∃ q, position ≤ q ∧ q < position + bytes.length ∧ c.geometry.blockOf q = id := by
  have hr : Ingestion.Ready ⟨c, position, bytes⟩ := ⟨hs, hw⟩
  have hwhole := Ingestion.reaches_rounds bytes.length hr id
  have hend := Ingestion.left_rounds bytes.length hr (Nat.le_refl _)
  rw [Ingestion.Reaches, hend] at hwhole
  refine Iff.trans (or_iff_left ?_).symm hwhole
  rintro ⟨q, hlo, hhi, -⟩
  simp only [List.length_nil] at hhi
  omega

theorem Sized.ingest : (c.ingest position bytes).Sized :=
  (Ingestion.ready_rounds bytes.length (i := ⟨c, position, bytes⟩) ⟨hs, hw⟩).sized

/-- The position behind the chunk is writable. -/
theorem writable_ingest : (c.ingest position bytes).Writable (position + bytes.length) := by
  have hr : Ingestion.Ready ⟨c, position, bytes⟩ := ⟨hs, hw⟩
  have hend := Ingestion.left_rounds bytes.length hr (Nat.le_refl _)
  have hpos := Ingestion.position_rounds bytes.length hr
  rw [hend, List.length_nil, Nat.add_zero] at hpos
  rw [← hpos]
  exact (Ingestion.ready_rounds bytes.length hr).writable

/-- The bytes of the chunk are cached. -/
theorem isSome_byte?_ingest_new {q : Nat} (hlo : position ≤ q)
    (hhi : q < position + bytes.length) :
    ((c.ingest position bytes).byte? q).isSome = true := by
  rw [byte?_ingest hs hw, if_pos ⟨hlo, hhi⟩, List.getElem?_eq_getElem (by omega)]
  rfl

/-- A byte that was cached stays cached, even if the chunk overwrites it. -/
theorem isSome_byte?_ingest {q : Nat} (h : (c.byte? q).isSome = true) :
    ((c.ingest position bytes).byte? q).isSome = true := by
  by_cases hin : position ≤ q ∧ q < position + bytes.length
  · exact isSome_byte?_ingest_new hs hw bytes hin.1 hin.2
  · rw [byte?_ingest hs hw, if_neg hin]
    exact h

end

end ReadAhead.Cache
