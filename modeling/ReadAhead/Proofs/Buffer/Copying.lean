/-
How much is copied out of a buffer, and that the indices of the copying are in bounds.

`fill` says what is copied as a whole. A loop that copies block by block has more to get
wrong: it subtracts one length from another, slices a block and the destination, and copies
between slices that have to be equally long. `Copying` is that loop with every such step
checked, so that a step out of bounds makes it fail; and it does not fail, and leaves what
`fill` says.
-/
import ReadAhead.Proofs.Buffer.Step
import ReadAhead.Proofs.Buffer.Fill
import ReadAhead.Proofs.Cache.Extent

set_option autoImplicit false

namespace ReadAhead

/-! ## Checked steps -/

namespace Bytes

/-- The bytes from `first` to before `last`, if these are indices in order and in bounds. -/
def slice? (bytes : Bytes) (first last : Nat) : Option Bytes :=
  if first ≤ last ∧ last ≤ bytes.length then some ((bytes.drop first).take (last - first)) else none

/-- Overwrites the bytes from `first` to before `last`, if these are indices in order and in
bounds, and there are as many new bytes. -/
def replace? (bytes : Bytes) (first last : Nat) (new : Bytes) : Option Bytes :=
  if first ≤ last ∧ last ≤ bytes.length ∧ new.length = last - first then
    some (bytes.overlay first new)
  else none

end Bytes

/-- A difference, if it is not below zero. -/
def difference? (a b : Nat) : Option Nat := if b ≤ a then some (a - b) else none

theorem difference?_of_le {a b : Nat} (h : b ≤ a) : difference? a b = some (a - b) := if_pos h

/-- A copy under way: the destination, how much of it is written, where the next bytes come
from, and the block they should be in. -/
structure Copying where
  destination : Bytes
  written : Nat
  position : Nat
  expected : BlockId
  deriving DecidableEq, Repr

namespace Copying

/-- Copies what one block has to give. -/
def copyBlock? (g : Geometry) (id : BlockId) (block : Block) (s : Copying) : Option Copying := do
  let offset ← difference? s.position (g.startOf id)
  let available ← difference? block.filled offset
  let room ← difference? s.destination.length s.written
  let count := min available room
  let chunk ← block.data.slice? offset (offset + count)
  let destination ← s.destination.replace? s.written (s.written + count) chunk
  return { s with destination, written := s.written + count, position := s.position + count }

/-- Copies from blocks as long as they go on without a gap and there is room. -/
def loop? (g : Geometry) : List (BlockId × Block) → Copying → Option Copying
  | [], s => some s
  | (id, block) :: rest, s =>
    if id ≠ s.expected ∨ s.written = s.destination.length then some s
    else if g.startOf id + block.filled ≤ s.position then some s
    else (s.copyBlock? g id block).bind fun s =>
      if block.isFull then loop? g rest { s with expected := s.expected + 1 } else some s

end Copying

/-- `fill`, block by block and with every step checked. -/
def Buffer.fillByBlocks? (b : Buffer) (position : Nat) (destination : Bytes) :
    Option (Option Nat × Bytes) :=
  if destination = [] then some (none, destination)
  else match b.cache.floor? (b.cache.geometry.blockOf position) with
    | none => some (none, destination)
    | some (id, block) =>
      let s : Copying := { destination, written := 0, position, expected := id }
      (s.loop? b.cache.geometry ((id, block) :: b.cache.above id)).map fun s =>
        (if 0 < s.written then some s.written else none, s.destination)

namespace Copying

variable {s : Copying} {c : Cache} {id : BlockId} {block : Block}

/-! ## Chunks -/

/-- A copy that has gone on by a chunk. -/
def copied (s : Copying) (chunk : Bytes) : Copying :=
  { s with
    destination := s.destination.overlay s.written chunk
    written := s.written + chunk.length
    position := s.position + chunk.length }

@[simp] theorem written_copied (s : Copying) (chunk : Bytes) :
    (s.copied chunk).written = s.written + chunk.length := rfl

@[simp] theorem position_copied (s : Copying) (chunk : Bytes) :
    (s.copied chunk).position = s.position + chunk.length := rfl

@[simp] theorem expected_copied (s : Copying) (chunk : Bytes) :
    (s.copied chunk).expected = s.expected := rfl

/-- What a copy has come to. -/
def outcome (s : Copying) : Nat × Bytes := (s.written, s.destination)

theorem outcome_copied_nil (s : Copying) : (s.copied []).outcome = s.outcome := by
  rw [copied, outcome, Bytes.overlay_nil]
  rfl

/-- **Chunk after chunk is copied as one.** -/
theorem outcome_copied_copied (hroom : s.written ≤ s.destination.length) (chunk more : Bytes)
    (next : BlockId) :
    (copied { s.copied chunk with expected := next } more).outcome =
      (s.copied (chunk ++ more)).outcome := by
  simp only [copied, outcome]
  rw [Bytes.overlay_overlay_add _ _ _ _ hroom, List.length_append, Nat.add_assoc]

theorem length_destination_copied {chunk : Bytes}
    (hfits : s.written + chunk.length ≤ s.destination.length) :
    (s.copied chunk).destination.length = s.destination.length := by
  rw [copied]
  dsimp only
  rw [Bytes.length_overlay _ _ _ (by omega)]
  omega

/-! ## One block -/

/-- What a block has to give to a copy. -/
def share (g : Geometry) (id : BlockId) (block : Block) (s : Copying) : Bytes :=
  (block.data.drop (s.position - g.startOf id)).take (s.destination.length - s.written)

theorem length_share (g : Geometry) (id : BlockId) (block : Block) (s : Copying) :
    (s.share g id block).length =
      min (s.destination.length - s.written) (block.filled - (s.position - g.startOf id)) := by
  rw [share, List.length_take, List.length_drop, Block.filled]

/-- **Within a block nothing is out of bounds**, if the position lies in its filled part. -/
theorem copyBlock?_eq (g : Geometry) (hroom : s.written ≤ s.destination.length)
    (hlo : g.startOf id ≤ s.position) (hhi : s.position < g.startOf id + block.filled) :
    s.copyBlock? g id block = some (s.copied (s.share g id block)) := by
  have hoff : s.position - g.startOf id < block.filled := by omega
  have hlen := s.length_share g id block
  have hcount : min (block.filled - (s.position - g.startOf id))
      (s.destination.length - s.written) = (s.share g id block).length := by
    rw [hlen, Nat.min_comm]
  have hslice : block.data.slice? (s.position - g.startOf id)
      (s.position - g.startOf id + (s.share g id block).length) = some (s.share g id block) := by
    have hbound : s.position - g.startOf id + (s.share g id block).length ≤ block.data.length := by
      show _ ≤ block.filled
      omega
    rw [Bytes.slice?, if_pos ⟨Nat.le_add_right _ _, hbound⟩, Nat.add_sub_cancel_left]
    -- The share is the front of what the block holds from the position on.
    exact congrArg some (List.prefix_iff_eq_take.1 (List.take_prefix _ _)).symm
  have hreplace : s.destination.replace? s.written (s.written + (s.share g id block).length)
      (s.share g id block) = some (s.destination.overlay s.written (s.share g id block)) :=
    if_pos ⟨Nat.le_add_right _ _, by omega, by omega⟩
  rw [copyBlock?, difference?_of_le hlo]
  simp only [Option.bind_eq_bind, Option.bind_some]
  rw [difference?_of_le (Nat.le_of_lt hoff), difference?_of_le hroom]
  simp only [Option.bind_some]
  rw [hcount, hslice, Option.bind_some, hreplace, Option.bind_some]
  rfl

/-! ## All blocks -/

/-- What is still to be copied from the blocks ahead. -/
def ahead (g : Geometry) (entries : List (BlockId × Block)) (s : Copying) : Bytes :=
  Cache.collect g entries s.expected s.position (s.destination.length - s.written)

/-- **The loop copies what is ahead**, and nothing in it is out of bounds. The invariant is
that no more is written than there is room for, and that the position is not before the
expected block unless the room is used up. -/
theorem loop?_eq (hs : c.Sized) (entries : List (BlockId × Block))
    (hmem : ∀ entry ∈ entries, c.block? entry.1 = some entry.2)
    (hroom : s.written ≤ s.destination.length)
    (hpos : s.written = s.destination.length ∨ c.geometry.startOf s.expected ≤ s.position) :
    (s.loop? c.geometry entries).map outcome =
      some (s.copied (s.ahead c.geometry entries)).outcome := by
  induction entries generalizing s with
  | nil => exact congrArg some s.outcome_copied_nil.symm
  | cons entry rest ih =>
    obtain ⟨id, block⟩ := entry
    have hb : c.block? id = some block := hmem _ List.mem_cons_self
    rw [loop?]
    by_cases hgap : id ≠ s.expected ∨ s.written = s.destination.length
    · have hnil : s.ahead c.geometry ((id, block) :: rest) = [] := by
        refine Cache.collect_of_stop (hgap.imp_right fun hfull => .inl ?_)
        omega
      rw [if_pos hgap, hnil, outcome_copied_nil]
      rfl
    rw [if_neg hgap]
    by_cases hreach : c.geometry.startOf id + block.filled ≤ s.position
    · have hnil : s.ahead c.geometry ((id, block) :: rest) = [] :=
        Cache.collect_of_stop (.inr (.inr hreach))
      rw [if_pos hreach, hnil, outcome_copied_nil]
      rfl
    rw [if_neg hreach]
    obtain ⟨hid, hmore⟩ : id = s.expected ∧ s.written ≠ s.destination.length := by
      simpa using hgap
    have hlo : c.geometry.startOf id ≤ s.position := hid ▸ hpos.resolve_left hmore
    have hwant : s.destination.length - s.written ≠ 0 := by omega
    have hlen := s.length_share c.geometry id block
    rw [copyBlock?_eq c.geometry hroom hlo (Nat.not_le.1 hreach), Option.bind_some, ahead,
      Cache.collect_of_reach hid hwant (Nat.not_le.1 hreach), ← share]
    by_cases hfull : block.isFull = true
    · rw [if_pos hfull, if_pos hfull]
      have hsize := hs.filled_of_isFull hb hfull
      have hsame : (s.copied (s.share c.geometry id block)).destination.length =
          s.destination.length := length_destination_copied (by omega)
      have hnext := c.geometry.startOf_succ id
      rw [ih (fun entry hin => hmem entry (List.mem_cons_of_mem _ hin)),
        outcome_copied_copied hroom, ahead]
      · simp only [hsame, written_copied, position_copied, expected_copied, Nat.sub_add_eq]
      · simp only [hsame, written_copied]
        omega
      · simp only [hsame, written_copied, position_copied, expected_copied]
        rw [← hid, hnext]
        omega
    · rw [if_neg hfull, if_neg hfull, List.append_nil]
      rfl

end Copying

namespace Buffer

variable {b : Buffer} {p : Nat} {destination : Bytes}

/-- **Copying block by block does what copying as a whole does**, and no step of it is out
of bounds. -/
theorem fillByBlocks?_eq (hs : b.cache.Sized) (p : Nat) (destination : Bytes) :
    b.fillByBlocks? p destination = some (b.fill p destination) := by
  rw [fillByBlocks?, fill]
  by_cases hempty : destination = []
  · have hnil : b.cache.read p destination.length = [] := by
      apply List.eq_nil_of_length_eq_zero
      have hle := b.cache.length_read_le p destination.length
      rw [hempty, List.length_nil] at hle ⊢
      omega
    rw [if_pos hempty, hnil]
  rw [if_neg hempty, Cache.read]
  cases hfloor : b.cache.floor? (b.cache.geometry.blockOf p) with
  | none => rfl
  | some found =>
    obtain ⟨id, block⟩ := found
    obtain ⟨hget, hle⟩ := Table.get?_of_floor? hfloor
    dsimp only
    have hmem : ∀ entry ∈ (id, block) :: b.cache.above id, b.cache.block? entry.1 = some entry.2 :=
      fun entry hin => ((Cache.lists_above hget).mem_iff _ _).1 hin |>.1
    have hloop := Copying.loop?_eq hs ((id, block) :: b.cache.above id) hmem
      (s := ⟨destination, 0, p, id⟩) (Nat.zero_le _)
      (.inr ((b.cache.geometry.startOf_le_iff id p).2 hle))
    obtain ⟨s, hs, houtcome⟩ := Option.map_eq_some_iff.1 hloop
    obtain ⟨hwritten, hdestination⟩ := Prod.mk.inj houtcome
    rw [hs, Option.map_some, hwritten, hdestination]
    show some (if 0 < 0 + (Cache.collect _ _ _ _ _).length then _ else _, _) = _
    rw [Copying.ahead]
    dsimp only
    rw [Nat.sub_zero]
    cases Cache.collect b.cache.geometry ((id, block) :: b.cache.above id) id p
        destination.length with
    | nil => simp [Copying.copied]
    | cons first more => simp [Copying.copied, Bytes.overlay]

end Buffer

end ReadAhead
