/-
A chunk may be cut anywhere. To store it is to store its bytes one at a time, and so it is
to store its parts, whatever blocks the cuts fall into: not only are the same bytes cached
then, the caches are equal, down to the links of the recency chain.

Two things carry this. A block that is asked for again before any other block was is still
the most recent one, so that asking changes nothing; and two writes, the second one where
the first ends, are one write. Everything else is the question whether a cut falls inside a
block or between two.
-/
import ReadAhead.Proofs.Cache.Course
import ReadAhead.Proofs.Cache.Placement

set_option autoImplicit false

namespace ReadAhead

/-! ## One block -/

/-- What lies past the capacity is not looked at. -/
theorem Block.write_take (b : Block) (offset : Nat) (bytes : Bytes) :
    b.write offset (bytes.take (b.capacity - offset)) = b.write offset bytes := by
  rw [write, write, List.take_take, Nat.min_self]

/-- **Two writes, the second one where the first ends, are one.** -/
theorem Block.write_append {b : Block} {offset : Nat} {bytes : Bytes} (more : Bytes)
    (hoffset : offset ≤ b.filled) (hfits : offset + bytes.length ≤ b.capacity) :
    (b.write offset (bytes ++ more)).2 =
      ((b.write offset bytes).2.write (offset + bytes.length) more).2 := by
  by_cases hfull : b.capacity ≤ offset
  · -- At the end of the block there is nothing that fits.
    have hend : b.capacity ≤ offset + bytes.length := Nat.le_add_right_of_le hfull
    simp only [write, if_pos hfull, if_pos hend]
  · have htake : bytes.take (b.capacity - offset) = bytes := List.take_of_length_le (by omega)
    have hsplit : (bytes ++ more).take (b.capacity - offset) =
        bytes ++ more.take (b.capacity - (offset + bytes.length)) := by
      rw [List.take_append, htake, Nat.sub_sub]
    simp only [write, if_neg hfull, htake, hsplit]
    by_cases hend : b.capacity ≤ offset + bytes.length
    · rw [if_pos hend, Nat.sub_eq_zero_of_le hend, List.take_zero, List.append_nil]
    · rw [if_neg hend, Bytes.overlay_overlay_add _ _ _ _ hoffset]

theorem Block.amend_amend (b : Block) (writes more : List (Nat × Bytes)) :
    (b.amend writes).amend more = b.amend (writes ++ more) := by
  rw [amend, amend, amend, List.foldl_append]

/-- What was set first does not matter. -/
theorem Table.put_put {α : Type} (t : Table α) (id : Nat) (first second : α) :
    (t.put id first).put id second = t.put id second := by
  apply Table.ext_get?
  intro j
  rw [Table.get?_put, Table.get?_put, Table.get?_put]
  by_cases hj : j = id <;> simp [hj]

namespace Cache

/-- **The most recent block stays the most recent one** when it is asked for again, so that
the cache is the same. -/
theorem Tracked.ensure_last {c : Cache} {ids : List BlockId} {id : BlockId}
    (h : c.Tracked (ids ++ [id])) : c.ensure id = c := by
  have hfresh : id ∉ ids := fun hin =>
    (List.nodup_append.1 h.distinct).2.2 id hin id (List.mem_singleton_self id) rfl
  have hids : (ids ++ [id]).filter (· ≠ id) ++ [id] = ids ++ [id] := by
    rw [List.filter_append, filter_ne_self hfresh]
    simp
  have hagain := h.ensure id
  rw [hids] at hagain
  have hrecency : (c.ensure id).recency = c.recency := hagain.chain.ext h.chain
  have hblocks : (c.ensure id).blocks = c.blocks :=
    if_pos ((h.mem_iff id).1 (List.mem_append_right ids (List.mem_singleton_self id)))
  show { c with recency := (c.ensure id).recency, blocks := (c.ensure id).blocks } = c
  rw [hrecency, hblocks]

/-- **To ask for a block twice in a row** is to ask for it once. -/
theorem amend_amend {c : Cache} (h : c.Coherent) (id : BlockId)
    (writes more : List (Nat × Bytes)) :
    (c.amend id writes).amend id more = c.amend id (writes ++ more) := by
  obtain ⟨ids, h⟩ := h
  have hagain : (c.amend id writes).ensure id = c.amend id writes :=
    (h.amend id writes).ensure_last
  have hblock : (c.amend id writes).block? id =
      some ((((c.ensure id).block? id).getD (.empty c.geometry.size)).amend writes) := by
    rw [block?_amend, if_pos rfl, block?_ensure, if_pos rfl]
    rfl
  rw [amend, hagain, hblock, Option.getD_some, Block.amend_amend]
  exact congrArg (fun blocks => { c.ensure id with blocks }) (Table.put_put _ _ _ _)

/-- **Two writes to a block, the second one where the first ends**, are one. -/
theorem write_append {c : Cache} (hc : c.Coherent) (hs : c.Sized) {id offset : Nat}
    {bytes : Bytes} (more : Bytes) (hoffset : offset ≤ c.filledAt id)
    (hfits : offset + bytes.length ≤ c.geometry.size) :
    (c.write id offset (bytes ++ more)).2 =
      ((c.write id offset bytes).2.write id (offset + bytes.length) more).2 := by
  obtain ⟨hcapacity, -⟩ := hs.getD id
  rw [← filled_getD] at hoffset
  rw [← hcapacity] at hfits
  rw [snd_write_eq_amend, snd_write_eq_amend, snd_write_eq_amend, amend_amend hc, amend, amend,
    block?_ensure, if_pos rfl, Option.getD_some]
  simp only [Block.amend, List.foldl_cons, List.foldl_nil, List.cons_append, List.nil_append]
  rw [Block.write_append more hoffset hfits]

/-! ## A chunk -/

section

variable {c : Cache} {position : Nat} (hs : c.Sized) (hw : c.Writable position)
include hs hw

/-- **A chunk is stored by its first round and what is left then.** -/
theorem ingest_eq_round {bytes : Bytes} (h : bytes ≠ []) :
    c.ingest position bytes =
      (c.write (c.geometry.blockOf position) (c.geometry.offsetOf position) bytes).2.ingest
        (position + min bytes.length (c.geometry.size - c.geometry.offsetOf position))
        (bytes.drop (min bytes.length (c.geometry.size - c.geometry.offsetOf position))) := by
  have hready : Ingestion.Ready ⟨c, position, bytes⟩ := ⟨hs, hw⟩
  have hround := Ingestion.round_of_ne_nil (i := ⟨c, position, bytes⟩) h hs
  have hless := Ingestion.length_left_round_lt (i := ⟨c, position, bytes⟩) hs h
  have hnext := Ingestion.ready_round hready
  rw [hround] at hnext hless
  obtain ⟨n, hn⟩ : ∃ n, bytes.length = n + 1 :=
    Nat.exists_eq_succ_of_ne_zero (mt List.eq_nil_of_length_eq_zero h)
  have hrounds : c.ingest position bytes =
      (Ingestion.rounds n (Ingestion.round ⟨c, position, bytes⟩)).cache := by
    rw [ingest, hn, Ingestion.rounds]
  rw [hn] at hless
  rw [hrounds, hround, Ingestion.rounds_of_length_le hnext (Nat.lt_succ_iff.1 hless)]
  rfl

/-- **A byte of its own.** Whether the cut behind it falls inside a block or between two, the
cache is the same. -/
theorem ingest_cons (hc : c.Coherent) (first : UInt8) (rest : Bytes) :
    c.ingest position (first :: rest) = (c.ingest position [first]).ingest (position + 1) rest := by
  have hlt := c.geometry.offsetOf_lt position
  have hsingle : c.ingest position [first] =
      (c.write (c.geometry.blockOf position) (c.geometry.offsetOf position) [first]).2 := by
    rw [ingest_eq_round hs hw (List.cons_ne_nil first []), List.length_singleton,
      Nat.min_eq_left (by omega), List.drop_one, List.tail_cons, ingest_nil]
  by_cases hrest : rest = []
  · rw [hrest, ingest_nil]
  rw [ingest_eq_round hs hw (List.cons_ne_nil first rest), List.length_cons]
  by_cases hinside : c.geometry.offsetOf position + 1 < c.geometry.size
  · -- The next byte goes to the same block, right behind this one.
    have hsingleton : c.geometry.offsetOf position + [first].length ≤ c.geometry.size :=
      Nat.le_of_lt hinside
    have hnext := ingest_eq_round (hs.ingest hw [first]) (writable_ingest hs hw [first]) hrest
    rw [List.length_singleton, geometry_ingest, c.geometry.blockOf_add position 1 hinside,
      c.geometry.offsetOf_add position 1 hinside, hsingle] at hnext
    have hmin : min (rest.length + 1) (c.geometry.size - c.geometry.offsetOf position) =
        min rest.length (c.geometry.size - (c.geometry.offsetOf position + 1)) + 1 := by omega
    rw [hsingle, hnext, hmin, List.drop_succ_cons, ← List.singleton_append,
      write_append hc hs rest hw hsingleton, List.length_singleton, Nat.add_assoc,
      Nat.add_comm 1]
  · -- This was the last byte of its block.
    have hone : c.geometry.size - c.geometry.offsetOf position = 1 := by omega
    have hcapacity := (hs.getD (c.geometry.blockOf position)).1
    have hcut : (c.write (c.geometry.blockOf position) (c.geometry.offsetOf position)
        (first :: rest)).2 =
        (c.write (c.geometry.blockOf position) (c.geometry.offsetOf position) [first]).2 := by
      rw [write, write]
      dsimp only
      rw [block?_ensure, if_pos rfl, Option.getD_some, ← Block.write_take, hcapacity, hone]
      rfl
    rw [hcut, hone, Nat.min_eq_right (by omega), List.drop_succ_cons, List.drop_zero, hsingle]

/-- **A chunk may be cut in two anywhere.** The induction is on the first part. -/
theorem ingest_append (hc : c.Coherent) (bytes more : Bytes) :
    c.ingest position (bytes ++ more) =
      (c.ingest position bytes).ingest (position + bytes.length) more := by
  induction bytes generalizing c position with
  | nil => rfl
  | cons first rest ih =>
    have hone := ih (hs.ingest hw [first]) (writable_ingest hs hw [first])
      (hc.ingest position [first])
    rw [List.length_singleton] at hone
    rw [List.cons_append, ingest_cons hs hw hc, hone, ← ingest_cons hs hw hc, List.length_cons,
      Nat.add_assoc, Nat.add_comm 1]

end

/-! ## Memory -/

/-- **A cache with more blocks is charged for more.** -/
theorem Coherent.memory_mono {c c' : Cache} (h : c.Coherent) (h' : c'.Coherent)
    (hgeometry : c'.geometry = c.geometry)
    (hsub : ∀ id, c.contains id = true → c'.contains id = true) : c.memory ≤ c'.memory := by
  have hmemory := h'.memory
  obtain ⟨ids, h'⟩ := h'
  have hle := h.memory_le fun id hid => (h'.mem_iff id).2 (hsub id hid)
  rw [hmemory, h'.count, hgeometry, Nat.mul_comm]
  exact hle

/-- Storing a chunk frees no memory. -/
theorem memory_le_ingest {c : Cache} (hc : c.Coherent) (hs : c.Sized) {position : Nat}
    (hw : c.Writable position) (bytes : Bytes) : c.memory ≤ (c.ingest position bytes).memory := by
  apply hc.memory_mono (hc.ingest position bytes) (geometry_ingest c position bytes)
  intro id hid
  exact (contains_ingest hs hw bytes id).2 (.inl hid)

end Cache

end ReadAhead
