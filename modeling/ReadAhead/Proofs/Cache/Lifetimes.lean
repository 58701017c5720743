/-
What a block holds, and why nothing else of the cache knows better. A block comes and goes:
whoever asks for it makes it, and it is removed, evicted, or cleared away with all the
others. What it holds is owed to the writes since it was made last, and to them alone.

A write is an overlay that is cut at the capacity, as long as it leaves no gap; so what
writes make of a block is a fold over strings, in which blocks do not occur. `Gapless` says
of a run that none of its writes leaves a gap, and `Lives` of a part of it that it is all
that happened since a block was made. The table of blocks, its order and the recency chain
come from the modules below; the last theorem puts them together.
-/
import ReadAhead.Proofs.Cache.Course
import ReadAhead.Proofs.Cache.Tracker

set_option autoImplicit false

namespace ReadAhead

/-! ## Writes to strings -/

/-- A string with a write laid over it, as far as there is room. -/
def Bytes.layWithin (room : Nat) (old : Bytes) (write : Nat × Bytes) : Bytes :=
  (old.overlay write.1 write.2).take room

/-- What writes make of the empty string, one after another. -/
def Bytes.written (room : Nat) (writes : List (Nat × Bytes)) : Bytes :=
  writes.foldl (layWithin room) []

namespace Block

/-- No write goes beyond what is filled by then. -/
def Gapless (b : Block) : List (Nat × Bytes) → Prop
  | [] => True
  | write :: rest => write.1 ≤ b.filled ∧ (b.write write.1 write.2).2.Gapless rest

instance decidableGapless (b : Block) : (writes : List (Nat × Bytes)) → Decidable (b.Gapless writes)
  | [] => isTrue trivial
  | write :: rest =>
    have := decidableGapless (b.write write.1 write.2).2 rest
    inferInstanceAs (Decidable (_ ∧ _))

/-- How many bytes each write takes, one after another. -/
def taken (b : Block) : List (Nat × Bytes) → List Nat
  | [] => []
  | write :: rest => (b.write write.1 write.2).1 :: (b.write write.1 write.2).2.taken rest

/-- Each write takes what fits between its offset and the capacity. -/
theorem taken_eq (b : Block) (writes : List (Nat × Bytes)) :
    b.taken writes = writes.map fun write => min write.2.length (b.capacity - write.1) := by
  induction writes generalizing b with
  | nil => rfl
  | cons write rest ih => rw [taken, ih, capacity_write, fst_write, List.map_cons]

/-- **A write that leaves no gap is an overlay**, cut at the capacity. -/
theorem data_write {b : Block} (hfits : b.filled ≤ b.capacity) {offset : Nat}
    (hoffset : offset ≤ b.filled) (bytes : Bytes) :
    (b.write offset bytes).2.data = b.data.layWithin b.capacity (offset, bytes) := by
  rw [filled] at hfits hoffset
  rw [Bytes.layWithin, write]
  split
  · next hfull =>
    -- The block is full, and the write begins behind it.
    have hend : offset = b.data.length := by omega
    rw [hend, Bytes.overlay_length_self, List.take_left' (by omega)]
  · next hroom =>
    dsimp only
    have hlength : (b.data.take offset).length = offset := List.length_take_of_le hoffset
    have hfront : (b.data.take offset).take b.capacity = b.data.take offset :=
      List.take_of_length_le (by omega)
    -- Behind the write there is room for what is left, or nothing is left.
    have hback : (b.data.drop (offset + bytes.length)).take (b.capacity - (offset + bytes.length)) =
        b.data.drop (offset + (bytes.take (b.capacity - offset)).length) := by
      rw [List.take_of_length_le (by rw [List.length_drop]; omega), List.length_take]
      rcases Nat.le_total bytes.length (b.capacity - offset) with hshort | hlong
      · rw [Nat.min_eq_right hshort]
      · rw [List.drop_of_length_le (by omega), List.drop_of_length_le (by omega)]
    rw [Bytes.overlay, Bytes.overlay, List.append_assoc, List.append_assoc, List.take_append,
      hlength, hfront, List.take_append, Nat.sub_sub, hback]

/-- **What writes make of a block** is what they make of its string. -/
theorem data_amend {b : Block} (hfits : b.filled ≤ b.capacity) {writes : List (Nat × Bytes)}
    (gapless : b.Gapless writes) :
    (b.amend writes).data = writes.foldl (Bytes.layWithin b.capacity) b.data := by
  induction writes generalizing b with
  | nil => rfl
  | cons write rest ih =>
    obtain ⟨hoffset, hrest⟩ := gapless
    obtain ⟨hcapacity, hfilled⟩ := Cache.filled_amend_le hfits [write]
    have hnext := ih (Nat.le_trans hfilled (Nat.le_of_eq hcapacity.symm)) hrest
    rw [List.foldl_cons, ← data_write hfits hoffset, ← b.capacity_write write.1 write.2]
    exact hnext

end Block

/-- **An id cuts the entries in two**, those up to it and those above it. -/
theorem Table.entries_eq_append {α : Type} (t : Table α) (id : Nat) :
    t.entries = t.entries.filter (·.1 ≤ id) ++ t.above id := by
  have hcut : ∀ entries : List (Nat × α), entries.Pairwise (fun a b => a.1 < b.1) →
      entries = entries.filter (·.1 ≤ id) ++ entries.filter (id < ·.1) := by
    intro entries hascending
    induction hascending with
    | nil => rfl
    | @cons entry rest hfirst _ ih =>
      by_cases hle : entry.1 ≤ id
      · rw [List.filter_cons_of_pos (by simpa using hle),
          List.filter_cons_of_neg (by simpa using hle), List.cons_append, ← ih]
      · -- All that follow are above the first one, and so above the id.
        have habove : ∀ other ∈ entry :: rest, id < other.1 := by
          intro other hother
          rcases List.mem_cons.1 hother with rfl | hrest
          · omega
          · have := hfirst other hrest
            omega
        rw [List.filter_eq_nil_iff.2 fun other hother => by have := habove other hother; simpa,
          List.filter_eq_self.2 fun other hother => by simpa using habove other hother,
          List.nil_append]
  exact hcut t.entries t.pairwise_entries

namespace Cache

/-! ## One edit -/

/-- The block that asking for it gives: the one that is there, or a new one. -/
def obtained (c : Cache) (id : BlockId) : Block := (c.block? id).getD (.empty c.geometry.size)

/-- What an edit writes to a block. -/
def Edit.writesTo (id : BlockId) : Edit → List (Nat × Bytes)
  | .amend other writes => if other = id then writes else []
  | .erase _ | .evict _ | .clear => []

/-- The writes of an edit leave no gap in the block that they go to. -/
def Edit.Gapless (c : Cache) : Edit → Prop
  | .amend id writes => (c.obtained id).Gapless writes
  | .erase _ | .evict _ | .clear => True

instance Edit.decidableGapless (c : Cache) : (e : Edit) → Decidable (e.Gapless c)
  | .amend id writes => inferInstanceAs (Decidable ((c.obtained id).Gapless writes))
  | .erase _ | .evict _ | .clear => isTrue trivial

theorem Edit.Gapless.writesTo {c : Cache} {e : Edit} (h : e.Gapless c) (id : BlockId) :
    (c.obtained id).Gapless (e.writesTo id) := by
  cases e with
  | amend other writes =>
    rw [Edit.writesTo]
    split
    · next heq => exact heq ▸ h
    · exact trivial
  | erase | evict | clear => exact trivial

theorem obtained_of_block? {c : Cache} {id : BlockId} {block : Block}
    (h : c.block? id = some block) : c.obtained id = block := by
  rw [obtained, h, Option.getD_some]

/-- The block that asking gives has the capacity of the cache, and no more in it. -/
theorem Sized.obtained {c : Cache} (hs : c.Sized) (id : BlockId) :
    (c.obtained id).capacity = c.geometry.size ∧
      (c.obtained id).filled ≤ (c.obtained id).capacity := by
  obtain ⟨hcapacity, hfilled⟩ := hs.getD id
  exact ⟨hcapacity, Nat.le_trans hfilled (Nat.le_of_eq hcapacity.symm)⟩

/-- **A block that is there after an edit** is what the edit's writes made of the block that
was there, or of a new one. -/
theorem block_edit {c : Cache} {e : Edit} {id : BlockId} {block : Block}
    (h : (c.edit e).block? id = some block) :
    block = (c.obtained id).amend (e.writesTo id) := by
  -- An edit that takes blocks away leaves the others as they are.
  have hkept : c.block? id = some block → block = (c.obtained id).amend [] := fun hblock =>
    (obtained_of_block? hblock).symm
  cases e with
  | amend other writes =>
    change (c.amend other writes).block? id = some block at h
    rw [block?_amend] at h
    by_cases heq : id = other
    · rw [if_pos heq] at h
      rw [Edit.writesTo, if_pos heq.symm, heq]
      exact (Option.some.inj h).symm
    · rw [if_neg heq] at h
      rw [Edit.writesTo, if_neg (Ne.symm heq)]
      exact hkept h
  | erase other =>
    change (c.erase other).block? id = some block at h
    rw [block?_erase] at h
    split at h
    · exact absurd h nofun
    · exact hkept h
  | evict pinned => exact hkept (block?_of_evict h)
  | clear => exact absurd ((c.block?_clear id).symm.trans h) nofun

/-! ## Every run -/

/-- No write of the run leaves a gap. -/
def Gapless (c : Cache) : List Edit → Prop
  | [] => True
  | e :: rest => e.Gapless c ∧ (c.edit e).Gapless rest

instance decidableGapless (c : Cache) : (edits : List Edit) → Decidable (c.Gapless edits)
  | [] => isTrue trivial
  | e :: rest =>
    have := decidableGapless (c.edit e) rest
    inferInstanceAs (Decidable (_ ∧ _))

theorem gapless_concat {c : Cache} {edits : List Edit} {e : Edit} :
    c.Gapless (edits ++ [e]) ↔ c.Gapless edits ∧ e.Gapless (c.after edits) := by
  induction edits generalizing c with
  | nil => exact ⟨fun h => ⟨trivial, h.1⟩, fun h => ⟨h.2, trivial⟩⟩
  | cons first rest ih =>
    rw [List.cons_append, Gapless, Gapless, ih, and_assoc]
    rfl

theorem geometry_after (c : Cache) (edits : List Edit) : (c.after edits).geometry = c.geometry := by
  refine after_induction (P := fun c' => c'.geometry = c.geometry) (fun c' e h => ?_) rfl edits
  cases e with
  | evict pinned => exact (geometry_evict c' pinned).trans h
  | amend | erase | clear => exact h

/-- A block lives since `before`: it was not there by then, it is there after whatever came
next, and it never went. -/
structure Lives (c : Cache) (id : BlockId) (before life : List Edit) : Prop where
  absent : (c.after before).contains id = false
  present : ∀ seen, seen <+: life → seen ≠ [] → (c.after (before ++ seen)).contains id = true

theorem Lives.concat {c : Cache} {id : BlockId} {before life : List Edit} {e : Edit}
    (h : c.Lives id before life) (hlast : (c.after (before ++ life ++ [e])).contains id = true) :
    c.Lives id before (life ++ [e]) where
  absent := h.absent
  present seen hseen hne := by
    rcases List.prefix_concat_iff.1 hseen with rfl | hearlier
    · rwa [← List.append_assoc]
    · exact h.present seen hearlier hne

theorem lives_singleton {c : Cache} {id : BlockId} {before : List Edit} {e : Edit}
    (habsent : (c.after before).contains id = false)
    (hlast : (c.after (before ++ [e])).contains id = true) : c.Lives id before [e] where
  absent := habsent
  present seen hseen hne := by
    have hseen : seen <+: [] ++ [e] := hseen
    rcases List.prefix_concat_iff.1 hseen with rfl | hearlier
    · exact hlast
    · exact absurd (List.prefix_nil.1 hearlier) hne

/-- **A block holds what was written to it since it was made last.** The induction is on the
run from its end: the last edit goes on with a life, or begins one. -/
theorem exists_life {c : Cache} (hempty : ∀ id, c.block? id = none) (edits : List Edit)
    (gapless : c.Gapless edits) {id : BlockId} {block : Block}
    (hblock : (c.after edits).block? id = some block) :
    ∃ before life, edits = before ++ life ∧ c.Lives id before life ∧
      block.data = Bytes.written c.geometry.size (life.flatMap (Edit.writesTo id)) := by
  have hsized : c.Sized := fun id block h => absurd ((hempty id).symm.trans h) nofun
  induction edits using List.reverseRecOn generalizing block with
  | nil => exact absurd ((hempty id).symm.trans hblock) nofun
  | append_singleton edits e ih =>
    obtain ⟨hearlier, hlast⟩ := gapless_concat.1 gapless
    have hthere : (c.after (edits ++ [e])).contains id = true := contains_iff.2 ⟨block, hblock⟩
    rw [after_concat] at hblock
    obtain ⟨hcapacity, hfits⟩ := (sized_after hsized edits).obtained id
    have hdata : block.data = (e.writesTo id).foldl (Bytes.layWithin c.geometry.size)
        ((c.after edits).obtained id).data := by
      rw [block_edit hblock, Block.data_amend hfits (hlast.writesTo id), hcapacity, geometry_after]
    cases hold : (c.after edits).block? id with
    | some old =>
      obtain ⟨before, life, rfl, hlives, holddata⟩ := ih hearlier hold
      refine ⟨before, life ++ [e], List.append_assoc _ _ _, hlives.concat hthere, ?_⟩
      rw [hdata, obtained_of_block? hold, holddata, Bytes.written, Bytes.written,
        List.flatMap_append, List.foldl_append, List.flatMap_singleton]
    | none =>
      have habsent : (c.after edits).contains id = false := by
        rw [contains, hold]
        rfl
      refine ⟨edits, [e], rfl, lives_singleton habsent hthere, ?_⟩
      rw [hdata, obtained, hold, List.flatMap_singleton]
      rfl

/-- **A store of blocks is coherent.** Take a new cache through any run in which no write
leaves a gap. The recency chain has the ids of the cached blocks and no others, and the
memory in use is the block size for each of them. Every block has the capacity of the cache
and no more in it, and holds what was written to it since it was made last. A write takes
what fits between its offset and the capacity, and it changes no other block. The ids
ascend, and every id cuts the blocks in two: the floor is the last one up to it, and what
is above it are all the others. -/
theorem store_coherent {label : String} {shift budget : Nat} {new : Cache}
    (hnew : Cache.new label shift budget = .ok new) (edits : List Edit)
    (gapless : new.Gapless edits) :
    let c := new.after edits
    (∀ id, c.recency.contains id = true ↔ id ∈ c.ids) ∧
      c.memory = 2 ^ shift * c.ids.length ∧
      (∀ id block, c.block? id = some block →
        block.capacity = 2 ^ shift ∧ block.filled ≤ 2 ^ shift ∧
        ∃ before life, edits = before ++ life ∧ new.Lives id before life ∧
          block.data = Bytes.written (2 ^ shift) (life.flatMap (Edit.writesTo id))) ∧
      (∀ id writes, (c.amend id writes).block? id = some ((c.obtained id).amend writes) ∧
        (c.obtained id).taken writes =
          writes.map (fun write => min write.2.length (2 ^ shift - write.1)) ∧
        ∀ other, other ≠ id → (c.amend id writes).block? other = c.block? other) ∧
      c.ids.Pairwise (· < ·) ∧
      (∀ id block, (id, block) ∈ c.blocks.entries ↔ c.block? id = some block) ∧
      ∀ id, ∃ upTo, c.blocks.entries = upTo ++ c.above id ∧ c.floor? id = upTo.getLast? ∧
        (∀ entry ∈ upTo, entry.1 ≤ id) ∧ ∀ entry ∈ c.above id, id < entry.1 := by
  intro c
  obtain ⟨rfl, -⟩ := eq_empty_of_new hnew
  have hsize : Geometry.size ⟨shift⟩ = 2 ^ shift := Nat.one_shiftLeft shift
  have htracked := tracked_after label ⟨shift⟩ budget edits
  have hsized : c.Sized := sized_after (sized_empty label ⟨shift⟩ budget) edits
  have hgeometry : c.geometry = ⟨shift⟩ := geometry_after _ edits
  refine ⟨fun id => ?_, ?_, fun id block hblock => ?_, fun id writes => ⟨?_, ?_, ?_⟩,
    c.blocks.pairwise_ids, fun id block => Table.mem_entries, fun id => ?_⟩
  · rw [htracked.chain.contains, map_fst_charge, htracked.mem_iff, mem_ids_iff]
  · rw [Coherent.memory ⟨_, htracked⟩, ← length_ids, hgeometry, hsize]
  · obtain ⟨hcapacity, hfilled⟩ := hsized id block hblock
    rw [hgeometry, hsize] at hcapacity hfilled
    obtain ⟨before, life, hedits, hlives, hdata⟩ :=
      exists_life (block?_empty label ⟨shift⟩ budget) edits gapless hblock
    rw [show (empty label ⟨shift⟩ budget).geometry.size = 2 ^ shift from hsize] at hdata
    exact ⟨hcapacity, hfilled, before, life, hedits, hlives, hdata⟩
  · rw [block?_amend, if_pos rfl, obtained]
  · rw [Block.taken_eq, (hsized.obtained id).1, hgeometry, hsize]
  · intro other hne
    rw [block?_amend, if_neg hne]
  · refine ⟨c.blocks.entries.filter (·.1 ≤ id), c.blocks.entries_eq_append id, rfl, ?_, ?_⟩
    · intro entry hentry
      simpa using (List.mem_filter.1 hentry).2
    · intro entry hentry
      exact (Table.mem_above.1 hentry).2

/-- Room for two blocks of four bytes. Block 1 is removed and made again, and a write to it
goes over its end; then a third block pushes the oldest one out. -/
theorem store_coherent_remade :
    let new := empty "" ⟨2⟩ 8
    let c := new.after [.amend 1 [(0, [1, 2, 3])], .amend 5 [(0, [9])], .erase 1,
      .amend 1 [(0, [7, 8]), (1, [5, 5, 5, 5])], .amend 3 [], .evict []]
    c.ids = [1, 3] ∧ c.memory = 8 ∧ (c.block? 1).map Block.data = some [7, 5, 5, 5] ∧
      c.recency.contains 5 = false ∧ (c.obtained 3).taken [(0, [1, 2]), (2, [3, 4, 5])] = [2, 2] ∧
      c.floor? 2 = some (1, ⟨4, [7, 5, 5, 5]⟩) := by
  intro new c
  have hnew : Cache.new "" 2 8 = .ok new := new_eq_ok (by decide) (by decide) (by decide)
  obtain ⟨hchain, hmemory, -, hwrites, -⟩ := store_coherent hnew
    [.amend 1 [(0, [1, 2, 3])], .amend 5 [(0, [9])], .erase 1,
      .amend 1 [(0, [7, 8]), (1, [5, 5, 5, 5])], .amend 3 [], .evict []] (by decide)
  have hids : c.ids = [1, 3] := by decide
  have hgone : c.recency.contains 5 = false := by
    rw [← Bool.not_eq_true, hchain]
    decide
  refine ⟨hids, ?_, by decide, hgone, (hwrites 3 _).2.1, by decide⟩
  rw [show c.memory = 2 ^ 2 * c.ids.length from hmemory, hids]
  rfl

end Cache

end ReadAhead
