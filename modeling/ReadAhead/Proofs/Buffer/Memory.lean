/-
How much memory a buffer holds on to. Memory is given back only after a chunk was
stored, and then only as far as blocks are not pinned; between two chunks seeks move
the reader and the window as they like. The bound survives this because it does not
say where the pinned blocks are, only how many they can be: the frontier's block, the
reader's, and as many behind that as the settings name. A seek caches nothing, so it
cannot exceed a bound that does not mention positions.
-/
import ReadAhead.Proofs.Cache.Memory
import ReadAhead.Proofs.Buffer.Step

set_option autoImplicit false

namespace ReadAhead.Buffer

/-! ## Pinned blocks -/

/-- The block is the frontier's, the reader's, or close enough behind the reader's. -/
def Needs (b : Buffer) (id : BlockId) : Prop :=
  id = b.cache.geometry.blockOf b.window.frontier ∨
    ∃ reader, b.readerBlock = some reader ∧ reader ≤ id ∧ id ≤ reader + b.settings.pinnedBlocks

/-- **Only needed blocks are pinned.** -/
theorem needs_of_pinned {b : Buffer} {range : IdRange} (hr : range ∈ b.pinned) {id : BlockId}
    (hid : range.first ≤ id ∧ id ≤ range.last) : b.Needs id := by
  rw [pinned] at hr
  rcases List.mem_cons.1 hr with rfl | hreader
  · exact .inl (Nat.le_antisymm hid.2 hid.1)
  · obtain ⟨reader, hmem, rfl⟩ := List.mem_map.1 hreader
    refine .inr ⟨reader, Option.mem_toList.1 hmem, hid.1, ?_⟩
    exact Nat.le_trans hid.2 (Nat.min_le_left _ _)

/-- The needed blocks in a list. -/
def needed (b : Buffer) : List BlockId :=
  b.cache.geometry.blockOf b.window.frontier ::
    b.readerBlock.toList.flatMap fun reader => List.range' reader (b.settings.pinnedBlocks + 1)

theorem mem_needed {b : Buffer} {id : BlockId} (h : b.Needs id) : id ∈ b.needed := by
  rcases h with rfl | ⟨reader, hreader, hlo, hhi⟩
  · exact List.mem_cons_self
  · refine List.mem_cons_of_mem _ (List.mem_flatMap.2 ⟨reader, ?_, ?_⟩)
    · exact Option.mem_toList.2 hreader
    · exact List.mem_range'_1.2 ⟨hlo, Nat.lt_succ_of_le hhi⟩

/-- **There are not many needed blocks**, wherever reader and frontier are. -/
theorem length_needed_le (b : Buffer) : b.needed.length ≤ b.settings.pinnedBlocks + 2 := by
  rw [needed, List.length_cons]
  cases b.readerBlock with
  | none => simp
  | some reader => simp

/-! ## After a chunk -/

/-- **Memory is above the budget after a chunk only for needed blocks.** -/
theorem needs_of_overBudget {b : Buffer} (hb : b.cache.Coherent)
    (hover : b.trim.cache.overBudget = true) {id : BlockId}
    (hid : b.trim.cache.contains id = true) : b.trim.Needs id := by
  have hneeds : b.Needs id := by
    rw [cache_trim] at hover hid
    obtain ⟨range, hrange, hin⟩ := Cache.pinned_of_overBudget hb hover hid
    exact needs_of_pinned hrange hin
  rwa [Needs, cache_trim, Cache.geometry_evict, window_trim, readerBlock_trim, settings_trim]

/-! ## Along a run -/

/-- Memory is accounted for, and no more of it is in use than the budget allows or the
needed blocks take. -/
structure Bounded (b : Buffer) : Prop where
  coherent : b.cache.Coherent
  within : b.cache.memory ≤
    max b.cache.budget ((b.settings.pinnedBlocks + 2) * b.cache.geometry.size)

theorem coherent_store {b : Buffer} (hb : b.cache.Coherent) (bytes : Bytes) :
    (b.store bytes).cache.Coherent := by
  rw [cache_store]
  exact hb.ingest _ _

/-- **Chain and table stay in agreement**, whatever is called. -/
theorem coherent_change {b b' : Buffer} {call : Call} {effects : List Effect}
    (h : Change b call b' effects) (hb : b.cache.Coherent) : b'.cache.Coherent := by
  cases h with
  | headed fetch head =>
    dsimp only
    rwa [cache_accept]
  | stored fetch bytes =>
    rw [cache_trim]
    exact (coherent_store hb bytes).evict _
  | declined | began | stayed | moved | stopped | ended => exact hb

/-- Giving memory back brings any buffer within the bound, however large the chunk was. -/
theorem bounded_trim {b : Buffer} (hb : b.cache.Coherent) : b.trim.Bounded := by
  have hcoherent : b.trim.cache.Coherent := by
    rw [cache_trim]
    exact hb.evict _
  refine ⟨hcoherent, ?_⟩
  by_cases hover : b.trim.cache.overBudget = true
  · -- What is left is needed, and that is little.
    have hmemory := hcoherent.memory_le fun id hid => mem_needed (needs_of_overBudget hb hover hid)
    have hfew := Nat.mul_le_mul_right b.trim.cache.geometry.size b.trim.length_needed_le
    exact Nat.le_trans hmemory (Nat.le_trans hfew (Nat.le_max_right _ _))
  · rw [Cache.overBudget_eq_true_iff, Nat.not_lt] at hover
    exact Nat.le_trans hover (Nat.le_max_left _ _)

theorem Bounded.change {b b' : Buffer} {call : Call} {effects : List Effect}
    (h : Change b call b' effects) (hb : b.Bounded) : b'.Bounded := by
  have hcoherent := coherent_change h hb.coherent
  cases h with
  | headed fetch head =>
    refine ⟨hcoherent, ?_⟩
    dsimp only
    rw [cache_accept, settings_accept]
    exact hb.within
  | stored fetch bytes => exact bounded_trim (coherent_store hb.coherent bytes)
  -- Whatever else moves reader and frontier, the cache and the bound are the same.
  | _ => exact ⟨hb.coherent, hb.within⟩

theorem bounded_withCache (url : Url) (settings : BufferSettings) (label : String)
    (geometry : Geometry) (budget : Nat) :
    (withCache url settings (.empty label geometry budget)).Bounded where
  coherent := Cache.coherent_empty label geometry budget
  within := Nat.zero_le _

theorem Bounded.after {b : Buffer} (hb : b.Bounded) (calls : List Call) : (b.after calls).Bounded :=
  after_induction (fun _ _ _ _ h hb => hb.change h) hb calls

theorem budget_change {b b' : Buffer} {call : Call} {effects : List Effect}
    (h : Change b call b' effects) : b'.cache.budget = b.cache.budget := by
  cases h with
  | headed => dsimp only; rw [cache_accept]
  | stored => rw [cache_trim, Cache.budget_evict, cache_store, Cache.budget_ingest]
  | _ => rfl

@[simp] theorem budget_after (b : Buffer) (calls : List Call) :
    (b.after calls).cache.budget = b.cache.budget :=
  after_induction (P := fun b' => b'.cache.budget = b.cache.budget)
    (fun _ _ _ _ h hb => (budget_change h).trans hb) rfl calls

/-- **The memory of a buffer stays bounded** on any run that began with an empty cache.
Every block is charged in full; and after each chunk that is stored, a buffer above its
budget holds the frontier's block, the reader's and a few behind that one, and nothing
else. -/
theorem memory_bounded (url : Url) (settings : BufferSettings) (label : String)
    (geometry : Geometry) (budget : Nat) (calls : List Call) :
    let b := (withCache url settings (.empty label geometry budget)).after calls
    b.cache.memory = geometry.size * b.cache.count ∧
      b.cache.memory ≤ max budget ((settings.pinnedBlocks + 2) * geometry.size) ∧
      ∀ fetch bytes, b.ignores fetch = false → b.accepting = true →
        let stored := (b.step (.deliver fetch (.bytes bytes))).1
        stored.cache.memory ≤ budget ∨
          ∀ id ∈ stored.cache.ids, id = geometry.blockOf stored.window.frontier ∨
            ∃ reader, stored.readerBlock = some reader ∧ reader ≤ id ∧
              id ≤ reader + settings.pinnedBlocks := by
  intro b
  have hb : b.Bounded := (bounded_withCache url settings label geometry budget).after calls
  have hgeometry : b.cache.geometry = geometry := geometry_after _ calls
  have hsettings : b.settings = settings := settings_after _ calls
  have hbudget : b.cache.budget = budget := budget_after _ calls
  refine ⟨?_, ?_, fun fetch bytes heeded accepting => ?_⟩
  · rw [← hgeometry]
    exact hb.coherent.memory
  · rw [← hgeometry, ← hsettings, ← hbudget]
    exact hb.within
  · have hstored : (b.step (.deliver fetch (.bytes bytes))).1 = (b.store bytes).trim := by
      rw [step, deliver, receive, heeded, accepting]
      rfl
    have hchange := Change.stored (b := b) fetch bytes heeded accepting
    rw [hstored, ← hgeometry, ← hsettings, ← hbudget, ← budget_change hchange,
      ← geometry_change hchange, ← settings_change hchange]
    by_cases hover : (b.store bytes).trim.cache.overBudget = true
    · right
      intro id hid
      exact needs_of_overBudget (coherent_store hb.coherent bytes) hover
        ((Cache.mem_ids_iff _ id).1 hid)
    · left
      rwa [Cache.overBudget_eq_true_iff, Nat.not_lt] at hover

/-- A budget of one block, and a chunk that fills three blocks and begins a fourth: the
bound is reached, and the block in the middle is the one that went. -/
theorem memory_bounded_tight :
    let url : Url := ⟨[], [], [], none, none, .rigid [], none, none⟩
    let calls : List Call :=
      [.begin, .seek 0, .deliver 1 (.head ⟨206, none, some ⟨0, 19, none⟩⟩)]
    let chunk : Bytes := [10, 11, 12, 13, 14, 15, 16, 17, 18, 19, 20, 21, 22]
    let b := (withCache url ⟨2, 4, 20, 1⟩ (.empty "" ⟨2⟩ 4)).after calls
    let stored := (b.step (.deliver 1 (.bytes chunk))).1
    stored.cache.memory = 4 * stored.cache.count ∧ stored.cache.memory ≤ 12 ∧
      4 < stored.cache.memory ∧ ∀ id ∈ stored.cache.ids, id = 3 ∨ id ≤ 1 := by
  intro url calls chunk b stored
  obtain ⟨-, -, hstored⟩ := memory_bounded url ⟨2, 4, 20, 1⟩ "" ⟨2⟩ 4 calls
  obtain ⟨hcharged, hmost, -⟩ := memory_bounded url ⟨2, 4, 20, 1⟩ "" ⟨2⟩ 4
    (calls ++ [.deliver 1 (.bytes chunk)])
  have hover : ¬ stored.cache.memory ≤ 4 := by decide
  have hfrontier : Geometry.blockOf ⟨2⟩ stored.window.frontier = 3 := by decide
  have hreader : stored.readerBlock = some 0 := by decide
  refine ⟨hcharged, hmost, Nat.not_le.1 hover, fun id hid => ?_⟩
  have hneeded := (hstored 1 chunk (by decide) (by decide)).resolve_left hover id hid
  rcases hneeded with hid | ⟨reader, hsome, -, hle⟩
  · exact .inl (hid.trans hfrontier)
  · obtain rfl := Option.some.inj (hreader.symm.trans hsome)
    exact .inr hle

end ReadAhead.Buffer
