/-
What a chunk does to a buffer: it is stored at the frontier, byte by byte in its place, and
then memory is given back.

The two have to be told apart, since the second one may take away what the first one has
stored. It takes whole blocks, and it leaves the block of the new frontier and those that
the reader has pinned.
-/
import ReadAhead.Proofs.Buffer.Step
import ReadAhead.Proofs.Cache.Placement

set_option autoImplicit false

namespace ReadAhead.Buffer

variable {b : Buffer}

/-! ## Giving memory back -/

/-- **Giving memory back takes whole blocks** or leaves them as they are. -/
theorem block?_trim (b : Buffer) (id : BlockId) :
    b.trim.cache.block? id = b.cache.block? id ∨ b.trim.cache.block? id = none := by
  rw [cache_trim, Cache.block?_evict]
  by_cases hgone : id ∈ (b.cache.evict b.pinned).1
  · rw [if_pos hgone]
    exact .inr rfl
  · rw [if_neg hgone]
    exact .inl rfl

/-! ## A chunk -/

/-- A chunk that is heeded is stored, and then memory is given back. -/
theorem step_bytes {fetch : FetchId} (heeded : b.ignores fetch = false)
    (accepting : b.accepting = true) (bytes : Bytes) :
    (b.step (.deliver fetch (.bytes bytes))).1 = (b.store bytes).trim := by
  rw [step, deliver, receive, heeded, accepting]
  rfl

/-- **A chunk is stored at the frontier, every byte in its place**, on any run of a buffer.
Let `chunk` be what is left of the bytes once the leading ones were dropped. Each round of the
loop that stores it leaves less to be done, so that after as many rounds as it has bytes the
whole chunk is in the cache, and the frontier behind it. The bytes of the chunk are then in
the blocks of their positions, blocks that are touched are filled to the end of what was
written if that is further than before, and everything else is what it was.

Giving memory back then takes whole blocks, and not the one of the new frontier, nor the
reader's and those that the settings name behind it. -/
theorem chunk_placed (url : Url) (settings : BufferSettings) {cache : Cache}
    (sized : cache.Sized) (calls : List Call) (fetch : FetchId) (bytes : Bytes)
    (heeded : ((withCache url settings cache).after calls).ignores fetch = false)
    (accepting : ((withCache url settings cache).after calls).accepting = true) :
    let b := (withCache url settings cache).after calls
    let frontier := b.window.frontier
    let chunk := b.body bytes
    let loop (n : Nat) := Cache.Ingestion.rounds n ⟨b.cache, frontier, chunk⟩
    let stored := b.store bytes
    let b' := (b.step (.deliver fetch (.bytes bytes))).1
    (∀ n, (loop n).left ≠ [] → (loop (n + 1)).left.length < (loop n).left.length) ∧
      (∀ n, chunk.length ≤ n → loop n = ⟨stored.cache, frontier + chunk.length, []⟩) ∧
      stored.window.frontier = frontier + chunk.length ∧
      b'.window = stored.window ∧
      b.cache.Places frontier chunk stored.cache ∧
      (∀ id, b'.cache.block? id = stored.cache.block? id ∨ b'.cache.block? id = none) ∧
      ∀ id, id = cache.geometry.blockOf b'.window.frontier ∨
          (∃ reader, b.readerBlock = some reader ∧ reader ≤ id ∧
            id ≤ reader + settings.pinnedBlocks ∧ id ≤ lastBlock) →
        b'.cache.block? id = stored.cache.block? id := by
  intro b frontier chunk loop stored b'
  have hb : b.Sound := (sound_withCache url settings sized).after calls
  have hready : Cache.Ingestion.Ready ⟨b.cache, frontier, chunk⟩ := ⟨hb.sized, hb.writable⟩
  have hb' : b' = stored.trim := step_bytes heeded accepting bytes
  have hwindow : b'.window = stored.window := by rw [hb', window_trim]
  have hgeometry : stored.cache.geometry = cache.geometry := by
    rw [show stored.cache = _ from cache_store b bytes, Cache.geometry_ingest]
    exact geometry_after _ calls
  have hsettings : stored.settings = settings := settings_after _ calls
  refine ⟨fun n hleft => ?_, fun n hn => ?_, frontier_store b bytes, hwindow,
    Cache.places_ingest hb.sized hb.writable chunk, fun id => ?_, fun id hkept => ?_⟩
  · show (Cache.Ingestion.rounds (n + 1) _).left.length < _
    rw [Cache.Ingestion.rounds_succ]
    exact Cache.Ingestion.length_left_round_lt (Cache.Ingestion.ready_rounds n hready).sized hleft
  · exact Cache.Ingestion.rounds_of_length_le hready hn
  · rw [hb']
    exact block?_trim stored id
  · rw [hwindow, ← hgeometry] at hkept
    rw [hb']
    rcases hkept with rfl | ⟨reader, hreader, hlo, hhi, hlast⟩
    · exact block?_trim_frontier stored
    · rw [← hsettings] at hhi
      exact block?_trim_of_reader stored hreader hlo hhi hlast

/-- Blocks of four bytes and room for two of them: six bytes are cached and the reader is in
the first block when nine more arrive. The second one of them is stored behind the six, in
the block that was filled half way, and of the four blocks the first and the last are left. -/
theorem chunk_placed_across_blocks :
    let url : Url := ⟨[], [], [], none, none, .rigid [], none, none⟩
    let calls : List Call :=
      [.begin, .seek 1, .deliver 1 (.head ⟨206, some 20, some ⟨0, 19, some 20⟩⟩),
        .deliver 1 (.bytes [10, 11, 12, 13, 14, 15])]
    let bytes : Bytes := [16, 17, 18, 19, 20, 21, 22, 23, 24]
    let b := (withCache url ⟨2, 2, 8, 0⟩ (.empty "" ⟨2⟩ 8)).after calls
    let stored := b.store bytes
    let b' := (b.step (.deliver 1 (.bytes bytes))).1
    b.ignores 1 = false ∧ b.accepting = true ∧ b'.window.frontier = 15 ∧
      (∃ block, stored.cache.block? 1 = some block ∧ block.data[3]? = some 17) ∧
      b.cache.filledAt 1 = 2 ∧ stored.cache.filledAt 1 = 4 ∧
      b'.cache.block? 0 = stored.cache.block? 0 ∧ b'.cache.block? 3 = stored.cache.block? 3 ∧
      b'.cache.count = 2 := by
  intro url calls bytes b stored b'
  have heeded : b.ignores 1 = false := by decide
  have accepting : b.accepting = true := by decide
  have hgeometry : b.cache.geometry = ⟨2⟩ := geometry_after _ calls
  have hfrontier : b.window.frontier = 6 := by decide
  have hbody : b.body bytes = bytes := by decide
  have hfilled : b.cache.filledAt 1 = 2 := by decide
  have hreader : b.readerBlock = some 0 := by decide
  obtain ⟨-, -, hreached, hwindow, hplaces, -, hkept⟩ :=
    chunk_placed url ⟨2, 2, 8, 0⟩ (Cache.sized_empty "" ⟨2⟩ 8) calls 1 bytes heeded accepting
  have hend : b'.window.frontier = 15 := by
    rw [show b'.window = stored.window from hwindow,
      show stored.window.frontier = _ from hreached, hfrontier, hbody]
    rfl
  have hplaced := hplaces.placed 1 17
  have hlevel := hplaces.filled 1
  rw [hbody, hgeometry, hfrontier] at hplaced hlevel
  rw [hfilled] at hlevel
  refine ⟨heeded, accepting, hend, hplaced rfl, hfilled, hlevel ⟨6, by decide⟩, ?_, ?_, by decide⟩
  · exact hkept 0 (.inr ⟨0, hreader, by decide⟩)
  · have hlast : Geometry.blockOf ⟨2⟩ b'.window.frontier = 3 := by
      rw [hend]
      rfl
    exact hkept 3 (.inl hlast.symm)

end ReadAhead.Buffer
