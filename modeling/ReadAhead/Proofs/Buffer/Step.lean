/-
What one call can do to a buffer. `Change` lists the outcomes of a call with the
condition under which each one occurs, and `change_step` says that the list is
complete. Everything that holds along every run is proved from it, one case for
each outcome, and never from the definitions of the calls.

The first thing that holds along every run is `Sound`: the cache is sized, the
transfer began at the start of a block, and its frontier is writable.
-/
import ReadAhead.Proofs.Cache.Ingestion
import ReadAhead.Proofs.Cache.Eviction
import ReadAhead.Proofs.Cache.Reading
import ReadAhead.Buffer.Basic

set_option autoImplicit false

namespace ReadAhead.Buffer

/-! ## The outcomes of a call -/

/-- The call is without effect: the buffer is stopped, there is a transfer already,
or the signal is not one to take notice of. -/
def Declines (b : Buffer) : Call → Prop
  | .begin => b.stopped = true ∨ b.window.phase ≠ .idle
  | .seek _ => b.stopped = true
  | .stop => False
  | .deliver fetch (.head _) => b.ignores fetch = true
  | .deliver fetch (.bytes _) => b.ignores fetch = true ∨ b.accepting = false
  | .deliver fetch (.ended _) => b.ignores fetch = true

/-- The buffer with the reader at a position. -/
def readerAt (b : Buffer) (position : Nat) : Buffer :=
  { b with readerBlock := some (b.cache.geometry.blockOf position) }

/-- What a call makes of a buffer, and its effects. -/
inductive Change (b : Buffer) : Call → Buffer → List Effect → Prop where
  | declined (call : Call) (h : b.Declines call) : Change b call b []
  | began (live : b.stopped = false) (idle : b.window.phase = .idle) :
      Change b .begin (b.fetchFrom 0).1 (b.fetchFrom 0).2
  | stayed (position : Nat) (live : b.stopped = false)
      (inReach : b.needsRestart position = false) :
      Change b (.seek position) (b.readerAt position) []
  | moved (position : Nat) (live : b.stopped = false) (restart : b.needsRestart position = true) :
      Change b (.seek position)
        ((b.readerAt position).fetchFrom
          (b.cache.geometry.startOf (b.cache.geometry.blockOf position))).1
        ((b.readerAt position).fetchFrom
          (b.cache.geometry.startOf (b.cache.geometry.blockOf position))).2
  | stopped : Change b .stop b.stop []
  | headed (fetch : FetchId) (head : Head) (heeded : b.ignores fetch = false) :
      Change b (.deliver fetch (.head head)) { b.accept head with initialized := true }
        (if b.initialized then [] else [.initialized head.isSuccess])
  | stored (fetch : FetchId) (bytes : Bytes) (heeded : b.ignores fetch = false)
      (accepting : b.accepting = true) :
      Change b (.deliver fetch (.bytes bytes)) (b.store bytes).trim []
  | ended (fetch : FetchId) (status : FetchStatus) (heeded : b.ignores fetch = false) :
      Change b (.deliver fetch (.ended status))
        { b with window := b.window.finish status, initialized := true }
        (if b.initialized then [.ended] else [.initialized false, .ended])

/-- **The list of outcomes is complete.** -/
theorem change_step (b : Buffer) (call : Call) : Change b call (b.step call).1 (b.step call).2 := by
  cases call with
  | begin =>
    rw [step, begin]
    split
    · next h => exact .declined .begin (by simpa [Declines] using h)
    · next h =>
      simp only [Bool.or_eq_true, bne_iff_ne, not_or, Bool.not_eq_true, Decidable.not_not] at h
      exact .began h.1 h.2
  | seek position =>
    rw [step, seek]
    split
    · next h => exact .declined (.seek position) h
    · next h =>
      have live : b.stopped = false := by simpa using h
      -- Where the reader is has no part in whether another transfer is needed.
      have hneeds : ({ b with readerBlock := some (b.cache.geometry.blockOf position) } :
          Buffer).needsRestart position = b.needsRestart position := rfl
      dsimp only
      rw [hneeds]
      split
      · next hmove => exact .moved position live hmove
      · next hstay => exact .stayed position live (by simpa using hstay)
  | stop => exact .stopped
  | deliver fetch signal =>
    cases signal with
    | head head =>
      rw [step, deliver, respond]
      split
      · next h => exact .declined (.deliver fetch (.head head)) h
      · next h => exact .headed fetch head (by simpa using h)
    | bytes bytes =>
      rw [step, deliver, receive]
      split
      · next h =>
        exact .declined (.deliver fetch (.bytes bytes)) (by simpa [Declines] using h)
      · next h =>
        simp only [Bool.or_eq_true, Bool.not_eq_true', not_or, Bool.not_eq_true,
          Bool.not_eq_false] at h
        exact .stored fetch bytes h.1 h.2
    | ended status =>
      rw [step, deliver, finish]
      split
      · next h => exact .declined (.deliver fetch (.ended status)) h
      · next h => exact .ended fetch status (by simpa using h)

/-! ## Runs -/

@[simp] theorem after_nil (b : Buffer) : b.after [] = b := rfl

theorem after_cons (b : Buffer) (call : Call) (rest : List Call) :
    b.after (call :: rest) = (b.step call).1.after rest := rfl

theorem after_append (b : Buffer) (calls later : List Call) :
    b.after (calls ++ later) = (b.after calls).after later := by
  induction calls generalizing b with
  | nil => rfl
  | cons call rest ih => rw [List.cons_append, after_cons, after_cons, ih]

theorem after_concat (b : Buffer) (calls : List Call) (call : Call) :
    b.after (calls ++ [call]) = ((b.after calls).step call).1 := after_append b calls [call]

/-- **What every change keeps holds after every run.** -/
theorem after_induction {P : Buffer → Prop}
    (keep : ∀ b call b' effects, Change b call b' effects → P b → P b')
    {b : Buffer} (hb : P b) (calls : List Call) : P (b.after calls) := by
  induction calls generalizing b with
  | nil => exact hb
  | cons call rest ih => exact ih (keep _ _ _ _ (change_step b call) hb)

/-! ## What the parts of a call leave alone

A head changes what is known of the transfer and what its body is good for, but
not how far it got; a chunk changes how far it got and what is cached; eviction
changes what is cached and nothing else. -/

section

variable (b : Buffer) (head : Head) (bytes : Bytes)

theorem learnSize_eq :
    ∃ total, b.learnSize head = { b with window := { b.window with total } } := by
  rw [learnSize]
  split
  · next total _ => exact ⟨some total, rfl⟩
  · exact ⟨b.window.total, rfl⟩

/-- A head changes nothing but the response, what is known of the size, the bytes
to drop, and whether the body is stored. -/
theorem accept_eq :
    ∃ total discard accepting, b.accept head =
      { b with
        response := some head, accepting, window := { b.window with total, discard } } := by
  rw [accept]
  dsimp only
  -- An error, an answer with or without a range, and one that ignores the range.
  split
  · exact ⟨b.window.total, b.window.discard, false, rfl⟩
  obtain ⟨total, h⟩ :=
    learnSize_eq { b with response := some head, accepting := false } head
  rw [h]
  split
  · split
    · next range _ => exact ⟨total, b.window.discard, range.first == b.window.start, rfl⟩
    · exact ⟨total, b.window.discard, true, rfl⟩
  · split
    · exact ⟨total, b.window.start, true, rfl⟩
    · exact ⟨total, b.window.discard, true, rfl⟩

@[simp] theorem cache_accept : (b.accept head).cache = b.cache := by
  obtain ⟨_, _, _, h⟩ := b.accept_eq head
  rw [h]

@[simp] theorem settings_accept : (b.accept head).settings = b.settings := by
  obtain ⟨_, _, _, h⟩ := b.accept_eq head
  rw [h]

@[simp] theorem readerBlock_accept : (b.accept head).readerBlock = b.readerBlock := by
  obtain ⟨_, _, _, h⟩ := b.accept_eq head
  rw [h]

@[simp] theorem stopped_accept : (b.accept head).stopped = b.stopped := by
  obtain ⟨_, _, _, h⟩ := b.accept_eq head
  rw [h]

@[simp] theorem start_accept : (b.accept head).window.start = b.window.start := by
  obtain ⟨_, _, _, h⟩ := b.accept_eq head
  rw [h]

@[simp] theorem offset_accept : (b.accept head).window.offset = b.window.offset := by
  obtain ⟨_, _, _, h⟩ := b.accept_eq head
  rw [h]

@[simp] theorem attempt_accept : (b.accept head).window.attempt = b.window.attempt := by
  obtain ⟨_, _, _, h⟩ := b.accept_eq head
  rw [h]

@[simp] theorem phase_accept : (b.accept head).window.phase = b.window.phase := by
  obtain ⟨_, _, _, h⟩ := b.accept_eq head
  rw [h]

@[simp] theorem frontier_accept : (b.accept head).window.frontier = b.window.frontier := by
  rw [FetchWindow.frontier, FetchWindow.frontier, start_accept, offset_accept]

/-- What is left of a chunk once its leading bytes were dropped. -/
def body (b : Buffer) (bytes : Bytes) : Bytes :=
  bytes.drop (b.window.takeDiscard bytes.length).1

theorem cache_store :
    (b.store bytes).cache = b.cache.ingest b.window.frontier (b.body bytes) := rfl

theorem window_store :
    (b.store bytes).window =
      (b.window.takeDiscard bytes.length).2.advance (b.body bytes).length := rfl

theorem frontier_store :
    (b.store bytes).window.frontier = b.window.frontier + (b.body bytes).length := by
  rw [window_store, FetchWindow.frontier, FetchWindow.frontier]
  exact (Nat.add_assoc _ _ _).symm

/-- Giving memory back is evicting: within the budget nothing is evicted. -/
theorem trim_eq : b.trim = { b with cache := (b.cache.evict b.pinned).2 } := by
  rw [trim]
  split
  · rfl
  · next h => rw [Cache.evict_of_not_overBudget (by simpa using h)]

theorem cache_trim : b.trim.cache = (b.cache.evict b.pinned).2 := by rw [trim_eq]

@[simp] theorem window_trim : b.trim.window = b.window := by rw [trim_eq]

@[simp] theorem settings_trim : b.trim.settings = b.settings := by rw [trim_eq]

@[simp] theorem readerBlock_trim : b.trim.readerBlock = b.readerBlock := by rw [trim_eq]

/-- The frontier's block is pinned. -/
theorem frontier_mem_pinned :
    ⟨b.cache.geometry.blockOf b.window.frontier, b.cache.geometry.blockOf b.window.frontier⟩ ∈
      b.pinned := List.mem_cons_self

theorem block?_trim_frontier :
    b.trim.cache.block? (b.cache.geometry.blockOf b.window.frontier) =
      b.cache.block? (b.cache.geometry.blockOf b.window.frontier) := by
  rw [cache_trim]
  exact Cache.block?_evict_of_pinned b.frontier_mem_pinned ⟨Nat.le_refl _, Nat.le_refl _⟩

/-- The reader's block and those behind it are pinned. Beyond the greatest block id there
are none. -/
theorem block?_trim_of_reader {reader id : BlockId} (hreader : b.readerBlock = some reader)
    (hlo : reader ≤ id) (hhi : id ≤ reader + b.settings.pinnedBlocks) (hid : id ≤ lastBlock) :
    b.trim.cache.block? id = b.cache.block? id := by
  have hrange : ⟨reader, min (reader + b.settings.pinnedBlocks) lastBlock⟩ ∈ b.pinned := by
    rw [pinned, hreader]
    exact List.mem_cons_of_mem _ List.mem_cons_self
  rw [cache_trim]
  exact Cache.block?_evict_of_pinned hrange ⟨hlo, Nat.le_min.2 ⟨hhi, hid⟩⟩

end

/-! ## What no call changes -/

theorem geometry_change {b b' : Buffer} {call : Call} {effects : List Effect}
    (h : Change b call b' effects) : b'.cache.geometry = b.cache.geometry := by
  cases h with
  | headed => dsimp only; rw [cache_accept]
  | stored => rw [cache_trim, Cache.geometry_evict, cache_store, Cache.geometry_ingest]
  | _ => rfl

@[simp] theorem geometry_after (b : Buffer) (calls : List Call) :
    (b.after calls).cache.geometry = b.cache.geometry :=
  after_induction (P := fun b' => b'.cache.geometry = b.cache.geometry)
    (fun _ _ _ _ h hb => (geometry_change h).trans hb) rfl calls

theorem settings_change {b b' : Buffer} {call : Call} {effects : List Effect}
    (h : Change b call b' effects) : b'.settings = b.settings := by
  cases h with
  | headed => exact settings_accept _ _
  | stored => exact settings_trim _
  | _ => rfl

@[simp] theorem settings_after (b : Buffer) (calls : List Call) :
    (b.after calls).settings = b.settings :=
  after_induction (P := fun b' => b'.settings = b.settings)
    (fun _ _ _ _ h hb => (settings_change h).trans hb) rfl calls

/-- Only the call to stop stops a buffer. -/
theorem stopped_change {b b' : Buffer} {call : Call} {effects : List Effect}
    (h : Change b call b' effects) (hcall : call ≠ .stop) : b'.stopped = b.stopped := by
  cases h with
  | stopped => exact absurd rfl hcall
  | headed => exact stopped_accept _ _
  | stored =>
    rw [trim_eq]
    rfl
  | _ => rfl

theorem stopped_step (b : Buffer) {call : Call} (hcall : call ≠ .stop) :
    (b.step call).1.stopped = b.stopped := stopped_change (change_step b call) hcall

/-! ## Stopped buffers -/

/-- **A signal that a buffer ignores** changes nothing, whatever it is. -/
theorem step_of_ignores {b : Buffer} {fetch : FetchId} (h : b.ignores fetch = true)
    (signal : Signal) : b.step (.deliver fetch signal) = (b, []) := by
  cases signal with
  | head head => rw [step, deliver, respond, if_pos h]
  | bytes bytes => rw [step, deliver, receive, h, Bool.true_or, if_pos rfl]
  | ended status => rw [step, deliver, finish, if_pos h]

section

variable {b : Buffer} (stopped : b.stopped = true)

include stopped

/-- **A stopped buffer declines every call**, and to stop it again changes nothing. -/
theorem step_of_stopped (call : Call) : b.step call = (b, []) := by
  cases call with
  | begin => rw [step, begin, stopped, Bool.true_or, if_pos rfl]
  | seek position => rw [step, seek, if_pos stopped]
  | stop => rw [step, stop, ← stopped]
  | deliver fetch signal =>
    refine step_of_ignores ?_ signal
    rw [ignores, stopped, Bool.true_or]

/-- **Nothing becomes of a stopped buffer**, whatever is called. -/
theorem run_of_stopped (calls : List Call) : b.run calls = (b, []) := by
  induction calls with
  | nil => rfl
  | cons call rest ih =>
    rw [run, step_of_stopped stopped]
    dsimp only
    rw [ih]
    rfl

end

/-! ## Soundness -/

/-- What holds of a buffer at all times, whatever cache it began with. -/
structure Sound (b : Buffer) : Prop where
  sized : b.cache.Sized
  aligned : b.cache.geometry.offsetOf b.window.start = 0
  writable : b.cache.Writable b.window.frontier

theorem sound_withCache (url : Url) (settings : BufferSettings) {cache : Cache}
    (hs : cache.Sized) : (withCache url settings cache).Sound where
  sized := hs
  aligned := Nat.zero_mod _
  writable := Cache.writable_of_offsetOf_eq_zero (Nat.zero_mod _)

/-- A new transfer from the start of a block. -/
theorem Sound.fetchFrom {b : Buffer} (hb : b.Sound) {position : Nat}
    (h : b.cache.geometry.offsetOf position = 0) : (b.fetchFrom position).1.Sound where
  sized := hb.sized
  aligned := h
  writable := Cache.writable_of_offsetOf_eq_zero h

/-- A head touches neither the cache nor how far the transfer got. -/
theorem Sound.accept {b : Buffer} (hb : b.Sound) (head : Head) :
    Sound { b.accept head with initialized := true } := by
  refine ⟨?_, ?_, ?_⟩ <;> dsimp only
  · rw [cache_accept]
    exact hb.sized
  · rw [cache_accept, start_accept]
    exact hb.aligned
  · rw [cache_accept, frontier_accept]
    exact hb.writable

theorem Sound.store {b : Buffer} (hb : b.Sound) (bytes : Bytes) : (b.store bytes).Sound where
  sized := hb.sized.ingest hb.writable _
  aligned := by
    rw [cache_store, Cache.geometry_ingest]
    exact hb.aligned
  writable := by
    rw [cache_store, frontier_store]
    exact Cache.writable_ingest hb.sized hb.writable _

/-- The frontier stays writable because its block is pinned. -/
theorem Sound.trim {b : Buffer} (hb : b.Sound) : b.trim.Sound where
  sized := by
    rw [cache_trim]
    exact hb.sized.evict _
  aligned := by
    rw [cache_trim, Cache.geometry_evict, window_trim]
    exact hb.aligned
  writable := by
    have hgeom : b.trim.cache.geometry = b.cache.geometry := by
      rw [cache_trim, Cache.geometry_evict]
    -- Writability asks about one block only, and that one is pinned.
    rw [Cache.Writable, window_trim, hgeom, Cache.filledAt, block?_trim_frontier]
    exact hb.writable

theorem Sound.change {b b' : Buffer} {call : Call} {effects : List Effect}
    (h : Change b call b' effects) (hb : b.Sound) : b'.Sound := by
  cases h with
  | declined => exact hb
  | began => exact hb.fetchFrom (Nat.zero_mod _)
  | stayed => exact ⟨hb.sized, hb.aligned, hb.writable⟩
  | moved position =>
    exact Sound.fetchFrom (b := b.readerAt position) ⟨hb.sized, hb.aligned, hb.writable⟩
      (b.cache.geometry.offsetOf_startOf _)
  | stopped => exact ⟨hb.sized, hb.aligned, hb.writable⟩
  | headed fetch head => exact hb.accept head
  | stored fetch bytes => exact (hb.store bytes).trim
  | ended => exact ⟨hb.sized, hb.aligned, hb.writable⟩

theorem Sound.step {b : Buffer} (hb : b.Sound) (call : Call) : (b.step call).1.Sound :=
  hb.change (change_step b call)

/-- **Every reachable buffer is sound.** -/
theorem Sound.after {b : Buffer} (hb : b.Sound) (calls : List Call) : (b.after calls).Sound :=
  after_induction (fun _ _ _ _ h hb => hb.change h) hb calls

end ReadAhead.Buffer
