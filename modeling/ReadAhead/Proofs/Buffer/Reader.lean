/-
What a reader gets from a seek. Once a reader has announced a position, the
transfer that is current begins no later than there, and as soon as its frontier
has passed the position the byte is cached and stays so, however small the budget.

There are two ways to lose the byte, and the invariant `Serves` rules out both. The
transfer could begin behind the position: it does not, since a seek starts another
one exactly if the current one would not do. And the block could be evicted: it is
not, since the reader's block is pinned whenever memory is given back, and with it
the blocks behind it.
-/
import ReadAhead.Proofs.Buffer.Step
import ReadAhead.Proofs.Buffer.Fill

set_option autoImplicit false

namespace ReadAhead.Buffer

variable {b : Buffer} {p : Nat}

/-! ## The invariant -/

/-- The buffer is at the service of a reader at a position. -/
structure Serves (b : Buffer) (p : Nat) : Prop extends Sound b where
  reader : b.readerBlock = some (b.cache.geometry.blockOf p)
  underway : b.window.phase ≠ .idle
  ahead : b.window.start ≤ p
  delivered : p < b.window.frontier → (b.cache.byte? p).isSome = true

/-- **A transfer that need not be restarted** has begun no later than the position,
and if it has passed the position, the byte is cached. -/
theorem needsRestart_eq_false (hs : b.cache.Sized) (h : b.needsRestart p = false) :
    b.window.phase ≠ .idle ∧ b.window.start ≤ p ∧
      (p < b.window.frontier → (b.cache.byte? p).isSome = true) := by
  simp only [needsRestart, Bool.or_eq_false_iff] at h
  obtain ⟨⟨⟨hphase, -⟩, hreach⟩, hmissing⟩ := h
  refine ⟨by simpa using hphase, ?_, fun hp => ?_⟩
  · simp only [FetchWindow.isOutOfReach, Bool.or_eq_false_iff, decide_eq_false_iff_not] at hreach
    exact Nat.not_lt.1 hreach.1
  · rw [isMissing, FetchWindow.isBehind, decide_eq_true hp, Bool.true_and] at hmissing
    rw [← Cache.covers_iff hs]
    simpa using hmissing

/-- **A seek puts the buffer at the reader's service.** -/
theorem Sound.seek (hb : b.Sound) (live : b.stopped = false) (p : Nat) :
    (b.step (.seek p)).1.Serves p := by
  have hchange := change_step b (.seek p)
  have hsound := hb.change hchange
  -- The outcomes are told apart for any buffer in place of the one that is reached.
  generalize (b.step (.seek p)).1 = b' at hchange hsound ⊢
  generalize (b.step (.seek p)).2 = effects at hchange
  cases hchange with
  | declined _ h => exact absurd (live.symm.trans h) Bool.false_ne_true
  | stayed _ _ inReach =>
    obtain ⟨hphase, hstart, hbyte⟩ := needsRestart_eq_false hb.sized inReach
    exact ⟨hsound, rfl, hphase, hstart, hbyte⟩
  | moved =>
    -- The new transfer begins at the start of the position's block and has passed nothing.
    have hstart := b.cache.geometry.startOf_blockOf_le p
    refine ⟨hsound, rfl, nofun, hstart, fun hp => absurd hp ?_⟩
    exact Nat.not_lt.2 hstart

/-! ## What eviction leaves alone -/

theorem Serves.block?_trim (hb : b.Serves p) {id : Nat}
    (hlo : b.cache.geometry.blockOf p ≤ id)
    (hhi : id ≤ b.cache.geometry.blockOf p + b.settings.pinnedBlocks) (hid : id < UInt64.size) :
    b.trim.cache.block? id = b.cache.block? id :=
  block?_trim_of_reader b hb.reader hlo hhi (Nat.le_sub_one_of_lt hid)

theorem blockOf_lt_size (g : Geometry) (hp : p < UInt64.size) : g.blockOf p < UInt64.size :=
  Nat.lt_of_le_of_lt (Nat.div_le_self _ _) hp

/-! ## Every call -/

theorem Serves.store (hb : b.Serves p) (bytes : Bytes) : (b.store bytes).Serves p where
  toSound := hb.toSound.store bytes
  reader := by
    rw [cache_store, Cache.geometry_ingest]
    exact hb.reader
  underway := hb.underway
  ahead := hb.ahead
  delivered := by
    intro hp
    rw [frontier_store] at hp
    rw [cache_store]
    by_cases hold : p < b.window.frontier
    · exact Cache.isSome_byte?_ingest hb.sized hb.writable _ (hb.delivered hold)
    · exact Cache.isSome_byte?_ingest_new hb.sized hb.writable _ (Nat.not_lt.1 hold) hp

theorem Serves.trim (hb : b.Serves p) (hp : p < UInt64.size) : b.trim.Serves p where
  toSound := hb.toSound.trim
  reader := by
    rw [readerBlock_trim, cache_trim, Cache.geometry_evict]
    exact hb.reader
  underway := by
    rw [window_trim]
    exact hb.underway
  ahead := by
    rw [window_trim]
    exact hb.ahead
  delivered := by
    intro hpassed
    rw [window_trim] at hpassed
    have hgeom : b.trim.cache.geometry = b.cache.geometry := by
      rw [cache_trim, Cache.geometry_evict]
    have hblock := hb.block?_trim (Nat.le_refl _) (Nat.le_add_right _ _)
      (blockOf_lt_size b.cache.geometry hp)
    rw [Cache.byte?, hgeom, hblock]
    exact hb.delivered hpassed

/-- The call does not take the buffer to another reader. -/
def Call.KeepsReader (p : Nat) : Call → Prop
  | .seek position => position = p
  | _ => True

instance (p : Nat) (call : Call) : Decidable (call.KeepsReader p) :=
  match call with
  | .seek position => inferInstanceAs (Decidable (position = p))
  | .begin | .stop | .deliver _ _ => .isTrue trivial

/-- **No call but a seek takes a buffer out of its reader's service.** -/
theorem Serves.change {b' : Buffer} {call : Call} {effects : List Effect}
    (h : Change b call b' effects) (hb : b.Serves p) (hp : p < UInt64.size)
    (hcall : call.KeepsReader p) : b'.Serves p := by
  have hsound : b'.Sound := hb.toSound.change h
  cases h with
  | declined => exact hb
  | began _ idle => exact absurd idle hb.underway
  | stayed position live inReach =>
    obtain rfl : position = p := hcall
    exact ⟨hsound, rfl, hb.underway, hb.ahead, hb.delivered⟩
  | moved position live restart =>
    obtain rfl : position = p := hcall
    have hstart := b.cache.geometry.startOf_blockOf_le position
    exact ⟨hsound, rfl, nofun, hstart, fun hpassed => absurd hpassed (Nat.not_lt.2 hstart)⟩
  | stopped => exact ⟨hsound, hb.reader, hb.underway, hb.ahead, hb.delivered⟩
  | headed fetch head =>
    refine ⟨hsound, ?_, ?_, ?_, ?_⟩
    · dsimp only
      rw [readerBlock_accept, cache_accept]
      exact hb.reader
    · dsimp only
      rw [phase_accept]
      exact hb.underway
    · dsimp only
      rw [start_accept]
      exact hb.ahead
    · dsimp only
      rw [frontier_accept, cache_accept]
      exact hb.delivered
  | stored fetch bytes => exact (hb.store bytes).trim hp
  | ended fetch status =>
    refine ⟨hsound, hb.reader, ?_, hb.ahead, hb.delivered⟩
    cases status <;> exact nofun

theorem Serves.step (hb : b.Serves p) (hp : p < UInt64.size) {call : Call}
    (hcall : call.KeepsReader p) : (b.step call).1.Serves p :=
  hb.change (change_step b call) hp hcall

/-- **No call but a seek evicts a block that the reader has pinned.** -/
theorem Serves.contains_change {b' : Buffer} {call : Call} {effects : List Effect}
    (h : Change b call b' effects) (hb : b.Serves p) {id : Nat}
    (hlo : b.cache.geometry.blockOf p ≤ id)
    (hhi : id ≤ b.cache.geometry.blockOf p + b.settings.pinnedBlocks) (hid : id < UInt64.size)
    (hin : b.cache.contains id = true) : b'.cache.contains id = true := by
  cases h with
  | headed fetch head =>
    dsimp only
    rw [cache_accept]
    exact hin
  | stored fetch bytes =>
    have hgeom : (b.store bytes).cache.geometry = b.cache.geometry := by
      rw [cache_store, Cache.geometry_ingest]
    have hkept : (b.store bytes).trim.cache.block? id = (b.store bytes).cache.block? id :=
      (hb.store bytes).block?_trim (hgeom ▸ hlo) (hgeom ▸ hhi) hid
    rw [Cache.contains, hkept, cache_store]
    exact (Cache.contains_ingest hb.sized hb.writable _ id).2 (.inl hin)
  | _ => exact hin

/-! ## Runs -/

theorem Serves.after (hb : b.Serves p) (hp : p < UInt64.size) (calls : List Call)
    (hcalls : ∀ call ∈ calls, call.KeepsReader p) : (b.after calls).Serves p := by
  induction calls generalizing b with
  | nil => exact hb
  | cons call rest ih =>
    have hnext := hb.step hp (hcalls call List.mem_cons_self)
    exact ih hnext fun other hin => hcalls other (List.mem_cons_of_mem _ hin)

/-- **What the reader has pinned is never evicted** as long as it stays the reader. -/
theorem Serves.contains_after (hb : b.Serves p) (hp : p < UInt64.size) (calls : List Call)
    (hcalls : ∀ call ∈ calls, call.KeepsReader p) {id : Nat}
    (hlo : b.cache.geometry.blockOf p ≤ id)
    (hhi : id ≤ b.cache.geometry.blockOf p + b.settings.pinnedBlocks) (hid : id < UInt64.size)
    (hin : b.cache.contains id = true) : (b.after calls).cache.contains id = true := by
  induction calls generalizing b with
  | nil => exact hin
  | cons call rest ih =>
    have hchange := change_step b call
    have hnext := hb.step hp (hcalls call List.mem_cons_self)
    -- The range is the same one after the call: geometry and settings stay.
    have hstays := hb.contains_change hchange hlo hhi hid hin
    rw [← geometry_change hchange] at hlo hhi
    rw [← settings_change hchange] at hhi
    exact ih hnext (fun other hmem => hcalls other (List.mem_cons_of_mem _ hmem)) hlo hhi hstays

/-- The byte a reader waits for can be copied as soon as the frontier has passed it. -/
theorem Serves.fill (hb : b.Serves p) (hpassed : p < b.window.frontier) {destination : Bytes}
    (hroom : destination ≠ []) :
    ∃ count out, b.fill p destination = (some count, out) ∧ 0 < count := by
  have hsome := (isSome_fill_iff hb.sized).2 ⟨hroom, hb.delivered hpassed⟩
  obtain ⟨count, hcount⟩ := Option.isSome_iff_exists.1 hsome
  have hfill : b.fill p destination = (some count, (b.fill p destination).2) := Prod.ext hcount rfl
  exact ⟨count, _, hfill, (count_of_fill hfill).1⟩

/-- A reader that is served need not have the transfer restarted. -/
theorem Serves.needsRestart (hb : b.Serves p) (hpassed : p < b.window.frontier) :
    b.needsRestart p = false := by
  have hahead := hb.ahead
  have hbehind : b.window.isBehind p = true := decide_eq_true hpassed
  have hcovers : b.cache.covers p = true :=
    (Cache.covers_iff hb.sized p).2 (hb.delivered hpassed)
  have hreach : b.window.isOutOfReach p b.settings.maxLookahead = false := by
    simp only [FetchWindow.isOutOfReach, Bool.or_eq_false_iff, decide_eq_false_iff_not]
    omega
  have hphase : (b.window.phase == .idle) = false := by simpa using hb.underway
  rw [Buffer.needsRestart, hphase, hreach, isMissing, FetchWindow.isStalledAt, hbehind, hcovers]
  rfl

/-- A reader that is served and seeks again changes nothing but its own place. -/
theorem Serves.step_seek (hb : b.Serves p) (live : b.stopped = false)
    (hpassed : p < b.window.frontier) : b.step (.seek p) = (b.readerAt p, []) := by
  have hneeds : ({ b with readerBlock := some (b.cache.geometry.blockOf p) } :
      Buffer).needsRestart p = false := hb.needsRestart hpassed
  show (b.seek p).2 = _
  unfold Buffer.seek
  rw [if_neg (by rw [live]; exact Bool.false_ne_true)]
  dsimp only
  rw [if_neg (by rw [hneeds]; exact Bool.false_ne_true)]
  rfl

end ReadAhead.Buffer
