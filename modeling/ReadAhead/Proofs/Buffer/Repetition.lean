/-
A seek repeated. A reader that found nothing announces its position again before it looks
again, so what the second seek does decides whether a slow transfer is waited for or thrown
away.

Where the first seek started nothing, the second one finds the same window and starts
nothing either. Where it did, the new transfer begins at the start of the position's block,
and the position is as far ahead of it as it lies in its block. Nothing asks the lookahead
to reach across a block: where it does not, the transfer that was started for a position is
out of the position's reach, and every further seek starts it again.
-/
import ReadAhead.Proofs.Buffer.Restart

set_option autoImplicit false

namespace ReadAhead.Buffer

variable {b : Buffer} {p : Nat}

/-! ## The transfer a seek starts -/

/-- **A transfer from the start of a position's block will do for the position** exactly if
the lookahead is as long as the way from there to the position. -/
theorem needsRestart_fetchFrom_iff (b : Buffer) (p : Nat) :
    (b.fetchFrom (b.cache.geometry.startOf (b.cache.geometry.blockOf p))).1.needsRestart p = true ↔
      b.settings.maxLookahead < b.cache.geometry.offsetOf p := by
  have hsplit := b.cache.geometry.startOf_add_offsetOf p
  generalize b.cache.geometry.startOf (b.cache.geometry.blockOf p) = start at hsplit ⊢
  let fresh := (b.fetchFrom start).1
  have hphase : fresh.window.phase = .fetching := rfl
  have hfrontier : fresh.window.frontier = start := Nat.add_zero start
  -- A transfer that has just begun has not ended, and has passed nothing.
  have hstalled : fresh.window.isStalledAt p = false := by
    rw [FetchWindow.isStalledAt, FetchWindow.endedShort, hphase, Bool.and_false]
  have hmissing : fresh.isMissing p = false := by
    have hahead : ¬ p < start := by omega
    rw [isMissing, FetchWindow.isBehind, hfrontier, decide_eq_false hahead, Bool.false_and]
  have hneeds : fresh.needsRestart p = fresh.window.isOutOfReach p b.settings.maxLookahead := by
    rw [needsRestart, hphase, hstalled, hmissing, Bool.or_false]
    rfl
  rw [show (b.fetchFrom start).1.needsRestart p = _ from hneeds, isOutOfReach_iff, hfrontier]
  show p < start ∨ _ ↔ _
  omega

/-! ## Two seeks -/

theorem stopped_seek (live : b.stopped = false) (p : Nat) : (b.seek p).2.1.stopped = false := by
  have hcall : Call.seek p ≠ .stop := nofun
  exact (stopped_step b hcall).trans live

/-- A seek that starts a transfer starts it where the position's block begins. -/
theorem start_seek (live : b.stopped = false) (restarts : b.needsRestart p = true) :
    (b.seek p).2.1.window.start = b.cache.geometry.startOf (b.cache.geometry.blockOf p) := by
  rw [seek_of_live live, if_pos restarts]
  rfl

/-- **When a position needs another transfer after a seek to it**: when it did before, and
the lookahead does not reach from the start of its block. -/
theorem needsRestart_seek_iff (live : b.stopped = false) (p : Nat) :
    (b.seek p).2.1.needsRestart p = true ↔
      b.needsRestart p = true ∧ b.settings.maxLookahead < b.cache.geometry.offsetOf p := by
  rw [seek_of_live live]
  by_cases hmoves : b.needsRestart p = true
  · rw [if_pos hmoves, and_iff_right hmoves]
    exact needsRestart_fetchFrom_iff (b.readerAt p) p
  · rw [if_neg hmoves]
    -- Where the reader is has no part in the decision.
    refine iff_of_false ?_ fun h => hmoves h.1
    exact hmoves

/-- A seek that follows one to the same position, and starts nothing, changes nothing. -/
theorem seek_seek_of_not_needsRestart (live : b.stopped = false)
    (stays : (b.seek p).2.1.needsRestart p = false) :
    (b.seek p).2.1.seek p = (false, (b.seek p).2.1, []) := by
  have hreader : (b.seek p).2.1.readerAt p = (b.seek p).2.1 := by
    rw [seek_of_live live]
    split <;> rfl
  rw [seek_of_live (stopped_seek live p), stays, hreader]
  rfl

/-! ## Any number of seeks -/

/-- A call that changes nothing and has no effects can be repeated. -/
theorem run_replicate_of_step (call : Call) (same : b.step call = (b, [])) (n : Nat) :
    b.run (List.replicate n call) = (b, []) := by
  induction n with
  | zero => rfl
  | succ n ih =>
    rw [List.replicate_succ, run, same]
    dsimp only
    rw [ih]
    rfl

/-- **Where the lookahead is too short, every seek starts a transfer.** The induction is
on the seeks; each of them leaves the position as far ahead as the one before. -/
theorem length_requests_replicate_seek (live : b.stopped = false)
    (restarts : b.needsRestart p = true)
    (short : b.settings.maxLookahead < b.cache.geometry.offsetOf p) (n : Nat) :
    (requests (b.run (List.replicate n (.seek p))).2).length = n := by
  induction n generalizing b with
  | zero => rfl
  | succ n ih =>
    have hchange := change_step b (.seek p)
    have hagain : (b.step (.seek p)).1.needsRestart p = true :=
      (needsRestart_seek_iff live p).2 ⟨restarts, short⟩
    have hone : (requests (b.step (.seek p)).2).length = 1 := by
      rw [step, seek_of_live live, if_pos restarts, requests_fetchFrom, List.length_singleton]
    rw [← settings_change hchange, ← geometry_change hchange] at short
    have hrest := ih (b := (b.step (.seek p)).1) (stopped_seek live p) hagain short
    rw [List.replicate_succ, effects_run_cons, requests_append, List.length_append, hone, hrest,
      Nat.add_comm]

/-! ## Usable settings -/

/-- **Usable settings make a cache**, whose blocks have the size that the settings name. -/
theorem cache_of_validate (label : String) {settings : Settings}
    (valid : settings.validate = .ok settings) :
    Geometry.size ⟨settings.buffer.blockShift⟩ = settings.buffer.blockSize ∧
      Cache.new label settings.buffer.blockShift settings.buffer.maxCacheBytes =
        .ok (.empty label ⟨settings.buffer.blockShift⟩ settings.buffer.maxCacheBytes) := by
  obtain ⟨hshift, hmax, hbudget, -⟩ :=
    Settings.fault?_eq_none_iff.1 (Settings.validate_eq_ok_iff.1 valid).2
  have hsize : Geometry.size ⟨settings.buffer.blockShift⟩ = settings.buffer.blockSize := by
    rw [Geometry.size, BufferSettings.blockSize, Nat.min_eq_left (by omega)]
  exact ⟨hsize, Cache.new_eq_ok hshift hmax (hsize ▸ hbudget)⟩

/-- **Usable settings make a buffer** on such a cache. -/
theorem new_of_validate (url : Url) {settings : Settings}
    (valid : settings.validate = .ok settings) :
    ∃ cache : Cache, cache.geometry.size = settings.buffer.blockSize ∧
      new url settings.buffer = .ok (withCache url settings.buffer cache) := by
  obtain ⟨hsize, hcache⟩ := cache_of_validate url.text valid
  refine ⟨.empty url.text ⟨settings.buffer.blockShift⟩ settings.buffer.maxCacheBytes, hsize, ?_⟩
  rw [new, hcache]
  rfl

/-- **When a seek that follows one to the same position starts another transfer.** For any
usable settings, on any run of a buffer made from them, and for any position: exactly if the
first of the two did, and the position lies more than the lookahead behind the start of its
block. Otherwise nothing changes and nothing happens, however often the seek is repeated.
Where another transfer is started, it begins where the one before did, and every further
seek starts one more. -/
theorem seek_again_restarts_iff (url : Url) {settings : Settings}
    (valid : settings.validate = .ok settings) :
    ∃ fresh : Buffer, new url settings.buffer = .ok fresh ∧
      ∀ (calls : List Call) (p : Nat),
        let b := fresh.after calls
        let once := b.seek p
        let again := once.2.1.seek p
        let repeated (n : Nat) := once.2.1.run (List.replicate n (.seek p))
        b.stopped = false →
          (again.1 = true ↔ once.1 = true ∧
            settings.buffer.maxLookahead < p % settings.buffer.blockSize) ∧
          (again.1 = false → again.2 = (once.2.1, []) ∧ ∀ n, repeated n = (once.2.1, [])) ∧
          (again.1 = true → again.2.1.window.start = once.2.1.window.start ∧
            ∀ n, (requests (repeated n).2).length = n) := by
  obtain ⟨cache, hsize, hnew⟩ := new_of_validate url valid
  refine ⟨_, hnew, fun calls p => ?_⟩
  intro b once again repeated live
  have hgeometry : b.cache.geometry = cache.geometry := geometry_after _ calls
  have hsettings : b.settings = settings.buffer := settings_after _ calls
  have hoffset : b.cache.geometry.offsetOf p = p % settings.buffer.blockSize := by
    rw [Geometry.offsetOf, hgeometry, hsize]
  have honce : once.1 = b.needsRestart p := fst_seek live p
  have hagain : again.1 = once.2.1.needsRestart p := fst_seek (stopped_seek live p) p
  have hiff := needsRestart_seek_iff live p
  refine ⟨?_, fun hstays => ?_, fun hmoves => ?_⟩
  · rw [hagain, honce, ← hoffset, ← hsettings]
    exact hiff
  · rw [hagain] at hstays
    have hseek : again = (false, once.2.1, []) := seek_seek_of_not_needsRestart live hstays
    have hstep : once.2.1.step (.seek p) = (once.2.1, []) := congrArg Prod.snd hseek
    exact ⟨hstep, run_replicate_of_step _ hstep⟩
  · rw [hagain] at hmoves
    have hchange := change_step b (.seek p)
    have hplace := geometry_change hchange
    have hreach := settings_change hchange
    obtain ⟨hfirst, hshort⟩ := hiff.1 hmoves
    rw [← hplace, ← hreach] at hshort
    refine ⟨?_, fun n => length_requests_replicate_seek (stopped_seek live p) hmoves hshort n⟩
    -- Both transfers begin where the position's block does.
    have hbegin := start_seek (stopped_seek live p) hmoves
    rw [show once.2.1.cache.geometry = _ from hplace] at hbegin
    exact hbegin.trans (start_seek live hfirst).symm

/-- A lookahead of two bytes and blocks of eight: the byte at 10 is waited for, and the one
at 13 is asked for anew with every seek. -/
theorem seek_again_restarts_iff_short_lookahead :
    let url : Url := ⟨[], [], [], none, none, .rigid [], none, none⟩
    let settings : Settings := { Settings.standard with buffer := ⟨3, 2, 64, 0⟩ }
    settings.validate = .ok settings ∧
      ∃ fresh : Buffer, new url settings.buffer = .ok fresh ∧
        ((fresh.seek 10).2.1.seek 10).2 = ((fresh.seek 10).2.1, []) ∧
        (requests ((fresh.seek 13).2.1.run (List.replicate 5 (.seek 13))).2).length = 5 := by
  intro url settings
  have valid : settings.validate = .ok settings :=
    Settings.validate_eq_ok_iff.2 ⟨rfl, by decide⟩
  obtain ⟨fresh, hnew, hseeks⟩ := seek_again_restarts_iff url valid
  refine ⟨valid, fresh, hnew, ?_⟩
  have hfresh : fresh = withCache url settings.buffer (.empty url.text ⟨3⟩ 64) := by
    rw [new, Cache.new_eq_ok (by decide) (by decide) (by decide)] at hnew
    exact (Except.ok.inj hnew).symm
  have live : fresh.stopped = false := by rw [hfresh]; rfl
  obtain ⟨hnear, hstays, -⟩ := hseeks [] 10 live
  obtain ⟨hfar, -, hmoves⟩ := hseeks [] 13 live
  constructor
  · refine (hstays ?_).1
    rw [← Bool.not_eq_true, hnear]
    rintro ⟨-, hlt⟩
    exact absurd hlt (by decide)
  · refine (hmoves (hfar.2 ⟨?_, by decide⟩)).2 5
    rw [hfresh]
    decide

/-- **Usable settings do not make a seek idempotent**: without a lookahead, a second seek to
a position inside a block starts the transfer of the first one again. -/
theorem seek_again_moves :
    let url : Url := ⟨[], [], [], none, none, .rigid [], none, none⟩
    let settings : Settings :=
      { Settings.standard with buffer := { BufferSettings.standard with maxLookahead := 0 } }
    let fresh := withCache url settings.buffer (.empty url.text ⟨16⟩ settings.buffer.maxCacheBytes)
    settings.validate = .ok settings ∧ new url settings.buffer = .ok fresh ∧
      fresh.stopped = false ∧ ((fresh.seek 5).2.1.seek 5).1 = true ∧
      ((fresh.seek 5).2.1.seek 5).2 ≠ ((fresh.seek 5).2.1, []) := by
  intro url settings fresh
  have hnew : new url settings.buffer = .ok fresh := by
    rw [new, Cache.new_eq_ok (by decide) (by decide) (by decide)]
    rfl
  have valid : settings.validate = .ok settings :=
    Settings.validate_eq_ok_iff.2 ⟨rfl, by decide⟩
  exact ⟨valid, hnew, rfl, by decide, by decide⟩

end ReadAhead.Buffer
