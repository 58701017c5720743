/-
When a seek starts another transfer. A buffer decides this from the window and the
cache, and its reader learns about both through `fill` only; so the decision is worth
nothing unless the two agree: a missed restart is a reader that waits for ever, and one
too many is a resource fetched again and again.

The agreement has two halves. `needsRestart_iff` says when the decision is to restart,
and `served_of_needsRestart_eq_false` what a reader may hope for when it is not: the
byte is there, or the transfer is on its way to it, or nothing can bring it as far as
anybody knows.

That no transfer was ever started is a statement about effects, not about the window.
`idle_iff_after` ties the two together along a run.
-/
import ReadAhead.Proofs.Buffer.Step
import ReadAhead.Proofs.Buffer.Fill

set_option autoImplicit false

namespace ReadAhead.Buffer

/-! ## Transfers that were started -/

/-- The transfer that an effect starts. -/
def Effect.request? : Effect → Option Request
  | .start request => some request
  | .cancel _ | .initialized _ | .ended => none

/-- The transfers that effects start, in order. -/
def requests (effects : List Effect) : List Request := effects.filterMap Effect.request?

theorem requests_append (effects later : List Effect) :
    requests (effects ++ later) = requests effects ++ requests later :=
  List.filterMap_append

/-- One transfer is started, and it is numbered on. -/
theorem requests_fetchFrom (b : Buffer) (position : Nat) :
    requests (b.fetchFrom position).2 = [.rangeFrom (b.window.attempt + 1) b.url position] := by
  rw [fetchFrom]
  cases b.handle <;> rfl

theorem effects_run_cons (b : Buffer) (call : Call) (rest : List Call) :
    (b.run (call :: rest)).2 = (b.step call).2 ++ ((b.step call).1.run rest).2 := rfl

theorem effects_run_append (b : Buffer) (calls later : List Call) :
    (b.run (calls ++ later)).2 = (b.run calls).2 ++ ((b.after calls).run later).2 := by
  induction calls generalizing b with
  | nil => rfl
  | cons call rest ih =>
    rw [List.cons_append, effects_run_cons, effects_run_cons, after_cons, ih, List.append_assoc]

/-- **A window is idle after a call exactly if it was before and no transfer was
started.** Transfers end, but a window that began once is never idle again. -/
theorem idle_iff_change {b b' : Buffer} {call : Call} {effects : List Effect}
    (h : Change b call b' effects) :
    b'.window.phase = .idle ↔ b.window.phase = .idle ∧ requests effects = [] := by
  cases h with
  | began =>
    rw [requests_fetchFrom]
    refine ⟨?_, fun h => absurd h.2 (List.cons_ne_nil _ _)⟩
    rintro ⟨⟩
  | moved =>
    rw [requests_fetchFrom]
    refine ⟨?_, fun h => absurd h.2 (List.cons_ne_nil _ _)⟩
    rintro ⟨⟩
  | headed fetch head =>
    dsimp only
    rw [phase_accept]
    cases b.initialized <;> exact (and_iff_left rfl).symm
  | stored fetch bytes =>
    rw [window_trim]
    exact (and_iff_left rfl).symm
  | ended fetch status heeded =>
    -- Signals are heeded only once a transfer began.
    have hbegan : b.window.phase ≠ .idle := by
      rw [ignores, Bool.or_eq_false_iff, Bool.not_eq_false', FetchWindow.isCurrent,
        Bool.and_eq_true, bne_iff_ne] at heeded
      exact heeded.2.1
    refine ⟨?_, fun h => absurd h.1 hbegan⟩
    cases status <;> rintro ⟨⟩
  | _ => exact (and_iff_left rfl).symm

/-- **A window is idle after a run exactly if no transfer was started on it.** -/
theorem idle_iff_after (b : Buffer) (calls : List Call) :
    (b.after calls).window.phase = .idle ↔
      b.window.phase = .idle ∧ requests (b.run calls).2 = [] := by
  induction calls generalizing b with
  | nil => exact (and_iff_left rfl).symm
  | cons call rest ih =>
    rw [after_cons, ih, idle_iff_change (change_step b call), effects_run_cons, requests_append,
      List.append_eq_nil_iff, and_assoc]

/-! ## The decision -/

section

variable {b : Buffer} {p : Nat}

theorem isPastEnd_eq_false_iff {w : FetchWindow} :
    w.isPastEnd p = false ↔ ∀ total, w.total = some total → p < total := by
  rw [FetchWindow.isPastEnd]
  cases w.total <;> simp

theorem endedShort_eq_true_iff {w : FetchWindow} :
    w.endedShort = true ↔ w.phase = .failed ∨
      w.phase = .completed ∧ ∃ total, w.total = some total ∧ w.frontier < total := by
  rw [FetchWindow.endedShort]
  cases w.phase <;> cases w.total <;> simp

theorem isStalledAt_iff {w : FetchWindow} :
    w.isStalledAt p = true ↔ w.frontier ≤ p ∧ (∀ total, w.total = some total → p < total) ∧
      (w.phase = .failed ∨
        w.phase = .completed ∧ ∃ total, w.total = some total ∧ w.frontier < total) := by
  rw [FetchWindow.isStalledAt, Bool.and_eq_true, Bool.and_eq_true, Bool.not_eq_true',
    Bool.not_eq_true', isPastEnd_eq_false_iff, endedShort_eq_true_iff, FetchWindow.isBehind,
    decide_eq_false_iff_not, Nat.not_lt, and_assoc]

theorem isOutOfReach_iff {w : FetchWindow} {lookahead : Nat} :
    w.isOutOfReach p lookahead = true ↔ p < w.start ∨ w.frontier + lookahead < p := by
  rw [FetchWindow.isOutOfReach, Bool.or_eq_true, decide_eq_true_iff, decide_eq_true_iff,
    Nat.lt_sub_iff_add_lt, Nat.add_comm lookahead]

/-- A position is missing if the frontier has passed it and nothing can be copied. -/
theorem isMissing_iff (hs : b.cache.Sized) (byte : UInt8) :
    b.isMissing p = true ↔ p < b.window.frontier ∧ (b.fill p [byte]).1 = none := by
  have hcovered : b.cache.covers p = true ↔ (b.fill p [byte]).1.isSome = true := by
    rw [isSome_fill_iff hs, Cache.covers_iff hs]
    exact (and_iff_right (List.cons_ne_nil _ _)).symm
  rw [isMissing, Bool.and_eq_true, FetchWindow.isBehind, decide_eq_true_iff, Bool.not_eq_true',
    ← Option.not_isSome_iff_eq_none, ← hcovered, Bool.not_eq_true]

/-- **When a reader needs another transfer.** The last two cases are those of a
position that the transfer has passed without a trace of it, and of one that it ended
short of. -/
theorem needsRestart_iff (hs : b.cache.Sized) (byte : UInt8) :
    b.needsRestart p = true ↔ b.window.phase = .idle ∨ p < b.window.start ∨
      b.window.frontier + b.settings.maxLookahead < p ∨
      (b.window.start ≤ p ∧ p < b.window.frontier ∧ (b.fill p [byte]).1 = none) ∨
      (b.window.frontier ≤ p ∧ (∀ total, b.size? = some total → p < total) ∧
        (b.window.phase = .failed ∨ b.window.phase = .completed ∧
          ∃ total, b.size? = some total ∧ b.window.frontier < total)) := by
  rw [needsRestart, Bool.or_eq_true, Bool.or_eq_true, Bool.or_eq_true, beq_iff_eq,
    isStalledAt_iff, isOutOfReach_iff, isMissing_iff hs byte]
  constructor
  · rintro (((hidle | hstalled) | hbefore | hbeyond) | hmissing)
    · exact .inl hidle
    · exact .inr (.inr (.inr (.inr hstalled)))
    · exact .inr (.inl hbefore)
    · exact .inr (.inr (.inl hbeyond))
    · -- In front of the window's start the position is out of reach in any case.
      rcases Nat.lt_or_ge p b.window.start with hbefore | hstart
      · exact .inr (.inl hbefore)
      · exact .inr (.inr (.inr (.inl ⟨hstart, hmissing⟩)))
  · rintro (hidle | hbefore | hbeyond | ⟨-, hmissing⟩ | hstalled)
    · exact .inl (.inl (.inl hidle))
    · exact .inl (.inr (.inl hbefore))
    · exact .inl (.inr (.inr hbeyond))
    · exact .inr hmissing
    · exact .inl (.inl (.inr hstalled))

/-- **What a reader may hope for where no other transfer is needed.** -/
theorem served_of_needsRestart_eq_false (hs : b.cache.Sized) (h : b.needsRestart p = false)
    (byte : UInt8) :
    (b.fill p [byte]).1 = some 1 ∨
      (b.window.phase = .fetching ∧ b.window.frontier ≤ p ∧
        p ≤ b.window.frontier + b.settings.maxLookahead) ∨
      (∃ total, b.size? = some total ∧ total ≤ p) ∨
      (b.window.phase = .completed ∧ b.size? = none) := by
  have hnone := mt (needsRestart_iff hs byte).2 (by simpa using h)
  simp only [not_or] at hnone
  obtain ⟨hbegan, hstart, hnear, hthere, hgoing⟩ := hnone
  rcases Nat.lt_or_ge p b.window.frontier with hbehind | hahead
  · have hsome : (b.fill p [byte]).1.isSome = true :=
      Option.isSome_iff_ne_none.2 fun hmissing =>
        hthere ⟨Nat.not_lt.1 hstart, hbehind, hmissing⟩
    exact .inl ((fill_singleton_iff hs byte).2 ((isSome_fill_iff hs).1 hsome).2)
  · right
    by_cases hend : ∃ total, b.size? = some total ∧ total ≤ p
    · exact .inr (.inl hend)
    · have hinside : ∀ total, b.size? = some total → p < total := fun total htotal =>
        Nat.not_le.1 fun hle => hend ⟨total, htotal, hle⟩
      have hgoes := fun hshort => hgoing ⟨hahead, hinside, hshort⟩
      cases hphase : b.window.phase with
      | idle => exact absurd hphase hbegan
      | fetching => exact .inl ⟨rfl, hahead, Nat.not_lt.1 hnear⟩
      | failed => exact absurd (.inl hphase) hgoes
      | completed =>
        -- With the size known, the transfer would have ended short of the position.
        refine .inr (.inr ⟨rfl, ?_⟩)
        cases hsize : b.size? with
        | none => rfl
        | some total =>
          have hlt := hinside total hsize
          exact absurd (.inr ⟨hphase, total, hsize, by omega⟩) hgoes

theorem seek_of_live (live : b.stopped = false) (p : Nat) :
    b.seek p = if b.needsRestart p then
      (true, (b.readerAt p).fetchFrom (b.cache.geometry.startOf (b.cache.geometry.blockOf p)))
      else (false, b.readerAt p, []) := by
  rw [seek, if_neg (by simp [live])]
  rfl

/-- What a seek says is what was decided. -/
theorem fst_seek (live : b.stopped = false) (p : Nat) : (b.seek p).1 = b.needsRestart p := by
  rw [seek_of_live live]
  cases b.needsRestart p <;> rfl

end

/-! ## The decision on a run -/

/-- **A seek starts another transfer exactly if it has to.** On any run and for any
position: it does if none was ever started, if the current one begins behind the
position or would take too long to get there, if it has passed the position and nothing
can be copied from there, or if it ended short of a position that lies inside the
resource as far as its size is known.

The new transfer begins where the position's block does, and nothing that is known or
cached is lost. Without one nothing changes, and either the byte can be copied at once,
or it is on its way, or no transfer is known to bring it. -/
theorem seek_restarts_iff (url : Url) (settings : BufferSettings) {cache : Cache}
    (sized : cache.Sized) (calls : List Call)
    (live : ((withCache url settings cache).after calls).stopped = false) (p : Nat)
    (byte : UInt8) :
    let fresh := withCache url settings cache
    let b := fresh.after calls
    let b' := (b.seek p).2.1
    ((b.seek p).1 = true ↔ requests (fresh.run calls).2 = [] ∨ p < b.window.start ∨
        b.window.frontier + settings.maxLookahead < p ∨
        (b.window.start ≤ p ∧ p < b.window.frontier ∧ (b.fill p [byte]).1 = none) ∨
        (b.window.frontier ≤ p ∧ (∀ total, b.size? = some total → p < total) ∧
          (b.window.phase = .failed ∨ b.window.phase = .completed ∧
            ∃ total, b.size? = some total ∧ b.window.frontier < total))) ∧
      ((b.seek p).1 = true →
        requests (b.seek p).2.2 = [.rangeFrom (b.window.attempt + 1) b.url
          (cache.geometry.startOf (cache.geometry.blockOf p))] ∧
        b'.window.start = cache.geometry.startOf (cache.geometry.blockOf p) ∧
        b'.window.offset = 0 ∧ b'.window.phase = .fetching ∧
        b'.size? = b.size? ∧ b'.cache = b.cache) ∧
      ((b.seek p).1 = false →
        (b.seek p).2.2 = [] ∧ b'.window = b.window ∧ b'.response = b.response ∧
        b'.cache = b.cache ∧
        ((b'.fill p [byte]).1 = some 1 ∨
          (b.window.phase = .fetching ∧ b.window.frontier ≤ p ∧
            p ≤ b.window.frontier + settings.maxLookahead) ∨
          (∃ total, b.size? = some total ∧ total ≤ p) ∨
          (b.window.phase = .completed ∧ b.size? = none))) := by
  intro fresh b b'
  have hs : b.cache.Sized := ((sound_withCache url settings sized).after calls).sized
  have hgeometry : b.cache.geometry = cache.geometry := geometry_after fresh calls
  have hsettings : b.settings = settings := settings_after fresh calls
  have hidle : b.window.phase = .idle ↔ requests (fresh.run calls).2 = [] := by
    rw [idle_iff_after fresh calls]
    exact and_iff_right rfl
  refine ⟨?_, fun hmoved => ?_, fun hstayed => ?_⟩
  · rw [fst_seek live, needsRestart_iff hs byte, hidle, hsettings]
  · rw [fst_seek live] at hmoved
    have hseek : b.seek p = (true, (b.readerAt p).fetchFrom
        (b.cache.geometry.startOf (b.cache.geometry.blockOf p))) := by
      rw [seek_of_live live, if_pos hmoved]
    rw [show b' = (b.seek p).2.1 from rfl, hseek, requests_fetchFrom, ← hgeometry]
    exact ⟨rfl, rfl, rfl, rfl, rfl, rfl⟩
  · rw [fst_seek live] at hstayed
    have hserved := served_of_needsRestart_eq_false hs hstayed byte
    rw [hsettings] at hserved
    have hseek : b.seek p = (false, b.readerAt p, []) := by
      rw [seek_of_live live, hstayed]
      rfl
    rw [show b' = (b.seek p).2.1 from rfl, hseek]
    exact ⟨rfl, rfl, rfl, rfl, hserved⟩

/-- A transfer of twelve bytes that failed after six: the position it ended at is asked
for again, from the start of its block, and a position it has passed can be copied. -/
theorem seek_restarts_iff_failed_transfer :
    let url : Url := ⟨[], [], [], none, none, .rigid [], none, none⟩
    let calls : List Call :=
      [.begin, .deliver 1 (.head ⟨206, some 12, some ⟨0, 11, some 12⟩⟩),
        .deliver 1 (.bytes [10, 11, 12, 13, 14, 15]), .deliver 1 (.ended (.failed "reset"))]
    let b := (withCache url ⟨2, 2, 4, 0⟩ (.empty "" ⟨2⟩ 8)).after calls
    b.stopped = false ∧ (b.seek 6).1 = true ∧
      requests (b.seek 6).2.2 = [.rangeFrom 2 url 4] ∧
      (b.seek 2).1 = false ∧ ((b.seek 2).2.1.fill 2 [0]).1 = some 1 := by
  intro url calls b
  have live : b.stopped = false := by decide
  have hsize : b.size? = some 12 := by decide
  have hattempt : b.window.attempt = 1 := by decide
  have hurl : b.url = url := by decide
  have sized := Cache.sized_empty "" ⟨2⟩ 8
  obtain ⟨hdecision, hmoved, -⟩ := seek_restarts_iff url ⟨2, 2, 4, 0⟩ sized calls live 6 0
  obtain ⟨-, -, hstayed⟩ := seek_restarts_iff url ⟨2, 2, 4, 0⟩ sized calls live 2 0
  have htrue : (b.seek 6).1 = true := by
    refine hdecision.2 (.inr (.inr (.inr (.inr ⟨by decide, ?_, .inl (by decide)⟩))))
    intro total htotal
    obtain rfl := Option.some.inj (hsize.symm.trans htotal)
    decide
  have hfalse : (b.seek 2).1 = false := by decide
  have hrequest := (hmoved htrue).1
  rw [hattempt, hurl] at hrequest
  refine ⟨live, htrue, hrequest, hfalse, ?_⟩
  -- The transfer failed and the size is known, so the byte has to be there.
  obtain ⟨-, -, -, -, hfill | ⟨hfetching, -⟩ | ⟨total, htotal, hle⟩ | ⟨-, hnone⟩⟩ := hstayed hfalse
  · exact hfill
  · exact absurd hfetching (by decide)
  · obtain rfl := Option.some.inj (hsize.symm.trans htotal)
    exact absurd hle (by decide)
  · exact absurd hnone (by decide)

end ReadAhead.Buffer
