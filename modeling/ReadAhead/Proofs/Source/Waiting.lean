/-
What a read waits for. The look that is posted when a read is accepted announces its
position, and if the transfer of the time is of no use another one is started. After that
the read is looked after by looks that start nothing: so a transfer that ends while the read
waits is not replaced, and a read that it ended short of waits on, for bytes that nobody is
going to bring.

`Waits` says how a read can come to wait, in terms of what is known of its past: that it
was announced, and has waited for the same attempt since; and that a look has found since
that the attempt ended short of it. The looks are what makes the difference: the end of a
transfer posts one, so no read goes on waiting because nobody told it. The past of a read
is then found in the run, by where the run has to be cut.
-/
import ReadAhead.Proofs.Buffer.Notices
import ReadAhead.Proofs.Source.Docket
import ReadAhead.Proofs.Source.Trace
import Mathlib.Data.List.Induction

set_option autoImplicit false

namespace ReadAhead

/-! ## Windows -/

/-- An attempt from which bytes may be expected: it is on its way, or it ended and
nobody knows how long the resource is. -/
def FetchWindow.Promises (attempt : FetchId) (w : FetchWindow) : Prop :=
  w.attempt = attempt ∧ (w.phase = .fetching ∨ w.phase = .completed ∧ w.total = none)

/-- An attempt that ended short of a position inside the resource, as far as its size is
known. -/
def FetchWindow.EndsShort (attempt : FetchId) (position : Nat) (w : FetchWindow) : Prop :=
  w.attempt = attempt ∧ (w.phase = .completed ∨ w.phase = .failed) ∧ w.frontier ≤ position ∧
    ∀ total, w.total = some total → position < total

namespace Buffer

/-- Where no other transfer is needed for a position that lies ahead, the current one is
on its way, or it ended and nobody knows the size. -/
theorem promises_of_needsRestart_eq_false {b : Buffer} {p : Nat} (h : b.needsRestart p = false)
    (hahead : b.window.frontier ≤ p)
    (hinside : ∀ total, b.window.total = some total → p < total) :
    b.window.Promises b.window.attempt := by
  simp only [needsRestart, Bool.or_eq_false_iff] at h
  obtain ⟨⟨⟨hphase, hstalled⟩, -⟩, -⟩ := h
  have hgoes : ¬ (b.window.phase = .failed ∨
      b.window.phase = .completed ∧ ∃ total, b.window.total = some total ∧
        b.window.frontier < total) := fun hended =>
    absurd (isStalledAt_iff.2 ⟨hahead, hinside, hended⟩) (by simp [hstalled])
  refine ⟨rfl, ?_⟩
  cases hwindow : b.window.phase with
  | idle => simp [hwindow] at hphase
  | fetching => exact .inl rfl
  | failed => exact absurd (.inl hwindow) hgoes
  | completed =>
    refine .inr ⟨rfl, ?_⟩
    -- A known size would have the transfer end short of the position.
    cases htotal : b.window.total with
    | none => rfl
    | some total =>
      have hlt := hinside total htotal
      exact absurd (.inr ⟨hwindow, total, htotal, by omega⟩) hgoes

end Buffer

namespace RemoteSource

/-- A look that finds nothing finds the position inside the resource, as far as the size
is known. -/
theorem lt_total_of_look? {source : RemoteSource} {read : Read} (h : source.look? read = none) :
    ∀ total, source.buffer.window.total = some total → read.position < total := by
  rw [← Buffer.isPastEnd_eq_false_iff]
  unfold look? at h
  split at h
  · exact absurd h nofun
  · next hinside => simpa using hinside

namespace Docket

/-! ## The past of a read -/

/-- The source has the read waiting, and the window is like this. -/
def Pends (d : Docket) (read : Read) (P : FetchWindow → Prop) : Prop :=
  ∃ source, d.source = some source ∧ source.stopped = false ∧ source.pending = some read ∧
    P source.buffer.window

/-- What may be known of the past of reads. -/
structure Past where
  /-- The read was announced, and has waited for the attempt since. -/
  announced : Read → FetchId → Prop
  /-- Since it was announced, a look has found that the attempt ended short of it. -/
  missed : Read → FetchId → Prop

/-- What is known of the past before a change and behind it go together. -/
structure Past.Extends (past next : Past) (d : Docket) (given : Option Task) (e : Docket) :
    Prop where
  /-- A read that goes on waiting for the same attempt takes its past along. -/
  kept : ∀ read attempt, e.Pends read (·.attempt = attempt) →
    (past.announced read attempt → next.announced read attempt) ∧
      (past.missed read attempt → next.missed read attempt)
  announced : ∀ read attempt, given = some (.look true) → d.Pends read (fun _ => True) →
    e.Pends read (FetchWindow.Promises attempt) → next.announced read attempt
  missed : ∀ read attempt seek, given = some (.look seek) → d.Pends read (fun _ => True) →
    e.Pends read (FetchWindow.EndsShort attempt read.position) → next.announced read attempt →
      next.missed read attempt

/-! ## The invariant -/

/-- What can be said of a read that waits: the look that announces it is still to come; or
the buffer serves it, from an attempt that it had reason to wait for, and if that one is
over, then a look is to come, or one has found that it ended short. -/
def Waits (past : Past) (d : Docket) : Prop :=
  ∀ source read, d.source = some source → source.stopped = false →
    source.pending = some read → read.position < UInt64.size →
    .look true ∈ d.posted ∨
      source.buffer.Serves read.position ∧ past.announced read source.buffer.window.attempt ∧
        (source.buffer.window.phase = .fetching ∨ (∃ seek, .look seek ∈ d.posted) ∨
          past.missed read source.buffer.window.attempt)

section

variable {past next : Past} {d e : Docket} {given : Option Task}

/-- A source that has the same read waiting, and the same looks to come. -/
theorem Waits.of_same (h : d.Waits past) (hpast : past.Extends next d given e)
    (hsource : ∀ source, e.source = some source → source.stopped = false →
      source.pending ≠ none → ∃ old, d.source = some old ∧ old.stopped = false ∧
        source.pending = old.pending ∧ source.buffer = old.buffer)
    (hlooks : ∀ seek, .look seek ∈ d.posted → .look seek ∈ e.posted) : e.Waits next := by
  intro source read present live waits hp
  obtain ⟨old, hold, hlive, hpending, hbuffer⟩ := hsource source present live (by simp [waits])
  rcases h old read hold hlive (hpending.symm.trans waits) hp with
    hfirst | ⟨hserves, hannounced, hended⟩
  · exact .inl (hlooks true hfirst)
  · obtain ⟨hkept, hmissed⟩ := hpast.kept read old.buffer.window.attempt
      ⟨source, present, live, waits, by rw [hbuffer]⟩
    rw [hbuffer]
    refine .inr ⟨hserves, hkept hannounced, hended.imp_right (Or.imp ?_ hmissed)⟩
    rintro ⟨seek, hposted⟩
    exact ⟨seek, hlooks seek hposted⟩

/-- **A look that finds nothing** has either announced the read, or found where the
attempt ended. -/
theorem Waits.searched (h : d.Waits past) {source : RemoteSource} {read : Read} {seek : Bool}
    {left : Multiset Task} (handed : d.Handed (.look seek) left)
    (present : d.source = some source) (live : source.stopped = false)
    (waits : source.pending = some read) (sound : source.buffer.Sound)
    (running : source.buffer.stopped = false) (room : read.buffer ≠ [])
    (hnone : (Session.announced source read seek).look? read = none)
    (hpast : past.Extends next d (some (.look seek))
      { d with source := some (Session.announced source read seek), posted := left }) :
    Waits next
      { d with source := some (Session.announced source read seek), posted := left } := by
  intro other same present' _ waits' hp
  obtain rfl := Option.some.inj present'
  obtain rfl : read = same := Option.some.inj (waits.symm.trans waits')
  have hinside := lt_total_of_look? hnone
  have hbefore : d.Pends read fun _ => True := ⟨source, present, live, waits, trivial⟩
  -- Nothing is found, so the position lies ahead of everything that was delivered.
  have hahead : (Session.announced source read seek).buffer.Serves read.position →
      (Session.announced source read seek).buffer.window.frontier ≤ read.position := by
    intro hserves
    by_contra hpassed
    obtain ⟨count, found, hsome, -⟩ := Session.look?_of_serves hserves (Nat.not_le.1 hpassed) room
    exact absurd (hnone.symm.trans hsome) nofun
  have hended : (Session.announced source read seek).buffer.Serves read.position →
      next.announced read (Session.announced source read seek).buffer.window.attempt →
      (Session.announced source read seek).buffer.window.phase = .fetching ∨
        next.missed read (Session.announced source read seek).buffer.window.attempt := by
    intro hserves hannounced
    have hshort (hover : (Session.announced source read seek).buffer.window.phase = .completed ∨
        (Session.announced source read seek).buffer.window.phase = .failed) :
        next.missed read (Session.announced source read seek).buffer.window.attempt :=
      hpast.missed read _ seek rfl hbefore
        ⟨_, rfl, live, waits, rfl, hover, hahead hserves, hinside⟩ hannounced
    have hunder := hserves.underway
    cases hphase : (Session.announced source read seek).buffer.window.phase with
    | idle => exact absurd hphase hunder
    | fetching => exact .inl rfl
    | completed => exact .inr (hshort (.inl hphase))
    | failed => exact .inr (hshort (.inr hphase))
  cases seek with
  | false =>
    rcases h source read present live waits hp with hfirst | ⟨hserves, hannounced, -⟩
    · have hother : Task.look true ≠ Task.look false := by decide
      exact .inl ((handed.mem_iff hother).2 hfirst)
    · obtain ⟨hkept, -⟩ := hpast.kept read source.buffer.window.attempt
        ⟨_, rfl, live, waits, rfl⟩
      have hstill := hkept hannounced
      exact .inr ⟨hserves, hstill, (hended hserves hstill).imp_right .inr⟩
  | true =>
    have hserves : (Session.announced source read true).buffer.Serves read.position :=
      sound.seek running read.position
    have hpromises : (Session.announced source read true).buffer.window.Promises
        (Session.announced source read true).buffer.window.attempt := by
      have hbuffer : (Session.announced source read true).buffer =
          (source.buffer.seek read.position).2.1 := rfl
      have hfrontier := hahead hserves
      rw [hbuffer, Buffer.seek_of_live running] at hfrontier hinside ⊢
      split at hfrontier
      · next hrestart => exact ⟨rfl, .inl (by rw [if_pos hrestart]; rfl)⟩
      · next hstays =>
        rw [if_neg hstays] at hinside ⊢
        -- Where the reader is has no part in whether another transfer is needed.
        have hstill : (source.buffer.readerAt read.position).needsRestart read.position =
            false := by
          show source.buffer.needsRestart read.position = false
          simpa using hstays
        exact Buffer.promises_of_needsRestart_eq_false hstill hfrontier hinside
    have hannounced := hpast.announced read _ rfl hbefore ⟨_, rfl, live, waits, hpromises⟩
    exact .inr ⟨hserves, hannounced, (hended hserves hannounced).imp_right .inr⟩

/-- **A job of the I/O runner** leaves the attempt in its place, and if it brings its end
it has the read looked at. -/
theorem Waits.called (h : d.Waits past) {source : RemoteSource} {calls : List Buffer.Call}
    (present : d.source = some source) (routine : ∀ call ∈ calls, call.isRoutine = true)
    (hpast : past.Extends next d given
      { d with
        source := some { source with buffer := source.buffer.after calls }
        posted := ↑((source.buffer.run calls).2.filterMap Buffer.Effect.task?) + d.posted }) :
    Waits next
      { d with
        source := some { source with buffer := source.buffer.after calls }
        posted := ↑((source.buffer.run calls).2.filterMap Buffer.Effect.task?) + d.posted } := by
  intro other read present' live waits hp
  obtain rfl := Option.some.inj present'
  have hposted : ∀ seek, Task.look seek ∈ d.posted →
      Task.look seek ∈ (↑((source.buffer.run calls).2.filterMap Buffer.Effect.task?) + d.posted :
        Multiset Task) := fun seek hin => Multiset.mem_add.2 (.inr hin)
  rcases h source read present live waits hp with hfirst | ⟨hserves, hannounced, hended⟩
  · exact .inl (hposted true hfirst)
  · have hseek : ∀ call ∈ calls, ∀ position, call ≠ .seek position := by
      rintro call hin position rfl
      exact absurd (routine _ hin) Bool.false_ne_true
    have hsame : (source.buffer.after calls).window.attempt = source.buffer.window.attempt := by
      rw [Buffer.attempt_after, Buffer.requests_run_eq_nil calls hseek fun _ => hserves.underway]
      rfl
    obtain ⟨hkept, hmissed⟩ := hpast.kept read source.buffer.window.attempt
      ⟨_, rfl, live, waits, hsame⟩
    refine .inr ⟨hserves.after hp calls fun call hin =>
      Buffer.Call.keepsReader_of_isRoutine (routine call hin) _, ?_, ?_⟩
    · dsimp only
      rw [hsame]
      exact hkept hannounced
    · dsimp only
      rw [hsame]
      rcases hended with hfetching | ⟨seek, hin⟩ | hshort
      · refine (Buffer.fetching_run hfetching calls).imp_right fun hend => .inl ⟨false, ?_⟩
        exact Multiset.mem_add.2 (.inl (List.mem_filterMap.2 ⟨.ended, hend, rfl⟩))
      · exact .inr (.inl ⟨seek, hposted seek hin⟩)
      · exact .inr (.inr (hmissed hshort))

/-- **Every change leaves a read with something to wait for**, in the sense of `Waits`. -/
theorem Waits.change {m : Session.Move} (h : d.Waits past) (hc : Change d m given e)
    (healthy : ∀ source, d.source = some source →
      source.buffer.Sound ∧ source.buffer.stopped = source.stopped)
    (room : ∀ source read, d.source = some source → source.pending = some read → read.buffer ≠ [])
    (hpast : past.Extends next d given e) : e.Waits next := by
  -- A source that is stopped, or has nobody waiting, has nothing to show.
  have hidle : (∀ source, e.source = some source →
      source.stopped = true ∨ source.pending = none) → e.Waits next := by
    intro hnobody source read present live waits
    rcases hnobody source present with stopped | hnone
    · exact absurd (live.symm.trans stopped) Bool.false_ne_true
    · exact absurd (hnone.symm.trans waits) nofun
  -- Handing out a task that is no look leaves the looks where they are.
  have hhanded : ∀ {task : Task} {left : Multiset Task}, d.Handed task left →
      (∀ seek, Task.look seek ≠ task) → ∀ seek, .look seek ∈ d.posted → .look seek ∈ left :=
    fun handed hne seek hin => (handed.mem_iff (hne seek)).2 hin
  have hsame : ∀ source, d.source = some source → source.stopped = false → source.pending ≠ none →
      ∃ old, d.source = some old ∧ old.stopped = false ∧ source.pending = old.pending ∧
        source.buffer = old.buffer :=
    fun source present live _ => ⟨source, present, live, rfl, rfl⟩
  cases hc with
  | kept => exact h.of_same hpast hsame fun _ hin => hin
  | requested source present live =>
    refine h.of_same hpast (fun other hother _ _ => ⟨source, present, live, ?_⟩) fun _ hin => hin
    rw [← Option.some.inj hother]
    exact ⟨rfl, rfl⟩
  | refusing source present stopped =>
    refine hidle fun other hother => .inl ?_
    rw [← Option.some.inj (present.symm.trans hother)]
    exact stopped
  | stopped source present =>
    refine hidle fun other hother => .inl ?_
    rw [← Option.some.inj hother]
    rfl
  | dropped => exact hidle fun other hother => absurd hother.symm (Option.some_ne_none other)
  | ignored task left handed _ hignores =>
    cases task with
    | look seek => exact hidle hignores
    | report success =>
      exact h.of_same hpast hsame (hhanded handed fun _ => nofun)
    | refuse tag => exact hignores.elim
  | searched source read seek left handed present live waits _ hnone =>
    obtain ⟨hsound, hstopped⟩ := healthy source present
    exact h.searched handed present live waits hsound (hstopped.trans live)
      (room source read present waits) hnone hpast
  | found source read seek left handed present =>
    refine hidle fun other hother => .inr ?_
    rw [← Option.some.inj hother]
  | told source tag success left handed present live =>
    refine h.of_same hpast (fun other hother _ _ => ⟨source, present, live, ?_⟩)
      (hhanded handed fun _ => nofun)
    rw [← Option.some.inj hother]
    exact ⟨rfl, rfl⟩
  | refused tag left handed =>
    exact h.of_same hpast hsame (hhanded handed fun _ => nofun)
  | called source calls present routine => exact h.called present routine hpast

end

end Docket

namespace Session

open Ledger

/-! ## Looks along a run -/

/-- The read waits, and the window is like this. -/
def Pends (s : Session) (read : Read) (P : FetchWindow → Prop) : Prop :=
  ∃ source, s.source = some source ∧ source.stopped = false ∧ source.pending = some read ∧
    P source.buffer.window

/-- The move is a look for the read, with a seek or without. It leaves the read waiting,
and the window is like this then. -/
structure Searches (s : Session) (m : Move) (seek : Bool) (read : Read)
    (P : FetchWindow → Prop) : Prop where
  handed : s.handed? m = some (.look seek)
  before : s.Pends read fun _ => True
  after : (s.move m).Pends read P

/-- Behind these moves the next one announces the read, and it waits along all the others:
for the same attempt, and no transfer is started. -/
structure Waited (s : Session) (before : List Move) (first : Move) (after : List Move)
    (read : Read) (attempt : FetchId) : Prop where
  announced : (s.play before).Searches first true read (FetchWindow.Promises attempt)
  kept : ∀ mid, mid <+: after →
    (s.play (before ++ first :: mid)).Pends read (·.attempt = attempt)
  started : (s.play (before ++ first :: after)).fetches = (s.play (before ++ [first])).fetches

/-- Along the path, which begins behind these moves, there is a look for the read that
finds the attempt to have ended short of it. -/
def Missed (s : Session) (before path : List Move) (read : Read) (attempt : FetchId) : Prop :=
  ∃ mid next later seek, path = mid ++ next :: later ∧
    (s.play (before ++ mid)).Searches next seek read
      (FetchWindow.EndsShort attempt read.position)

/-- What a run shows of the past of reads. -/
def past (s : Session) (moves : List Move) : Docket.Past where
  announced read attempt := ∃ before first after, moves = before ++ first :: after ∧
    s.Waited before first after read attempt
  missed read attempt := ∃ before first after, moves = before ++ first :: after ∧
    s.Waited before first after read attempt ∧ s.Missed before (first :: after) read attempt

variable {s : Session} {read : Read} {attempt : FetchId} {P : FetchWindow → Prop}

theorem play_append (s : Session) (moves later : List Move) :
    s.play (moves ++ later) = (s.play moves).play later := List.foldl_append

theorem play_concat (s : Session) (moves : List Move) (m : Move) :
    s.play (moves ++ [m]) = (s.play moves).move m := play_append s moves [m]

theorem docket_source {source : RemoteSource} (h : s.docket.source = some source) :
    ∃ whole, s.source = some whole ∧ whole.untimed = source := Option.map_eq_some_iff.1 h

theorem pends_docket : s.docket.Pends read P ↔ s.Pends read P := by
  constructor
  · rintro ⟨source, present, live, waits, hP⟩
    obtain ⟨whole, hwhole, rfl⟩ := docket_source present
    exact ⟨whole, hwhole, live, waits, hP⟩
  · rintro ⟨source, hsource, live, waits, hP⟩
    exact ⟨source.untimed, congrArg (Option.map untimed) hsource, live, waits, hP⟩

/-- **A read waits on** along another move, if it is still pending behind it and the attempt
is the same: then no transfer was started. -/
theorem Waited.move {before after : List Move} {first m : Move}
    (h : s.Waited before first after read attempt)
    (hnumbered : (s.play (before ++ first :: after)).Numbered)
    (hpends : ((s.play (before ++ first :: after)).move m).Pends read (·.attempt = attempt)) :
    s.Waited before first (after ++ [m]) read attempt := by
  have hplay : s.play (before ++ first :: (after ++ [m])) =
      (s.play (before ++ first :: after)).move m := by
    rw [← play_concat, List.append_assoc, List.cons_append]
  have hstarted : ((s.play (before ++ first :: after)).move m).fetches =
      (s.play (before ++ first :: after)).fetches := by
    obtain ⟨source, hsource, -, -, hattempt⟩ := h.kept after List.prefix_rfl
    obtain ⟨left, hleft, -, -, hsame⟩ := hpends
    exact hnumbered.fetches_eq m (buffer?_of_source hsource) (buffer?_of_source hleft)
      (hsame.trans hattempt.symm)
  refine ⟨h.announced, fun mid hmid => ?_, ?_⟩
  · rcases List.prefix_concat_iff.1 hmid with rfl | hshort
    · rw [hplay]
      exact hpends
    · exact h.kept mid hshort
  · rw [hplay, hstarted]
    exact h.started

theorem Missed.concat {before path : List Move} (h : s.Missed before path read attempt)
    (m : Move) : s.Missed before (path ++ [m]) read attempt := by
  obtain ⟨mid, next, later, seek, rfl, hsearches⟩ := h
  exact ⟨mid, next, later ++ [m], seek, by rw [List.append_assoc, List.cons_append], hsearches⟩

/-- **What a run shows of the past goes with every move.** A look is the last move of a run,
and the read that it leaves waiting has it in its past from then on. -/
theorem extends_past (moves : List Move) (m : Move) (hnumbered : (s.play moves).Numbered) :
    (s.past moves).Extends (s.past (moves ++ [m])) (s.play moves).docket
      ((s.play moves).handed? m) ((s.play moves).move m).docket where
  kept read attempt hafter := by
    have hpends := pends_docket.1 hafter
    constructor
    · rintro ⟨before, first, after, rfl, hwaited⟩
      exact ⟨before, first, after ++ [m], List.append_assoc _ _ _, hwaited.move hnumbered hpends⟩
    · rintro ⟨before, first, after, rfl, hwaited, hmissed⟩
      exact ⟨before, first, after ++ [m], List.append_assoc _ _ _, hwaited.move hnumbered hpends,
        hmissed.concat m⟩
  announced read attempt hgiven hbefore hafter := by
    have hpends := pends_docket.1 hafter
    refine ⟨moves, m, [], rfl, ⟨hgiven, pends_docket.1 hbefore, hpends⟩, fun mid hmid => ?_, rfl⟩
    obtain ⟨source, hsource, live, waits, hpromises⟩ := hpends
    rw [List.prefix_nil.1 hmid, play_concat]
    exact ⟨source, hsource, live, waits, hpromises.1⟩
  missed read attempt seek hgiven hbefore hafter := by
    rintro ⟨before, first, after, hmoves, hwaited⟩
    refine ⟨before, first, after, hmoves, hwaited, ?_⟩
    -- The look is the last move of the path.
    obtain ⟨mid, last, hpath⟩ := (List.eq_nil_or_concat (first :: after)).resolve_left
      (List.cons_ne_nil first after)
    rw [List.concat_eq_append] at hpath
    rw [hpath, ← List.append_assoc] at hmoves
    obtain ⟨rfl, hlast⟩ := List.append_inj' hmoves rfl
    obtain rfl := List.cons.inj hlast |>.1
    exact ⟨mid, m, [], seek, hpath, hgiven, pends_docket.1 hbefore, pends_docket.1 hafter⟩

/-- **On every run a read that waits has met with what it waits for.** The induction is on
the run from its end, since the last move is what the read may have met with. -/
theorem waits_play (url : Url) (settings : BufferSettings) {cache : Cache} (sized : cache.Sized)
    (retryDelay : Nat) (moves : List Move) :
    let fresh := start (.fresh retryDelay (.withCache url settings cache))
    (fresh.play moves).docket.Waits (fresh.past moves) := by
  intro fresh
  induction moves using List.reverseRecOn with
  | nil =>
    intro source read present _ waits
    rw [← Option.some.inj present] at waits
    exact absurd waits nofun
  | append_singleton moves m ih =>
    have horderly : (fresh.play moves).Orderly retryDelay := (orderly_start retryDelay _).play moves
    have hbalanced : (fresh.play moves).ledger.Balanced := balanced_play retryDelay _ moves
    have hhealthy : (fresh.play moves).ledger.Healthy :=
      (steps_play (routine_start _) moves).1.induction (fun _ _ h hl => hl.step h)
        (healthy_start retryDelay (Buffer.sound_withCache url settings sized) rfl)
    have hpast : (fresh.past moves).Extends (fresh.past (moves ++ [m])) (fresh.play moves).docket
        ((fresh.play moves).handed? m) ((fresh.play moves).move m).docket :=
      extends_past moves m (numbered_play url settings cache retryDelay moves)
    obtain ⟨-, e, hchange, haccepts⟩ := horderly.move m
    rw [play_concat]
    generalize ((fresh.play moves).move m).docket = f at haccepts hpast ⊢
    cases haccepts with
    | one source read present =>
      -- A read that was just accepted has its first look to come.
      exact fun _ _ _ _ _ _ => .inl (Multiset.mem_cons_self _ _)
    | none =>
      refine ih.change hchange ?_ ?_ hpast
      · intro source present
        obtain ⟨whole, hwhole, rfl⟩ := docket_source present
        exact hhealthy whole.bare (congrArg (Option.map bare) hwhole)
      · intro source read present waits
        obtain ⟨whole, hwhole, rfl⟩ := docket_source present
        have hpending := pending?_eq_some.2 ⟨whole, hwhole, waits⟩
        exact hbalanced.room read ((pending_ledger _).trans hpending)

/-! ## Reads at rest -/

/-- **What a read at rest waits for.** When the render runner has nothing left to do, a
read that is still pending has its timer; the transfer began no later than its position,
and what it has delivered there is cached. In the run a look has announced the read and left
it waiting for that transfer, which was on its way then, or over with the size unknown; from
there on the read has waited for it, and no other one was started. So the transfer is on its
way; or it ended, and that look or a later one found that it ended short of the read's
position. The other looks start nothing, those of the timer among them: a transfer is started
by a look that announces a read, or by a request to open that comes before all transfers. -/
theorem waiting_read_polled (url : Url) (settings : BufferSettings) {cache : Cache}
    (sized : cache.Sized) (retryDelay : Nat) (moves : List Move) :
    let fresh := start (.fresh retryDelay (.withCache url settings cache))
    let s := fresh.play moves
    (s.render.queue = [] → ∀ source read, s.source = some source → source.stopped = false →
      source.pending = some read → read.position < UInt64.size →
      (∃ timer, s.render.Alive timer retryDelay (.look false)) ∧
        source.buffer.window.phase ≠ .idle ∧ source.buffer.window.start ≤ read.position ∧
        (read.position < source.buffer.window.frontier →
          (source.buffer.cache.byte? read.position).isSome = true) ∧
        ∃ before first after, moves = before ++ first :: after ∧
          fresh.Waited before first after read source.buffer.window.attempt ∧
          (source.buffer.window.phase = .fetching ∨
            fresh.Missed before (first :: after) read source.buffer.window.attempt)) ∧
      ∀ m, (s.move m).fetches = s.fetches ∨ s.handed? m = some (.look true) ∨
        s.fetches = [] ∧ ∃ choice calls, m = .stepIo choice ∧
          (s.io.take choice).1 = some calls ∧ .begin ∈ calls := by
  intro fresh s
  have hroutine : s.Routine := (steps_play (routine_start _) moves).2
  refine ⟨?_, (numbered_play url settings cache retryDelay moves).fetches_move_cases hroutine⟩
  intro hidle source read hsource live waits hp
  have hwakeful : s.Wakeful retryDelay := (wakeful_start retryDelay _).play moves
  have hposted : ∀ task, task ∉ s.docket.posted := by
    intro task hin
    have hqueued : Runner.Job.run task ∈ s.render.queue := Runner.mem_posted.1 hin
    rw [hidle] at hqueued
    exact absurd hqueued List.not_mem_nil
  have htimer : ∃ timer, s.render.Alive timer retryDelay (.look false) := by
    have hwaiting : s.waiting? = some (source, read) := waiting?_eq_some.2 ⟨hsource, live, waits⟩
    rcases hwakeful.attended (by rw [hwaiting]; rfl) with ⟨seek, hqueued⟩ | ⟨timer, hlive⟩
    · rw [hidle] at hqueued
      exact absurd hqueued List.not_mem_nil
    · exact ⟨timer, hwakeful.paced.alive hlive⟩
  have hpresent : s.docket.source = some source.untimed := congrArg (Option.map untimed) hsource
  have hwaits := waits_play url settings sized retryDelay moves source.untimed read hpresent live
    waits hp
  obtain ⟨hserves, hannounced, hended⟩ := hwaits.resolve_left (hposted _)
  refine ⟨htimer, hserves.underway, hserves.ahead, hserves.delivered, ?_⟩
  rcases hended with hfetching | ⟨seek, hin⟩ | ⟨before, first, after, hmoves, hwaited, hmissed⟩
  · obtain ⟨before, first, after, hmoves, hwaited⟩ := hannounced
    exact ⟨before, first, after, hmoves, hwaited, .inl hfetching⟩
  · exact absurd hin (hposted _)
  · exact ⟨before, first, after, hmoves, hwaited, .inr hmissed⟩

/-- The transfer of a read that waits fails before it brings anything. The read has been
looked at, its timer is set, and no other transfer is started. -/
theorem waiting_read_polled_failed :
    let fresh := start (.fresh 10 (Buffer.withCache
      ⟨[], [], [], none, none, .rigid [], none, none⟩ ⟨2, 2, 8, 0⟩ (.empty "" ⟨2⟩ 8)))
    let read : Read := ⟨0, 0, [0, 0, 0, 0], .done⟩
    let moves : List Move := [.read ⟨0, [0, 0, 0, 0]⟩ .done, .stepRender .own, .stepRender .own,
      .deliver none [.ended (.failed "reset")], .stepIo .own, .stepRender .own, .stepRender .own,
      .stepRender .own, .stepRender .own]
    let s := fresh.play moves
    (∃ timer, s.render.Alive timer 10 (.look false)) ∧ s.fetches.length = 1 ∧
      ∃ before first after, moves = before ++ first :: after ∧
        fresh.Waited before first after read 1 ∧ fresh.Missed before (first :: after) read 1 := by
  intro fresh read moves s
  have hstate : s.source.map (fun source =>
      (source.stopped, source.pending, source.buffer.window.phase, source.buffer.window.attempt)) =
        some (false, some read, .failed, 1) := by decide
  obtain ⟨source, hsource, hstate⟩ := Option.map_eq_some_iff.1 hstate
  simp only [Prod.mk.injEq] at hstate
  obtain ⟨live, waits, hover, hattempt⟩ := hstate
  obtain ⟨hrest, -⟩ := waiting_read_polled
    ⟨[], [], [], none, none, .rigid [], none, none⟩ ⟨2, 2, 8, 0⟩ (Cache.sized_empty "" ⟨2⟩ 8) 10
    moves
  obtain ⟨htimer, -, -, -, before, first, after, hmoves, hwaited, hended⟩ :=
    hrest (by decide) source read hsource live waits (by decide)
  rw [hattempt] at hwaited hended
  rw [hover] at hended
  exact ⟨htimer, by decide, before, first, after, hmoves, hwaited, hended.resolve_left (by decide)⟩

/-- **A read may be left without a transfer.** It is not so that whenever both runners have
nothing left to do and a read is pending, the transfer is on its way. -/
theorem waiting_read_without_transfer :
    let fresh := start (.fresh 10 (Buffer.withCache
      ⟨[], [], [], none, none, .rigid [], none, none⟩ ⟨2, 2, 8, 0⟩ (.empty "" ⟨2⟩ 8)))
    ¬ ∀ moves : List Move,
      (fresh.play moves).render.queue = [] → (fresh.play moves).io.queue = [] →
        ∀ source read, (fresh.play moves).source = some source → source.stopped = false →
          source.pending = some read → source.buffer.window.phase = .fetching := by
  intro fresh halways
  let moves : List Move := [.read ⟨0, [0, 0, 0, 0]⟩ .done, .stepRender .own, .stepRender .own,
    .deliver none [.ended (.failed "reset")], .stepIo .own, .stepRender .own, .stepRender .own,
    .stepRender .own, .stepRender .own]
  have hstate : (fresh.play moves).source.map (fun source =>
      (source.stopped, source.pending, source.buffer.window.phase)) =
        some (false, some ⟨0, 0, [0, 0, 0, 0], .done⟩, .failed) := by decide
  obtain ⟨source, hsource, hstate⟩ := Option.map_eq_some_iff.1 hstate
  obtain ⟨live, hstate⟩ := Prod.mk.inj hstate
  obtain ⟨waits, hover⟩ := Prod.mk.inj hstate
  have hfetching := halways moves (by decide) (by decide) source _ hsource live waits
  rw [hover] at hfetching
  exact absurd hfetching (by decide)

end Session

end RemoteSource

end ReadAhead
