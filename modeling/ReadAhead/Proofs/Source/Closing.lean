/-
Stopping is final. Much can be on its way when a source is stopped: a posted start, the
first look of a read, a timer, a report, signals of the transfer that is left alone. Each
of them finds a flag set, the source's own or its buffer's, and there are two places to
look in and many to forget.

`Closed` says what a stop leaves behind, and `Stills` what can come of it: refusals are
heard, and the buffer stays as it is, or goes. A closed session makes no other moves,
one case for each move, and so none on any run that begins with it. What was asked for
before the stop is not told apart from what is asked for later; that requests to open
are all turned down in the end is read off their account.
-/
import ReadAhead.Proofs.Source.Opening
import ReadAhead.Proofs.Source.Trace

set_option autoImplicit false

namespace ReadAhead

/-- The event turns a read or a request to open down. -/
def Event.isRefusal : Event → Bool
  | .read _ (.failed .stopped) _ _ | .opened _ false _ => true
  | _ => false

/-- A refusal tells of no success. -/
theorem Event.success_of_isRefusal {event : Event} (h : event.isRefusal = true) {tag : Tag}
    {success : Bool} (houtcome : event.outcome? = some (tag, success)) : success = false := by
  cases event with
  | opened other told place =>
    obtain ⟨-, rfl⟩ := Prod.mk.inj (Option.some.inj houtcome)
    cases told with
    | false => rfl
    | true => exact absurd h nofun
  | fetch | cancel | read => exact absurd houtcome nofun

/-- To stop a stopped buffer again changes nothing. -/
theorem Buffer.stop_of_stopped {b : Buffer} (stopped : b.stopped = true) : b.stop = b :=
  congrArg Prod.fst (b.step_of_stopped stopped .stop)

namespace RemoteSource.Session

/-- The source is gone, or it is stopped, its buffer as well, and nobody waits. -/
def Closed (s : Session) : Prop :=
  ∀ source, s.source = some source → source.stopped = true ∧ source.buffer.stopped = true ∧
    source.pending = none ∧ source.opening = none

/-- What can come of a closed session: refusals are heard, and the buffer stays or goes. -/
structure Stills (s t : Session) : Prop where
  heard : ∃ heard, t.log = s.log ++ heard ∧ ∀ event ∈ heard, event.isRefusal = true
  buffer : t.buffer? = none ∨ t.buffer? = s.buffer?
  closed : t.Closed

variable {s t u : Session}

theorem Stills.trans (h : Stills s t) (h' : Stills t u) : Stills s u where
  heard := by
    obtain ⟨heard, hlog, hrefused⟩ := h.heard
    obtain ⟨later, hlater, hrefusedlater⟩ := h'.heard
    refine ⟨heard ++ later, by rw [hlater, hlog, List.append_assoc], ?_⟩
    simp only [List.mem_append, or_imp, forall_and]
    exact ⟨hrefused, hrefusedlater⟩
  buffer := by
    rcases h'.buffer with hgone | hsame
    · exact .inl hgone
    · rw [hsame]
      exact h.buffer
  closed := h'.closed

/-! ## Every move of a closed session -/

section

variable (h : s.Closed)

include h

/-- Nothing happens where neither an event is heard nor the source changes. -/
theorem Closed.of_eq (hlog : t.log = s.log) (hsource : t.source = s.source) : Stills s t where
  heard := ⟨[], by rw [hlog, List.append_nil], fun _ hin => absurd hin List.not_mem_nil⟩
  buffer := .inr (congrArg (Option.map _) hsource)
  closed := by
    unfold Closed
    rw [hsource]
    exact h

theorem Closed.unchanged (ht : t = s) : Stills s t := by
  subst ht
  exact h.of_eq rfl rfl

/-- A refusal is heard, and nothing else happens. -/
theorem Closed.refused {event : Event} (hevent : event.isRefusal = true)
    (hlog : t.log = s.log ++ [event]) (hsource : t.source = s.source) : Stills s t where
  heard := ⟨[event], hlog, fun other hin => List.mem_singleton.1 hin ▸ hevent⟩
  buffer := .inr (congrArg (Option.map _) hsource)
  closed := by
    unfold Closed
    rw [hsource]
    exact h

/-- No request to open waits. -/
theorem Closed.opening? : s.opening? = none := by
  unfold Session.opening?
  cases hsource : s.source with
  | none => rfl
  | some source => exact (h source hsource).2.2.2

theorem Closed.refusal? {source : RemoteSource} (hsource : s.source = some source) (first : Ask) :
    source.refusal? first = some .stopped := by
  unfold RemoteSource.refusal?
  rw [if_pos (h source hsource).1]

/-- **Whatever is asked, it is turned down.** The induction is on the plan. -/
theorem Closed.ask (place : Place) (plan : Plan) : Stills s (s.ask place plan) := by
  induction plan generalizing s with
  | done => exact h.of_eq rfl rfl
  | ask first inside rest ihInside ihRest =>
    cases hsource : s.source with
    | none => exact h.unchanged (by rw [Session.ask, hsource])
    | some source =>
      rw [ask_refused hsource place inside rest (h.refusal? hsource first)]
      have hfirst : Stills s (s.turnAway place first .stopped) := h.refused rfl rfl rfl
      have hinside := ihInside hfirst.closed
      exact hfirst.trans (hinside.trans (ihRest hinside.closed))

/-- Taking leave of a source that is stopped tells nobody anything. -/
theorem Closed.dismiss {source : RemoteSource} (hsource : s.source = some source)
    {left : Option RemoteSource} (hleft : left = none ∨ left = some source.retired) :
    Stills s (s.dismiss source left) := by
  obtain ⟨stopped, hstopped, hpending, hopening⟩ := h source hsource
  have hdismiss : s.dismiss source left = { s.cancelRetry .caller source with source := left } := by
    unfold Session.dismiss
    rw [hpending, hopening]
  rw [hdismiss]
  refine ⟨⟨[], ?_, fun _ hin => absurd hin List.not_mem_nil⟩, ?_, ?_⟩
  · rw [List.append_nil]
    exact log_cancelRetry s .caller source
  · rcases hleft with rfl | rfl
    · exact .inl rfl
    · right
      rw [buffer?_of_source hsource, ← Buffer.stop_of_stopped hstopped]
      rfl
  · intro other hother
    rcases hleft with rfl | rfl
    · exact absurd hother.symm (Option.some_ne_none other)
    · rw [← Option.some.inj hother]
      exact ⟨rfl, rfl, rfl, rfl⟩

/-- **A task finds nobody to do anything for**, unless it is to turn a request down. -/
theorem Closed.perform (task : Task) : Stills s (s.perform task) := by
  cases task with
  | look seek =>
    have hwaiting : s.waiting? = none := by
      unfold Session.waiting?
      cases hsource : s.source with
      | none => rfl
      | some source => exact if_pos (h source hsource).1
    have hlook : s.look seek = s := by
      unfold Session.look
      rw [hwaiting]
    exact h.unchanged hlook
  | report success =>
    have hreport : s.report success = s := by
      unfold Session.report
      cases hsource : s.source with
      | none => rfl
      | some source => exact if_pos (h source hsource).1
    exact h.unchanged hreport
  | refuse tag =>
    have hrefusal : Event.isRefusal (.opened tag false .render) = true := rfl
    exact h.refused hrefusal rfl rfl

/-- **The calls of a job are without effect.** -/
theorem Closed.call (calls : List Buffer.Call) : Stills s (s.call calls) := by
  cases hsource : s.source with
  | none => exact h.unchanged (by rw [Session.call, hsource])
  | some source =>
    have hcall : s.call calls = s := by
      unfold Session.call
      rw [hsource]
      dsimp only
      rw [source.buffer.run_of_stopped (h source hsource).2.1, List.foldl_nil, ← hsource]
    exact h.unchanged hcall

/-- **Every move of a closed session leaves it still.** -/
theorem Closed.move (m : Move) : Stills s (s.move m) := by
  cases m with
  | requestOpen =>
    show Stills s s.requestOpen
    unfold Session.requestOpen
    cases hsource : s.source with
    | none => exact h.of_eq rfl rfl
    | some source =>
      dsimp only
      rw [if_pos (h source hsource).1]
      exact h.of_eq rfl hsource.symm
  | read first inside => exact h.ask .caller _
  | stop =>
    show Stills s s.stop
    unfold Session.stop
    cases hsource : s.source with
    | none => exact h.of_eq rfl rfl
    | some source => exact h.dismiss hsource (.inr rfl)
  | drop =>
    show Stills s s.drop
    unfold Session.drop
    cases hsource : s.source with
    | none => exact h.of_eq rfl rfl
    | some source => exact h.dismiss hsource (.inl rfl)
  | deliver fetch signals =>
    show Stills s (s.deliver fetch signals)
    unfold Session.deliver
    cases hsource : s.source with
    | none => exact h.of_eq rfl rfl
    | some source =>
      dsimp only
      split
      · exact h.of_eq rfl rfl
      · exact h.of_eq rfl hsource.symm
  | stepRender choice =>
    show Stills s (s.stepRender choice)
    have htaken : Closed { s with render := (s.render.take choice).2 } := h
    rw [stepRender_eq]
    cases (s.render.take choice).1 with
    | none => exact h.of_eq rfl rfl
    | some task =>
      have hperform := htaken.perform task
      exact ⟨hperform.heard, hperform.buffer, hperform.closed⟩
  | stepIo choice =>
    show Stills s (s.stepIo choice)
    unfold Session.stepIo
    obtain ⟨_ | calls, io⟩ := s.io.take choice
    · exact h.of_eq rfl rfl
    · have htaken : Closed { s with io } := h
      have hcall := htaken.call calls
      exact ⟨hcall.heard, hcall.buffer, hcall.closed⟩
  | advance ms => exact h.of_eq rfl rfl

/-- **A closed session stays still on every run.** -/
theorem Closed.play (moves : List Move) : Stills s (s.play moves) := by
  induction moves generalizing s with
  | nil => exact h.of_eq rfl rfl
  | cons m rest ih =>
    have hfirst := h.move m
    exact hfirst.trans (ih hfirst.closed)

/-- Where nobody waits no request is displaced. -/
theorem Closed.gather_displaces (moves : List Move) : gather displaces s moves = [] := by
  induction moves generalizing s with
  | nil => rfl
  | cons m rest ih =>
    have hfirst : s.displaces m = [] := by
      cases m with
      | requestOpen => exact congrArg Option.toList h.opening?
      | _ => rfl
    rw [gather, hfirst, List.nil_append]
    exact ih (h.move m).closed

end

/-! ## The stop -/

/-- **Stopping closes a session**, and the buffer is left as it was when it was stopped. -/
theorem Orderly.closed_stop {delay : Nat} (h : s.Orderly delay) : s.stop.Closed := by
  obtain ⟨-, e, hchange, haccepts⟩ := h.move .stop
  intro source hsource
  have hafter : s.stop.docket.source = some source.untimed := congrArg (Option.map untimed) hsource
  have hstop : (s.move .stop).docket = s.stop.docket := rfl
  rw [hstop] at haccepts
  cases hchange with
  | kept _ _ hkept =>
    have hgone : s.docket.source = none := hkept.resolve_right fun hother => hother.2.1 rfl
    have hnobody : ∀ other, s.docket.source = some other → other.stopped = true :=
      fun other hother => absurd (hgone.symm.trans hother) (Option.some_ne_none other).symm
    rw [haccepts.eq_of_closed hnobody, hgone] at hafter
    exact absurd hafter.symm (Option.some_ne_none _)
  | stopped old present =>
    rw [haccepts.eq_of_closed] at hafter
    · -- What the docket leaves out is the timer, and none of this is about it.
      have hretired : old.retired = source.untimed := Option.some.inj hafter
      exact ⟨(congrArg RemoteSource.stopped hretired).symm,
        (congrArg (·.buffer.stopped) hretired).symm, (congrArg RemoteSource.pending hretired).symm,
        (congrArg RemoteSource.opening hretired).symm⟩
    · intro other hother
      rw [← Option.some.inj hother]
      rfl

/-- The buffer of a session that is stopped is the one it had, stopped. -/
theorem buffer?_stop (s : Session) : s.stop.buffer? = s.buffer?.map Buffer.stop := by
  unfold Session.stop
  cases hsource : s.source with
  | none => rw [buffer?, hsource]; rfl
  | some source =>
    obtain ⟨hleft, -⟩ := dismiss_chats (s := s) source (some source.retired)
    rw [buffer?_of_source hsource]
    exact hleft

/-! ## What is heard after the stop -/

/-- **A request to open that comes after the stop is turned down**, or a task will do
that: nothing else is told of it, and nobody displaces it. -/
theorem Answers.outcomesOf_of_closed {delay : Nat} {displaced belated : List Tag}
    (h : s.Answers delay displaced belated) (hclosed : s.Closed) (later : List Move) {tag : Tag}
    (hlater : s.opened ≤ tag) (htag : tag < (s.play later).opened) :
    (s.play later).outcomesOf tag = [false] ∨
      (s.play later).outcomesOf tag = [] ∧
        .run (.refuse tag) ∈ (s.play later).render.queue := by
  have hend := h.play later
  have hstill := hclosed.play later
  rw [hclosed.gather_displaces later, List.append_nil] at hend
  generalize s.play later = t at htag hend hstill ⊢
  -- Before the stop there was no such request.
  have hnew : ¬ tag < s.docket.opened := Nat.not_lt.2 hlater
  have hbefore := h.accounts.accounted tag
  rw [List.count_range, if_neg hnew, Docket.places, ← length_outcomesOf] at hbefore
  have hafter := hend.accounts.accounted tag
  have hmade : tag < t.docket.opened := htag
  rw [List.count_range, if_pos hmade, Docket.places, opening?_docket, ← length_outcomesOf] at hafter
  rw [hstill.closed.opening?, Option.toList_none, List.count_nil] at hafter
  cases houtcomes : t.outcomesOf tag with
  | nil =>
    rw [houtcomes, List.length_nil] at hafter
    have hrefused : 0 < t.docket.refusals.count tag := by omega
    rw [Multiset.count_pos, Docket.refusals, Multiset.mem_filterMap] at hrefused
    obtain ⟨task, hposted, htask⟩ := hrefused
    cases task with
    | refuse other =>
      obtain rfl := Option.some.inj htask
      exact .inr ⟨rfl, Runner.mem_posted.1 hposted⟩
    | look | report => exact absurd htask.symm (Option.some_ne_none tag)
  | cons success rest =>
    rw [houtcomes, List.length_cons] at hafter
    obtain rfl : rest = [] := List.length_eq_zero_iff.1 (by omega)
    -- What was told of the request was told after the stop, when all is refused.
    obtain ⟨event, hin, hevent⟩ := List.mem_filterMap.1
      (mem_outcomesOf.1 (houtcomes ▸ List.mem_singleton_self success))
    obtain ⟨heard, hlog, hrefusals⟩ := hstill.heard
    rw [hlog, List.mem_append] at hin
    rcases hin with hold | hnew
    · have htold : success ∈ s.outcomesOf tag :=
        mem_outcomesOf.2 (List.mem_filterMap.2 ⟨event, hold, hevent⟩)
      have hpos := List.length_pos_of_mem htold
      omega
    · rw [Event.success_of_isRefusal (hrefusals event hnew) hevent]
      exact .inl rfl

/-- **Stopping is final.** Whatever a session went through, and whatever comes after the
stop: only refusals are heard from then on, so no read is completed, no request to open
succeeds, and no transfer is started or cancelled. The buffer is the one there was, with
everything it knows and holds, as long as the source is not given up, and whatever is
called of it changes nothing and tells nobody anything. A read is turned down where it is
asked for, before anything else happens. A request to open is told once that it failed,
or a task that will tell it so is queued. -/
theorem stop_final (retryDelay : Nat) (buffer : Buffer) (moves later : List Move) :
    let s := (start (.fresh retryDelay buffer)).play moves
    let t := s.stop.play later
    (∃ heard, t.log = s.stop.log ++ heard ∧ ∀ event ∈ heard, event.isRefusal = true) ∧
      (∀ b, t.buffer? = some b →
        s.buffer?.map Buffer.stop = some b ∧ ∀ calls, b.run calls = (b, [])) ∧
      (.drop ∉ later → t.buffer? = s.buffer?.map Buffer.stop) ∧
      (∀ (place : Place) (first : Ask) (inside rest : Plan), t.source.isSome = true →
        t.ask place (.ask first inside rest) =
          ((t.turnAway place first .stopped).ask place inside).ask place rest) ∧
      ∀ tag, s.stop.opened ≤ tag → tag < t.opened →
        t.outcomesOf tag = [false] ∨
          t.outcomesOf tag = [] ∧ .run (.refuse tag) ∈ t.render.queue := by
  intro s t
  have h : s.stop.Answers retryDelay _ _ :=
    ((answers_start retryDelay buffer).play moves).move .stop
  have hs : s.Orderly retryDelay := (orderly_start retryDelay buffer).play moves
  have hclosed : s.stop.Closed := hs.closed_stop
  have hstill : Stills s.stop t := hclosed.play later
  have hbuffer : ∀ b, t.buffer? = some b → s.buffer?.map Buffer.stop = some b := by
    intro b hb
    rw [← buffer?_stop, ← hb]
    exact (hstill.buffer.resolve_left (by rw [hb]; exact nofun)).symm
  refine ⟨hstill.heard, fun b hb => ⟨hbuffer b hb, fun calls => ?_⟩, fun hkept => ?_, ?_, ?_⟩
  · obtain ⟨source, hsource, rfl⟩ := Option.map_eq_some_iff.1 hb
    exact source.buffer.run_of_stopped (hstill.closed source hsource).2.1 calls
  · have hsome : t.source.isSome = s.stop.source.isSome := h.toOrderly.isSome_play later hkept
    rw [← buffer?_stop]
    rcases hstill.buffer with hgone | hsame
    · -- A buffer that is gone was gone at the stop.
      rw [hgone, eq_comm, buffer?, Option.map_eq_none_iff, ← Option.not_isSome_iff_eq_none, ← hsome]
      rw [buffer?, Option.map_eq_none_iff] at hgone
      simp [hgone]
    · exact hsame
  · intro place first inside rest hsome
    obtain ⟨source, hsource⟩ := Option.isSome_iff_exists.1 hsome
    exact ask_refused hsource place inside rest (hstill.closed.refusal? hsource first)
  · intro tag hlater htag
    exact h.outcomesOf_of_closed hclosed later hlater htag

/-- A stop with everything on its way: the read's first look, the start of the transfer,
the report of its head, and the look that its end asks for. -/
theorem stop_final_in_flight :
    let fresh := Buffer.withCache ⟨[], [], [], none, none, .rigid [], none, none⟩ ⟨2, 2, 8, 0⟩
      (.empty "" ⟨2⟩ 8)
    let s := (start (.fresh 10 fresh)).play [.requestOpen, .stepIo .own, .read ⟨5, [0, 0]⟩ .done,
      .deliver none [.head ⟨200, none, none⟩, .bytes [0, 1, 2, 3, 4, 5], .ended .completed],
      .stepIo .own, .deliver none [.bytes [6, 7]]]
    let t := s.stop.play [.requestOpen, .read ⟨0, [0]⟩ .done, .stepIo .own, .stepRender .own,
      .stepRender .own, .stepRender .own, .stepRender .own]
    s.render.posted = [.look true, .report true, .look false] ∧
      t.log = s.stop.log ++ [.read 1 (.failed .stopped) [0] .caller, .opened 1 false .render] ∧
      t.buffer? = s.buffer?.map Buffer.stop ∧ t.outcomesOf 1 = [false] := by
  intro fresh s t
  obtain ⟨-, -, hbuffer, -, htold⟩ := stop_final 10 fresh
    [.requestOpen, .stepIo .own, .read ⟨5, [0, 0]⟩ .done,
      .deliver none [.head ⟨200, none, none⟩, .bytes [0, 1, 2, 3, 4, 5], .ended .completed],
      .stepIo .own, .deliver none [.bytes [6, 7]]]
    [.requestOpen, .read ⟨0, [0]⟩ .done, .stepIo .own, .stepRender .own, .stepRender .own,
      .stepRender .own, .stepRender .own]
  have hidle : t.render.queue = [] := by decide
  refine ⟨by decide, by decide, hbuffer (by decide), ?_⟩
  rcases htold 1 (by decide) (by decide) with hfailed | ⟨-, hqueued⟩
  · exact hfailed
  · rw [hidle] at hqueued
    exact absurd hqueued List.not_mem_nil

end RemoteSource.Session

end ReadAhead
