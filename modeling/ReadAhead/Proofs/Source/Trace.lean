/-
What a run of a session does to its buffer, as a run of the buffer. A move makes a few
calls of it, most moves none; `trace` puts them together, and the buffer of a session
is what these calls make of the one it began with. So what is known of every run of a
buffer is known of the buffer of every session, and a condition on what is delivered to
a buffer is one on a session.

A read is completed in one kind of move only: a look at it, which may begin with a
seek. `Delivers` says what a move has done when it is over, in terms of these calls:
what they made of the buffer, and that a read that was completed was found in there.

The same calls say which transfers a move starts. So they are started by the looks that
announce reads and, before there was any, by a request to open.
-/
import ReadAhead.Proofs.Buffer.Notices
import ReadAhead.Proofs.Source.Ledger

set_option autoImplicit false

namespace ReadAhead

/-- The answer is that of a read that was completed. -/
def Answer.isDone (answer : Answer) : Bool :=
  match answer.result with
  | .done _ => true
  | .failed _ => false

/-- The transfer that an event tells of, if it does. -/
def Event.fetch? : Event → Option Request
  | .fetch request => some request
  | .cancel _ | .opened _ _ _ | .read _ _ _ _ => none

namespace RemoteSource.Session

/-- The buffer, unless the source is gone. -/
def buffer? (s : Session) : Option Buffer := s.source.map (·.buffer)

/-- The answers to reads that were completed, in order. -/
def completed (s : Session) : List Answer := s.answers.filter Answer.isDone

/-- The call that a task of the render runner makes of the buffer, if it makes one. -/
def seeks (s : Session) : Task → List Buffer.Call
  | .look true => s.waiting?.toList.map fun waiting => .seek waiting.2.position
  | .look false | .report _ | .refuse _ => []

/-- The calls that a move makes of the buffer, as long as there is one. -/
def callsOf (s : Session) : Move → List Buffer.Call
  | .stop => [.stop]
  | .stepRender choice => (s.render.take choice).1.toList.flatMap s.seeks
  | .stepIo choice => (s.io.take choice).1.getD []
  | .requestOpen | .read _ _ | .drop | .deliver _ _ | .advance _ => []

/-- The calls that a move makes of the buffer. -/
def calls (s : Session) (m : Move) : List Buffer.Call :=
  if s.source.isSome then s.callsOf m else []

/-- The calls that a run makes of the buffer. -/
def trace (s : Session) : List Move → List Buffer.Call
  | [] => []
  | m :: rest => s.calls m ++ (s.move m).trace rest

/-! ## Talk

Asking, refusing and turning down, and whatever is queued, touches neither the buffer
nor the reads that were completed. -/

structure Chats (s t : Session) : Prop where
  buffer : t.buffer? = s.buffer?
  completed : t.completed = s.completed

variable {s t u : Session}

theorem buffer?_of_source {source : RemoteSource} (h : s.source = some source) :
    s.buffer? = some source.buffer := by
  rw [buffer?, h]
  rfl

theorem Chats.refl : Chats s s := ⟨rfl, rfl⟩

theorem Chats.trans (h : Chats s t) (h' : Chats t u) : Chats s u :=
  ⟨h'.buffer.trans h.buffer, h'.completed.trans h.completed⟩

/-- An event completes no read, unless it says so. -/
theorem completed_record (event : Event) :
    (s.record event).completed = s.completed ++ event.answer?.toList.filter Answer.isDone := by
  rw [completed, answers_record, List.filter_append]
  rfl

theorem chats_record {event : Event} (h : event.answer?.toList.filter Answer.isDone = []) :
    Chats s (s.record event) := by
  refine ⟨rfl, ?_⟩
  rw [completed_record, h, List.append_nil]

theorem chats_foldl_absorb (effects : List Buffer.Effect) :
    Chats s (effects.foldl absorb s) := by
  refine foldl_absorb_induction (P := Chats s) (fun t event hevent h => ?_) (fun t task h => ?_)
    Chats.refl effects
  · refine h.trans (chats_record ?_)
    rw [hevent]
    rfl
  · exact ⟨h.buffer, h.completed⟩

/-- **Whatever is asked**, no read is completed before it is looked at. -/
theorem chats_ask (place : Place) (plan : Plan) : Chats s (s.ask place plan) := by
  induction plan generalizing s with
  | done => exact Chats.refl
  | ask first inside rest ihInside ihRest =>
    unfold ask
    cases hsource : s.source with
    | none => exact Chats.refl
    | some source =>
      dsimp only
      cases source.refusal? first with
      | some failure =>
        have hasked : Chats s { s with source := some source, asked := s.asked ++ [first] } :=
          ⟨(buffer?_of_source hsource).symm, rfl⟩
        exact hasked.trans ((chats_record rfl).trans (ihInside.trans ihRest))
      | none =>
        have haccepted : ∀ (read : Read), Chats s ({ s with
            source := some { source with pending := some read }
            asked := s.asked ++ [first] }.post place (.look true)) := fun _ =>
          ⟨(buffer?_of_source hsource).symm, rfl⟩
        exact (haccepted _).trans ihRest

theorem chats_report (success : Bool) : Chats s (s.report success) := by
  unfold report
  split
  · exact Chats.refl
  next source hsource =>
  split
  · exact Chats.refl
  split
  · exact Chats.refl
  · have hopened : Chats s { s with source := some { source with opening := none } } :=
      ⟨(buffer?_of_source hsource).symm, rfl⟩
    exact hopened.trans (chats_record rfl)

theorem cancelRetry_chats (place : Place) (source : RemoteSource) :
    (s.cancelRetry place source).buffer? = some source.buffer ∧
      (s.cancelRetry place source).completed = s.completed := by
  unfold cancelRetry
  split <;> exact ⟨rfl, rfl⟩

/-! ## Looks -/

theorem completed_answer (place : Place) (read : Read) (result : Read.Result) :
    (s.answer place read result).completed =
      s.completed ++ [⟨read.tag, result, read.buffer⟩].filter Answer.isDone := by
  rw [answer, (chats_ask place read.followUps).completed, completed_record]
  rfl

theorem buffer?_answer (place : Place) (read : Read) (result : Read.Result) :
    (s.answer place read result).buffer? = s.buffer? :=
  (chats_ask place read.followUps).buffer

/-- What a move hands over, if it makes these calls of the buffer: the buffer that they
lead to, and at most one completed read, which was found in it. -/
structure Delivers (s : Session) (calls : List Buffer.Call) (t : Session) : Prop where
  buffer : t.buffer? = none ∨ t.buffer? = s.buffer?.map (·.after calls)
  completed : t.completed = s.completed ∨
    ∃ (source : RemoteSource) (read found : Read) (count : Nat),
      s.source = some source ∧ source.pending = some read ∧
      ({ source with buffer := source.buffer.after calls } : RemoteSource).look? read =
        some (count, found) ∧
      t.completed = s.completed ++ [⟨found.tag, .done count, found.buffer⟩]

theorem Chats.delivers (h : Chats s t) : Delivers s [] t where
  buffer := by
    rw [h.buffer]
    refine .inr ?_
    cases s.buffer? <;> rfl
  completed := .inl h.completed

/-- **A look completes the pending read, or does not.** -/
theorem delivers_look (seek : Bool) : Delivers s (s.seeks (.look seek)) (s.look seek) := by
  cases hwaiting : s.waiting? with
  | none =>
    have hidle : s.seeks (.look seek) = [] := by
      cases seek with
      | false => rfl
      | true => rw [seeks, hwaiting]; rfl
    unfold look
    rw [hwaiting, hidle]
    exact Chats.refl.delivers
  | some waiting =>
    obtain ⟨source, read⟩ := waiting
    obtain ⟨hsource, -, waits⟩ := waiting?_eq_some.1 hwaiting
    have hbuffer := buffer?_of_source hsource
    have hannounced : announced source read seek =
        { source with buffer := source.buffer.after (s.seeks (.look seek)) } := by
      cases seek with
      | false => rfl
      | true => rw [seeks, hwaiting]; rfl
    have hleft : some (announced source read seek).buffer =
        s.buffer?.map (·.after (s.seeks (.look seek))) := by
      rw [hbuffer, hannounced]
      rfl
    have habsorbed := chats_foldl_absorb (s := s) (announce source read seek).2
    let t : Session := (announce source read seek).2.foldl absorb s
    rw [look_eq hwaiting seek]
    cases hfound : (announced source read seek).look? read with
    | none =>
      obtain ⟨-, hsame⟩ := cancelRetry_chats (s := t) .render (announced source read seek)
      exact ⟨.inr hleft, .inl (hsame.trans habsorbed.completed)⟩
    | some result =>
      obtain ⟨count, found⟩ := result
      obtain ⟨hcancelled, hsame⟩ := cancelRetry_chats (s := t) .render
        { announced source read seek with pending := none }
      refine ⟨.inr ?_, .inr ⟨source, read, found, count, hsource, waits, hannounced ▸ hfound, ?_⟩⟩
      · dsimp only
        rw [buffer?_answer, hcancelled]
        exact hleft
      · dsimp only
        rw [completed_answer, hsame, habsorbed.completed]
        rfl

theorem delivers_perform (task : Task) : Delivers s (s.seeks task) (s.perform task) := by
  cases task with
  | look seek => exact delivers_look seek
  | report success => exact (chats_report success).delivers
  | refuse tag => exact Chats.delivers (chats_record rfl)

/-! ## Calls, and the other side -/

/-- Taking leave completes no read. -/
theorem dismiss_chats (source : RemoteSource) (left : Option RemoteSource) :
    (s.dismiss source left).buffer? = left.map (·.buffer) ∧
      (s.dismiss source left).completed = s.completed := by
  obtain ⟨-, hsame⟩ := cancelRetry_chats (s := s) .caller source
  let t : Session := { s.cancelRetry .caller source with source := left }
  have htold : Chats t (t.failRead source) := by
    unfold failRead
    cases source.pending with
    | none => exact Chats.refl
    | some read => exact (chats_record rfl).trans (chats_ask _ _)
  have hleft : Chats t (s.dismiss source left) := by
    unfold dismiss
    cases source.opening with
    | none => exact htold
    | some tag => exact htold.trans (chats_record rfl)
  exact ⟨hleft.buffer, hleft.completed.trans hsame⟩

theorem delivers_stop : Delivers s [.stop] s.stop := by
  unfold stop
  cases hsource : s.source with
  | none => exact ⟨.inl (congrArg (Option.map _) hsource), .inl rfl⟩
  | some source =>
    obtain ⟨hleft, hsame⟩ := dismiss_chats (s := s) source (some
      { source with
        buffer := source.buffer.stop, stopped := true, opening := none, pending := none
        retry := none })
    exact ⟨.inr (by rw [buffer?_of_source hsource]; exact hleft), .inl hsame⟩

theorem delivers_drop : Delivers s [] s.drop := by
  unfold drop
  cases hsource : s.source with
  | none => exact Chats.refl.delivers
  | some source =>
    obtain ⟨hleft, hsame⟩ := dismiss_chats (s := s) source none
    exact ⟨.inl hleft, .inl hsame⟩

theorem chats_requestOpen : Chats s s.requestOpen := by
  unfold requestOpen
  cases hsource : s.source with
  | none => exact Chats.refl
  | some source =>
    dsimp only
    split <;> exact ⟨(buffer?_of_source hsource).symm, rfl⟩

theorem chats_deliver (fetch : Option FetchId) (signals : List Signal) :
    Chats s (s.deliver fetch signals) := by
  unfold deliver
  cases hsource : s.source with
  | none => exact Chats.refl
  | some source =>
    dsimp only
    split
    · exact Chats.refl
    · exact ⟨(buffer?_of_source hsource).symm, rfl⟩

theorem delivers_call (calls : List Buffer.Call) : Delivers s calls (s.call calls) := by
  unfold call
  cases hsource : s.source with
  | none => exact ⟨.inl (congrArg (Option.map _) hsource), .inl rfl⟩
  | some source =>
    let t : Session := { s with source := some { source with buffer := source.buffer.after calls } }
    have habsorbed := chats_foldl_absorb (s := t) (source.buffer.run calls).2
    refine ⟨.inr ?_, .inl habsorbed.completed⟩
    rw [buffer?_of_source hsource]
    exact habsorbed.buffer

/-! ## Moves and runs -/

/-- **What a move hands over** is what its calls make of the buffer, and what a look
found in it. -/
theorem delivers_move (s : Session) (m : Move) : Delivers s (s.calls m) (s.move m) := by
  have hmove : Delivers s (s.callsOf m) (s.move m) := by
    cases m with
    | requestOpen => exact chats_requestOpen.delivers
    | read first inside => exact (chats_ask .caller _).delivers
    | stop => exact delivers_stop
    | drop => exact delivers_drop
    | deliver fetch signals => exact (chats_deliver fetch signals).delivers
    | stepRender choice =>
      show Delivers s ((s.render.take choice).1.toList.flatMap s.seeks) (s.stepRender choice)
      rw [stepRender_eq]
      cases (s.render.take choice).1 with
      | none => exact Chats.delivers ⟨rfl, rfl⟩
      | some task =>
        -- Whoever takes a task off the queue sees the same source as before.
        let t : Session := { s with render := (s.render.take choice).2 }
        have hperform : Delivers t (t.seeks task) (t.perform task) := delivers_perform task
        have hseeks : t.seeks task = [task].flatMap s.seeks := by
          rw [List.flatMap_singleton]
          cases task <;> rfl
        rw [hseeks] at hperform
        exact ⟨hperform.buffer, hperform.completed⟩
    | stepIo choice =>
      show Delivers s ((s.io.take choice).1.getD []) (s.stepIo choice)
      unfold stepIo
      obtain ⟨_ | calls, io⟩ := s.io.take choice
      · exact Chats.delivers ⟨rfl, rfl⟩
      · have hcall := delivers_call (s := { s with io }) calls
        exact ⟨hcall.buffer, hcall.completed⟩
    | advance ms => exact Chats.delivers ⟨rfl, rfl⟩
  unfold calls
  cases hsource : s.source with
  | some source => exact hmove
  | none =>
    have hgone : s.buffer? = none := congrArg (Option.map _) hsource
    refine ⟨hmove.buffer.imp_right fun h => ?_, hmove.completed.imp_right ?_⟩
    · rw [h, hgone]
      rfl
    · rintro ⟨source, -, -, -, hsome, -⟩
      rw [hsource] at hsome
      exact absurd hsome.symm (Option.some_ne_none source)

/-- **The buffer of a session is what the calls of its run make of it**, as long as
the source is there. -/
theorem buffer?_play (s : Session) (moves : List Move) :
    (s.play moves).buffer? = none ∨
      (s.play moves).buffer? = s.buffer?.map (·.after (s.trace moves)) := by
  induction moves generalizing s with
  | nil =>
    right
    show s.buffer? = s.buffer?.map fun b => b.after []
    cases s.buffer? <;> rfl
  | cons m rest ih =>
    show ((s.move m).play rest).buffer? = none ∨ ((s.move m).play rest).buffer? =
      s.buffer?.map (·.after (s.calls m ++ (s.move m).trace rest))
    rcases ih (s.move m) with hnone | hrest
    · exact .inl hnone
    rcases (delivers_move s m).buffer with hgone | hbuffer
    · rw [hgone] at hrest
      exact .inl hrest
    · right
      rw [hrest, hbuffer, Option.map_map]
      exact congrArg (s.buffer?.map ·) (funext fun b => (b.after_append _ _).symm)

/-! ## Transfers -/

/-- The transfers that were started, in order. -/
def fetches (s : Session) : List Request := s.log.filterMap Event.fetch?

/-- The transfers that calls of the buffer start. -/
def started (s : Session) (calls : List Buffer.Call) : List Request :=
  (s.buffer?.map fun b => Buffer.requests (b.run calls).2).getD []

theorem started_nil (s : Session) : s.started [] = [] := by
  unfold started
  cases s.buffer? <;> rfl

theorem started_of_source {source : RemoteSource} (h : s.source = some source)
    (calls : List Buffer.Call) :
    s.started calls = Buffer.requests (source.buffer.run calls).2 := by
  rw [started, buffer?_of_source h]
  rfl

theorem started_of_gone (h : s.source = none) (calls : List Buffer.Call) :
    s.started calls = [] := by
  rw [started, buffer?, h]
  rfl

theorem fetches_record (s : Session) (event : Event) :
    (s.record event).fetches = s.fetches ++ event.fetch?.toList := by
  rw [fetches, fetches, record, List.filterMap_append]
  cases h : event.fetch? <;> simp [h]

theorem fetches_foldl_absorb (s : Session) (effects : List Buffer.Effect) :
    (effects.foldl absorb s).fetches = s.fetches ++ Buffer.requests effects := by
  induction effects generalizing s with
  | nil => exact (List.append_nil _).symm
  | cons effect rest ih =>
    have hone : (s.absorb effect).fetches = s.fetches ++ effect.request?.toList := by
      cases effect with
      | start request => exact fetches_record s (.fetch request)
      | cancel fetch => exact fetches_record s (.cancel fetch)
      | initialized | ended => exact (List.append_nil _).symm
    have hrequests : Buffer.requests (effect :: rest) =
        effect.request?.toList ++ Buffer.requests rest := by cases effect <;> rfl
    rw [List.foldl_cons, ih, hone, hrequests, List.append_assoc]

/-- Asking starts nothing. -/
theorem fetches_ask (s : Session) (place : Place) (plan : Plan) :
    (s.ask place plan).fetches = s.fetches := by
  induction plan generalizing s with
  | done => rfl
  | ask first inside rest ihInside ihRest =>
    unfold ask
    cases s.source with
    | none => rfl
    | some source =>
      dsimp only
      cases source.refusal? first with
      | some failure =>
        dsimp only
        rw [ihRest, ihInside, fetches_record]
        exact List.append_nil _
      | none => exact ihRest _

theorem fetches_answer (s : Session) (place : Place) (read : Read) (result : Read.Result) :
    (s.answer place read result).fetches = s.fetches := by
  rw [answer, fetches_ask, fetches_record]
  exact List.append_nil _

theorem fetches_cancelRetry (s : Session) (place : Place) (source : RemoteSource) :
    (s.cancelRetry place source).fetches = s.fetches := by
  unfold cancelRetry
  split <;> rfl

/-- **A look starts what its seek starts.** -/
theorem fetches_look (s : Session) (seek : Bool) :
    (s.look seek).fetches = s.fetches ++ s.started (s.seeks (.look seek)) := by
  cases hwaiting : s.waiting? with
  | none =>
    have hidle : s.seeks (.look seek) = [] := by
      cases seek with
      | false => rfl
      | true => rw [seeks, hwaiting]; rfl
    unfold look
    rw [hwaiting, hidle, started_nil, List.append_nil]
  | some waiting =>
    obtain ⟨source, read⟩ := waiting
    obtain ⟨hsource, -, -⟩ := waiting?_eq_some.1 hwaiting
    have hstarted : s.started (s.seeks (.look seek)) =
        Buffer.requests (announce source read seek).2 := by
      rw [started_of_source hsource]
      cases seek with
      | false => rfl
      | true =>
        rw [seeks, hwaiting]
        exact congrArg Buffer.requests (List.append_nil _)
    have habsorbed := fetches_foldl_absorb s (announce source read seek).2
    rw [look_eq hwaiting seek, hstarted, ← habsorbed]
    cases (announced source read seek).look? read with
    | none => exact fetches_cancelRetry _ .render (announced source read seek)
    | some result =>
      dsimp only
      rw [fetches_answer, fetches_cancelRetry]

theorem fetches_perform (s : Session) (task : Task) :
    (s.perform task).fetches = s.fetches ++ s.started (s.seeks task) := by
  cases task with
  | look seek => exact fetches_look s seek
  | report success =>
    rw [seeks, started_nil, List.append_nil]
    show (s.report success).fetches = s.fetches
    unfold report
    split
    · rfl
    split
    · rfl
    split
    · rfl
    · exact (fetches_record _ _).trans (List.append_nil _)
  | refuse tag =>
    rw [seeks, started_nil]
    exact fetches_record s _

theorem fetches_dismiss (s : Session) (source : RemoteSource) (left : Option RemoteSource) :
    (s.dismiss source left).fetches = s.fetches := by
  let t : Session := { s.cancelRetry .caller source with source := left }
  have htold : (t.failRead source).fetches = s.fetches := by
    unfold failRead
    cases source.pending with
    | none => exact fetches_cancelRetry s .caller source
    | some read => exact (fetches_answer t _ _ _).trans (fetches_cancelRetry s .caller source)
  unfold dismiss
  cases source.opening with
  | none => exact htold
  | some tag => exact ((fetches_record _ _).trans (List.append_nil _)).trans htold

/-- **A move starts what its calls of the buffer start.** -/
theorem fetches_move (s : Session) (m : Move) :
    (s.move m).fetches = s.fetches ++ s.started (s.calls m) := by
  have hquiet : ∀ {t : Session}, t.fetches = s.fetches → t.fetches = s.fetches ++ s.started [] := by
    intro t hsame
    rw [hsame, started_nil, List.append_nil]
  have hcalls : s.started (s.calls m) = s.started (s.callsOf m) := by
    unfold calls
    cases hsource : s.source with
    | none => rw [started_of_gone hsource, started_of_gone hsource]
    | some source => rfl
  rw [hcalls]
  cases m with
  | requestOpen =>
    refine hquiet ?_
    show s.requestOpen.fetches = s.fetches
    unfold requestOpen
    cases s.source with
    | none => rfl
    | some source =>
      dsimp only
      split <;> rfl
  | read first inside => exact hquiet (fetches_ask s .caller _)
  | stop =>
    have hstop : s.started [.stop] = s.started [] := by
      unfold started
      cases s.buffer? <;> rfl
    show s.stop.fetches = s.fetches ++ s.started [.stop]
    rw [hstop]
    refine hquiet ?_
    unfold stop
    cases s.source with
    | none => rfl
    | some source => exact fetches_dismiss s source _
  | drop =>
    refine hquiet ?_
    show s.drop.fetches = s.fetches
    unfold drop
    cases s.source with
    | none => rfl
    | some source => exact fetches_dismiss s source none
  | deliver fetch signals =>
    refine hquiet ?_
    show (s.deliver fetch signals).fetches = s.fetches
    unfold deliver
    cases s.source with
    | none => rfl
    | some source =>
      dsimp only
      split <;> rfl
  | stepRender choice =>
    show (s.stepRender choice).fetches =
      s.fetches ++ s.started ((s.render.take choice).1.toList.flatMap s.seeks)
    rw [stepRender_eq]
    cases (s.render.take choice).1 with
    | none => exact hquiet rfl
    | some task =>
      have hseeks : [task].flatMap s.seeks = s.seeks task := List.flatMap_singleton s.seeks task
      rw [Option.toList_some, hseeks]
      -- Whoever takes a task off the queue sees the same source as before.
      cases task <;> exact fetches_perform { s with render := (s.render.take choice).2 } _
  | stepIo choice =>
    show (s.stepIo choice).fetches = s.fetches ++ s.started ((s.io.take choice).1.getD [])
    unfold stepIo
    obtain ⟨_ | calls, io⟩ := s.io.take choice
    · exact hquiet rfl
    · show (Session.call { s with io } calls).fetches = s.fetches ++ s.started calls
      unfold call
      cases hsource : s.source with
      | none =>
        rw [started_of_gone hsource, List.append_nil]
        rfl
      | some source =>
        rw [started_of_source hsource]
        exact fetches_foldl_absorb _ _
  | advance ms => exact hquiet rfl

/-- The transfers that were started and those that the buffer counts are the same. -/
structure Numbered (s : Session) : Prop where
  attempt : ∀ b, s.buffer? = some b → b.window.attempt = s.fetches.length
  idle : ∀ b, s.buffer? = some b → (b.window.phase = .idle ↔ s.fetches = [])

theorem Numbered.move (h : s.Numbered) (m : Move) : (s.move m).Numbered := by
  have hbuffer : ∀ b, (s.move m).buffer? = some b → ∃ old, s.buffer? = some old ∧
      b = old.after (s.calls m) ∧
      (s.move m).fetches = s.fetches ++ Buffer.requests (old.run (s.calls m)).2 := by
    intro b hb
    have hafter := (delivers_move s m).buffer.resolve_left fun hnone => by
      rw [hnone] at hb
      exact absurd hb nofun
    obtain ⟨old, hold, hsame⟩ := Option.map_eq_some_iff.1 (hafter.symm.trans hb)
    refine ⟨old, hold, hsame.symm, ?_⟩
    rw [fetches_move, started, hold]
    rfl
  constructor
  · intro b hb
    obtain ⟨old, hold, rfl, hfetches⟩ := hbuffer b hb
    rw [Buffer.attempt_after, h.attempt old hold, hfetches, List.length_append]
  · intro b hb
    obtain ⟨old, hold, rfl, hfetches⟩ := hbuffer b hb
    rw [Buffer.idle_iff_after, h.idle old hold, hfetches, List.append_eq_nil_iff]

theorem numbered_play (url : Url) (settings : BufferSettings) (cache : Cache) (retryDelay : Nat)
    (moves : List Move) :
    ((start (.fresh retryDelay (.withCache url settings cache))).play moves).Numbered := by
  have hplay : ∀ {s : Session}, s.Numbered → (s.play moves).Numbered := by
    induction moves with
    | nil => exact id
    | cons m rest ih => exact fun h => ih (h.move m)
  refine hplay ⟨?_, ?_⟩
  · rintro b hb
    rw [← Option.some.inj hb]
    rfl
  · rintro b hb
    rw [← Option.some.inj hb]
    exact ⟨fun _ => rfl, fun _ => rfl⟩

/-- **As long as the buffer counts no other transfer, none is started.** -/
theorem Numbered.fetches_eq (h : s.Numbered) (m : Move) {b b' : Buffer} (hb : s.buffer? = some b)
    (hb' : (s.move m).buffer? = some b') (hsame : b'.window.attempt = b.window.attempt) :
    (s.move m).fetches = s.fetches := by
  have hcount := (h.move m).attempt b' hb'
  rw [hsame, h.attempt b hb, fetches_move, List.length_append] at hcount
  have hnone : s.started (s.calls m) = [] :=
    List.length_eq_zero_iff.1 (Nat.left_eq_add.1 hcount)
  rw [fetches_move, hnone, List.append_nil]

/-- Seeks are made by the looks that announce reads. -/
theorem handed?_of_seek (hroutine : s.Routine) {m : Move} {position : Nat}
    (h : .seek position ∈ s.callsOf m) : s.handed? m = some (.look true) := by
  cases m with
  | requestOpen | read | drop | deliver | advance => exact absurd h List.not_mem_nil
  | stop => exact absurd (List.mem_singleton.1 h) nofun
  | stepRender choice =>
    obtain ⟨task, htask, hseek⟩ := List.mem_flatMap.1 h
    have hlook : task = .look true := by
      cases task with
      | look seek =>
        cases seek with
        | true => rfl
        | false => exact absurd hseek List.not_mem_nil
      | report | refuse => exact absurd hseek List.not_mem_nil
    rw [← hlook]
    exact Option.mem_toList.1 htask
  | stepIo choice =>
    obtain ⟨hcalls, -⟩ := hroutine.take choice
    cases htaken : (s.io.take choice).1 with
    | none =>
      rw [callsOf, htaken] at h
      exact absurd h List.not_mem_nil
    | some calls =>
      rw [callsOf, htaken] at h
      exact absurd (hcalls calls htaken _ h) Bool.false_ne_true

/-- A request to open has the first transfer begun by the I/O runner. -/
theorem taken_of_begin {m : Move} (h : .begin ∈ s.callsOf m) :
    ∃ choice calls, m = .stepIo choice ∧ (s.io.take choice).1 = some calls ∧ .begin ∈ calls := by
  cases m with
  | requestOpen | read | drop | deliver | advance => exact absurd h List.not_mem_nil
  | stop => exact absurd (List.mem_singleton.1 h) nofun
  | stepRender choice =>
    obtain ⟨task, -, hbegin⟩ := List.mem_flatMap.1 h
    cases task with
    | look seek =>
      cases seek with
      | true =>
        obtain ⟨waiting, -, hsame⟩ := List.mem_map.1 hbegin
        exact absurd hsame nofun
      | false => exact absurd hbegin List.not_mem_nil
    | report | refuse => exact absurd hbegin List.not_mem_nil
  | stepIo choice =>
    cases htaken : (s.io.take choice).1 with
    | none =>
      rw [callsOf, htaken] at h
      exact absurd h List.not_mem_nil
    | some calls =>
      rw [callsOf, htaken] at h
      exact ⟨choice, calls, rfl, htaken, h⟩

/-- **What starts a transfer**: a look that announces a read, and a request to open if there
was no transfer before. -/
theorem Numbered.fetches_move_cases (h : s.Numbered) (hroutine : s.Routine) (m : Move) :
    (s.move m).fetches = s.fetches ∨ s.handed? m = some (.look true) ∨
      s.fetches = [] ∧ ∃ choice calls, m = .stepIo choice ∧
        (s.io.take choice).1 = some calls ∧ .begin ∈ calls := by
  by_cases hfirst : s.handed? m = some (.look true)
  · exact .inr (.inl hfirst)
  by_cases hbegins : .begin ∈ s.callsOf m ∧ s.fetches = []
  · exact .inr (.inr ⟨hbegins.2, taken_of_begin hbegins.1⟩)
  left
  rw [fetches_move]
  cases hsource : s.source with
  | none => rw [started_of_gone hsource, List.append_nil]
  | some source =>
    have hcalls : s.calls m = s.callsOf m := by
      rw [calls, hsource]
      rfl
    have hidle := h.idle source.buffer (buffer?_of_source hsource)
    rw [started_of_source hsource, hcalls, Buffer.requests_run_eq_nil, List.append_nil]
    · rintro call hin position rfl
      exact hfirst (handed?_of_seek hroutine hin)
    · exact fun hbegin hphase => hbegins ⟨hbegin, hidle.1 hphase⟩

end RemoteSource.Session

end ReadAhead
