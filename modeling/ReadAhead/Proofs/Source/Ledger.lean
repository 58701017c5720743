/-
The reads of a session, as an account of their own. A ledger keeps the source, what
was asked of it and what was answered, and leaves out the runners, the timer and
the requests to open: they decide when something happens to a read, not what.

`Step` lists what can happen to a ledger. The main result is `steps_move`: whatever
a session does is a sequence of such steps, on the side of the ledger. So what every
step keeps holds along every run, in whatever order the runners' tasks are run,
and it is proved from seven cases.

Of the runners only one thing is needed: the jobs of the I/O runner make no other
calls than to begin and to deliver. Jobs are posted by requests to open and by
transfers, which neither seek nor stop.
-/
import ReadAhead.Proofs.Runner.Tasks
import ReadAhead.Proofs.Buffer.Step
import ReadAhead.Proofs.Source.Register
import ReadAhead.Source.Remote
import Mathlib.Logic.Relation

set_option autoImplicit false

namespace ReadAhead

/-- The call is one that jobs of the I/O runner make. -/
def Buffer.Call.isRoutine : Call → Bool
  | .begin | .deliver _ _ => true
  | .seek _ | .stop => false

namespace RemoteSource

/-- A source as far as its reads go: without its timer and its request to open. -/
def bare (s : RemoteSource) : RemoteSource := { s with opening := none, retry := none }

/-- What a source that takes its leave answers. -/
def farewell (s : RemoteSource) : List Answer :=
  s.pending.toList.map fun read => ⟨read.tag, .failed .stopped, read.buffer⟩

/-- The state of a session's reads. -/
structure Ledger where
  /-- The source, unless it is gone. -/
  source : Option RemoteSource
  asked : List Ask
  answers : List Answer

namespace Ledger

/-- The read that waits for an answer. -/
def pending (l : Ledger) : Option Read := l.source.bind (·.pending)

/-- The source is stopped, or gone. -/
def closed (l : Ledger) : Bool :=
  match l.source with
  | none => true
  | some source => source.stopped

/-- What can happen to a ledger. -/
inductive Step : Ledger → Ledger → Prop where
  /-- A read is turned away. -/
  | refused {source : RemoteSource} {asked : List Ask} {answers : List Answer} (first : Ask)
      (failure : Failure) (h : source.refusal? first = some failure) :
      Step ⟨some source, asked, answers⟩
        ⟨some source, asked ++ [first],
          answers ++ [⟨asked.length, .failed failure, first.buffer⟩]⟩
  /-- A read is accepted. -/
  | accepted {source : RemoteSource} {asked : List Ask} {answers : List Answer} (first : Ask)
      (inside : Plan) (h : source.refusal? first = none) :
      Step ⟨some source, asked, answers⟩
        ⟨some { source with
            pending := some ⟨asked.length, first.position, first.buffer, inside⟩ },
          asked ++ [first], answers⟩
  /-- The pending read announces its position. -/
  | sought {source : RemoteSource} {asked : List Ask} {answers : List Answer} (read : Read)
      (live : source.stopped = false) (waits : source.pending = some read) :
      Step ⟨some source, asked, answers⟩
        ⟨some { source with buffer := (source.buffer.step (.seek read.position)).1 },
          asked, answers⟩
  /-- A job of the I/O runner changes the buffer. -/
  | called {source : RemoteSource} {asked : List Ask} {answers : List Answer}
      (call : Buffer.Call) (h : call.isRoutine = true) :
      Step ⟨some source, asked, answers⟩
        ⟨some { source with buffer := (source.buffer.step call).1 }, asked, answers⟩
  /-- The pending read is answered from the cache. -/
  | completed {source : RemoteSource} {asked : List Ask} {answers : List Answer}
      (read found : Read) (count : Nat) (live : source.stopped = false)
      (waits : source.pending = some read) (h : source.look? read = some (count, found)) :
      Step ⟨some source, asked, answers⟩
        ⟨some { source with pending := none }, asked,
          answers ++ [⟨found.tag, .done count, found.buffer⟩]⟩
  /-- The source is stopped. -/
  | stopped {source : RemoteSource} {asked : List Ask} {answers : List Answer} :
      Step ⟨some source, asked, answers⟩
        ⟨some { source with buffer := source.buffer.stop, stopped := true, pending := none },
          asked, answers ++ source.farewell⟩
  /-- The source is given up. -/
  | gone {source : RemoteSource} {asked : List Ask} {answers : List Answer} :
      Step ⟨some source, asked, answers⟩ ⟨none, asked, answers ++ source.farewell⟩

/-- One step after another. -/
def Steps : Ledger → Ledger → Prop := Relation.ReflTransGen Step

theorem Steps.refl {l : Ledger} : Steps l l := Relation.ReflTransGen.refl

theorem Steps.trans {l m n : Ledger} (h : Steps l m) (h' : Steps m n) : Steps l n :=
  Relation.ReflTransGen.trans h h'

theorem Step.steps {l m : Ledger} (h : Step l m) : Steps l m := Relation.ReflTransGen.single h

/-- **What every step keeps holds after any number of steps.** -/
theorem Steps.induction {P : Ledger → Prop} (keep : ∀ l m, Step l m → P l → P m) {l m : Ledger}
    (h : Steps l m) (hl : P l) : P m := by
  induction h with
  | refl => exact hl
  | tail _ hstep ih => exact keep _ _ hstep ih

/-- A source that was stopped stays so. -/
theorem closed_step {l m : Ledger} (h : Step l m) (hl : l.closed = true) : m.closed = true := by
  cases h with
  | stopped | gone => rfl
  | _ => exact hl

end Ledger

/-! ## The ledger of a session -/

namespace Session

open Ledger

/-- The answers that were heard, in order. -/
def answers (s : Session) : List Answer := s.log.filterMap Event.answer?

def ledger (s : Session) : Ledger := ⟨s.source.map bare, s.asked, s.answers⟩

/-- Jobs of the I/O runner make routine calls alone. -/
def Routine (s : Session) : Prop :=
  s.io.Holds fun calls => ∀ call ∈ calls, call.isRoutine = true

theorem ledger_eq_iff {s : Session} {source : Option RemoteSource} {asked : List Ask}
    {answers : List Answer} :
    s.ledger = ⟨source, asked, answers⟩ ↔
      s.source.map bare = source ∧ s.asked = asked ∧ s.answers = answers := by
  rw [ledger, Ledger.mk.injEq]

theorem ledger_of_source {s : Session} {source : RemoteSource} (h : s.source = some source) :
    s.ledger = ⟨some source.bare, s.asked, s.answers⟩ :=
  ledger_eq_iff.2 ⟨congrArg (Option.map bare) h, rfl, rfl⟩

/-- One session comes of another by steps on the side of the ledger, and the I/O
runner has no part in it. -/
structure Leads (s t : Session) : Prop where
  steps : Steps s.ledger t.ledger
  io : t.io = s.io

theorem Leads.refl {s : Session} : Leads s s := ⟨Steps.refl, rfl⟩

theorem Leads.trans {s t u : Session} (h : Leads s t) (h' : Leads t u) : Leads s u :=
  ⟨h.steps.trans h'.steps, h'.io.trans h.io⟩

theorem leads_of_eq {s t : Session} (h : t.ledger = s.ledger) (hio : t.io = s.io) : Leads s t :=
  ⟨h ▸ Steps.refl, hio⟩

section

variable (s : Session) (place : Place)

/-! ### What is not on the ledger -/

theorem answers_record (event : Event) :
    (s.record event).answers = s.answers ++ event.answer?.toList :=
  Event.filterMap_answer?_concat s.log event

theorem ledger_record {event : Event} (h : event.answer? = none) :
    (s.record event).ledger = s.ledger := by
  refine ledger_eq_iff.2 ⟨rfl, rfl, ?_⟩
  rw [answers_record, h]
  exact List.append_nil _

/-- **Effects of the buffer are events and tasks**, and none of the events is an answer.
So what these keep is kept by any number of effects. -/
theorem foldl_absorb_induction {P : Session → Prop}
    (record : ∀ (t : Session) (event : Event), event.answer? = none → P t → P (t.record event))
    (post : ∀ (t : Session) (task : Task), P t → P (t.post .caller task)) {s : Session} (hs : P s)
    (effects : List Buffer.Effect) : P (effects.foldl absorb s) := by
  induction effects generalizing s with
  | nil => exact hs
  | cons effect rest ih =>
    refine ih ?_
    cases effect with
    | start request => exact record s _ rfl hs
    | cancel fetch => exact record s _ rfl hs
    | initialized success => exact post s _ hs
    | ended => exact post s _ hs

theorem foldl_absorb_eq (effects : List Buffer.Effect) :
    (effects.foldl absorb s).ledger = s.ledger ∧ (effects.foldl absorb s).io = s.io := by
  refine foldl_absorb_induction (P := fun t => t.ledger = s.ledger ∧ t.io = s.io) ?_ ?_
    ⟨rfl, rfl⟩ effects
  · rintro t event hevent ⟨hledger, hio⟩
    exact ⟨(ledger_record t hevent).trans hledger, hio⟩
  · exact fun _ _ h => h

/-- Cancelling a timer leaves the ledger with the source that is put in place. -/
theorem cancelRetry_eq (source : RemoteSource) :
    (s.cancelRetry place source).ledger = ⟨some source.bare, s.asked, s.answers⟩ ∧
      (s.cancelRetry place source).io = s.io := by
  unfold cancelRetry
  split <;> exact ⟨rfl, rfl⟩

theorem armRetry_eq (source : RemoteSource) :
    (s.armRetry source).ledger = ⟨some source.bare, s.asked, s.answers⟩ ∧
      (s.armRetry source).io = s.io := by
  obtain ⟨hledger, hio⟩ := s.cancelRetry_eq .render source
  obtain ⟨-, hasked, hanswers⟩ := ledger_eq_iff.1 hledger
  exact ⟨ledger_eq_iff.2 ⟨rfl, hasked, hanswers⟩, hio⟩

/-! ### Asking and answering -/

/-- An answer goes on the ledger. -/
theorem ledger_answer {s : Session} {source : Option RemoteSource} {asked : List Ask}
    {answers : List Answer} (h : s.ledger = ⟨source, asked, answers⟩) (read : Read)
    (result : Read.Result) :
    (s.record (read.answer result place)).ledger =
      ⟨source, asked, answers ++ [⟨read.tag, result, read.buffer⟩]⟩ := by
  obtain ⟨hsource, hasked, hanswers⟩ := ledger_eq_iff.1 h
  refine ledger_eq_iff.2 ⟨hsource, hasked, ?_⟩
  rw [answers_record, hanswers]
  rfl

/-- **Whatever is asked, each read is turned away or accepted.** The induction is on
the plan: what is asked inside an answer comes before the rest. -/
theorem leads_ask (plan : Plan) : Leads s (s.ask place plan) := by
  induction plan generalizing s with
  | done => exact Leads.refl
  | ask first inside rest ihInside ihRest =>
    unfold ask
    cases hsource : s.source with
    | none => exact Leads.refl
    | some source =>
      dsimp only
      cases href : source.refusal? first with
      | some failure =>
        -- One step for the answer, and what is asked inside of it follows.
        refine Leads.trans ⟨Step.steps ?_, ?_⟩ ((ihInside _).trans (ihRest _))
        · rw [ledger_of_source hsource, ledger_answer place rfl]
          exact Step.refused first failure href
        · rfl
      | none =>
        refine Leads.trans ⟨Step.steps ?_, ?_⟩ (ihRest _)
        · rw [ledger_of_source hsource]
          exact Step.accepted first inside href
        · rfl

theorem leads_answer (read : Read) (result : Read.Result) :
    Leads (s.record (read.answer result place)) (s.answer place read result) :=
  leads_ask _ _ _

/-! ### Tasks of the render runner -/

theorem waiting?_eq_some {s : Session} {source : RemoteSource} {read : Read} :
    s.waiting? = some (source, read) ↔
      s.source = some source ∧ source.stopped = false ∧ source.pending = some read := by
  unfold waiting?
  cases s.source with
  | none => simp
  | some other =>
    dsimp only
    split
    · next h =>
      constructor
      · exact nofun
      · rintro ⟨hsource, hlive, -⟩
        rw [Option.some.inj hsource, hlive] at h
        exact absurd h Bool.false_ne_true
    · next h =>
      rw [Option.map_eq_some_iff]
      constructor
      · rintro ⟨_, hpending, heq⟩
        obtain ⟨rfl, rfl⟩ := Prod.mk.inj heq
        exact ⟨rfl, by simpa using h, hpending⟩
      · rintro ⟨hsource, -, hpending⟩
        exact ⟨read, Option.some.inj hsource ▸ hpending, by rw [Option.some.inj hsource]⟩

/-- What a look at a read begins with: the read announces its position, or not. -/
def announce (source : RemoteSource) (read : Read) (seek : Bool) : Buffer × List Buffer.Effect :=
  if seek then source.buffer.step (.seek read.position) else (source.buffer, [])

/-- The source with the buffer that the read is looked for in. -/
def announced (source : RemoteSource) (read : Read) (seek : Bool) : RemoteSource :=
  { source with buffer := (announce source read seek).1 }

/-- **A look at the pending read** leaves the read where it is and sets the timer, or
answers it with what is found. -/
theorem look_eq {s : Session} {source : RemoteSource} {read : Read}
    (h : s.waiting? = some (source, read)) (seek : Bool) :
    s.look seek =
      match (announced source read seek).look? read with
      | none => ((announce source read seek).2.foldl absorb s).armRetry (announced source read seek)
      | some (count, found) =>
        (((announce source read seek).2.foldl absorb s).cancelRetry .render
          { announced source read seek with pending := none }).answer
            .render found (.done count) := by
  unfold look
  rw [h]
  cases seek <;> rfl

/-- What a look does once the position was announced. -/
theorem leads_look_announced {s : Session} {source : RemoteSource} {read : Read}
    (h : s.waiting? = some (source, read)) (seek : Bool) :
    Leads { s with source := some (announced source read seek) } (s.look seek) := by
  obtain ⟨-, live, waits⟩ := waiting?_eq_some.1 h
  obtain ⟨hledger, hio⟩ := s.foldl_absorb_eq (announce source read seek).2
  obtain ⟨-, hasked, hanswers⟩ := ledger_eq_iff.1 hledger
  rw [look_eq h seek]
  cases hfound : (announced source read seek).look? read with
  | none =>
    obtain ⟨harm, hioarm⟩ := armRetry_eq ((announce source read seek).2.foldl absorb s)
      (announced source read seek)
    rw [hasked, hanswers] at harm
    exact leads_of_eq harm (hioarm.trans hio)
  | some result =>
    obtain ⟨count, found⟩ := result
    -- The read is off the books as soon as its answer is on them.
    obtain ⟨hcancel, hiocancel⟩ := cancelRetry_eq ((announce source read seek).2.foldl absorb s)
      .render { announced source read seek with pending := none }
    rw [hasked, hanswers] at hcancel
    have hanswer := ledger_answer .render hcancel found (.done count)
    refine Leads.trans ?_ (leads_answer _ .render found (.done count))
    refine ⟨Step.steps ?_, hiocancel.trans hio⟩
    rw [hanswer]
    exact Step.completed read found count live waits hfound

theorem leads_look (seek : Bool) : Leads s (s.look seek) := by
  cases hwaiting : s.waiting? with
  | none =>
    unfold look
    rw [hwaiting]
    exact Leads.refl
  | some waiting =>
    obtain ⟨source, read⟩ := waiting
    obtain ⟨hsource, live, waits⟩ := waiting?_eq_some.1 hwaiting
    -- The seek comes first, if there is one; the read is still pending then.
    have hseek : Leads s { s with source := some (announced source read seek) } := by
      refine ⟨?_, rfl⟩
      rw [ledger_of_source hsource]
      cases seek with
      | false => exact Steps.refl
      | true => exact Step.steps (Step.sought read live waits)
    exact hseek.trans (leads_look_announced hwaiting seek)

theorem leads_report (success : Bool) : Leads s (s.report success) := by
  unfold report
  split
  · exact Leads.refl
  next source hsource =>
  split
  · exact Leads.refl
  split
  · exact Leads.refl
  · refine leads_of_eq ?_ rfl
    rw [ledger_record _ rfl, ledger_of_source hsource]
    rfl

theorem leads_perform (task : Task) : Leads s (s.perform task) := by
  cases task with
  | look seek => exact leads_look s seek
  | report success => exact leads_report s success
  | refuse tag => exact leads_of_eq (ledger_record s rfl) rfl

/-- The task that the render runner hands out in a move. -/
def handed? (s : Session) : Move → Option Task
  | .stepRender choice => (s.render.take choice).1
  | .requestOpen | .read _ _ | .stop | .drop | .deliver _ _ | .stepIo _ | .advance _ => none

/-- A step of the render runner carries out the task that is handed out. -/
theorem stepRender_eq (choice : Runner.Choice) :
    s.stepRender choice = match (s.render.take choice).1 with
      | some task => ({ s with render := (s.render.take choice).2 } : Session).perform task
      | none => { s with render := (s.render.take choice).2 } := by
  unfold stepRender
  obtain ⟨_ | task, render⟩ := s.render.take choice <;> rfl

/-! ### Taking leave -/

/-- The first thing that taking leave of a source tells: its waiting read fails. -/
def failRead (s : Session) (source : RemoteSource) : Session :=
  match source.pending with
  | some read => s.answer .caller read (.failed .stopped)
  | none => s

/-- **Taking leave answers the read that is pending**, and then those that are asked
for inside its answer. -/
theorem leads_dismiss (source : RemoteSource) (left : Option RemoteSource) :
    ∃ t : Session, t.ledger = ⟨left.map bare, s.asked, s.answers ++ source.farewell⟩ ∧
      t.io = s.io ∧ Leads t (s.dismiss source left) := by
  obtain ⟨hledger, hio⟩ := s.cancelRetry_eq .caller source
  obtain ⟨-, hasked, hanswers⟩ := ledger_eq_iff.1 hledger
  let t : Session := { s.cancelRetry .caller source with source := left }
  have ht : t.ledger = ⟨left.map bare, s.asked, s.answers⟩ :=
    ledger_eq_iff.2 ⟨rfl, hasked, hanswers⟩
  -- The timer and the request to open are not on the ledger; only the answer counts.
  have hanswered : ∃ u : Session,
      u.ledger = ⟨left.map bare, s.asked, s.answers ++ source.farewell⟩ ∧ u.io = s.io ∧
        Leads u (t.failRead source) := by
    unfold farewell failRead
    cases source.pending with
    | none => exact ⟨t, ht.trans (by simp), hio, Leads.refl⟩
    | some read =>
      exact ⟨t.record (read.answer (.failed .stopped) .caller), ledger_answer .caller ht read _,
        hio, leads_answer t .caller read _⟩
  obtain ⟨u, hu, hiou, hleads⟩ := hanswered
  refine ⟨u, hu, hiou, hleads.trans ?_⟩
  unfold dismiss
  cases source.opening with
  | none => exact Leads.refl
  | some tag => exact leads_of_eq (ledger_record _ rfl) rfl

/-- **Stopping closes the ledger**, and every read of it is answered by then. -/
theorem leads_stop : Leads s s.stop ∧ s.stop.ledger.closed = true := by
  unfold stop
  cases hsource : s.source with
  | none => exact ⟨Leads.refl, by rw [closed, ledger, hsource]; rfl⟩
  | some source =>
    obtain ⟨t, ht, hio, hleads⟩ := s.leads_dismiss source (some
      { source with
        buffer := source.buffer.stop, stopped := true, opening := none, pending := none
        retry := none })
    have hstep : Step s.ledger t.ledger := by
      rw [ledger_of_source hsource, ht]
      exact Step.stopped
    refine ⟨Leads.trans ⟨hstep.steps, hio⟩ hleads, ?_⟩
    refine hleads.steps.induction (fun _ _ => closed_step) ?_
    rw [ht]
    rfl

/-- **Giving the source up closes the ledger**, too. -/
theorem leads_drop : Leads s s.drop ∧ s.drop.ledger.closed = true := by
  unfold drop
  cases hsource : s.source with
  | none => exact ⟨Leads.refl, by rw [closed, ledger, hsource]; rfl⟩
  | some source =>
    obtain ⟨t, ht, hio, hleads⟩ := s.leads_dismiss source none
    have hstep : Step s.ledger t.ledger := by
      rw [ledger_of_source hsource, ht]
      exact Step.gone
    refine ⟨Leads.trans ⟨hstep.steps, hio⟩ hleads, ?_⟩
    refine hleads.steps.induction (fun _ _ => closed_step) ?_
    rw [ht]
    rfl

/-! ### Jobs of the I/O runner -/

theorem steps_calls (source : RemoteSource) (asked : List Ask) (answers : List Answer)
    (calls : List Buffer.Call) (h : ∀ call ∈ calls, call.isRoutine = true) :
    Steps ⟨some source, asked, answers⟩
      ⟨some { source with buffer := source.buffer.after calls }, asked, answers⟩ := by
  induction calls generalizing source with
  | nil => exact Steps.refl
  | cons call rest ih =>
    have hfirst : Step ⟨some source, asked, answers⟩
        ⟨some { source with buffer := (source.buffer.step call).1 }, asked, answers⟩ :=
      Step.called call (h call List.mem_cons_self)
    exact hfirst.steps.trans (ih _ fun other hin => h other (List.mem_cons_of_mem _ hin))

theorem leads_call (calls : List Buffer.Call) (h : ∀ call ∈ calls, call.isRoutine = true) :
    Leads s (s.call calls) := by
  unfold call
  cases hsource : s.source with
  | none => exact Leads.refl
  | some source =>
    let t : Session := { s with source := some { source with buffer := source.buffer.after calls } }
    have ht : Steps s.ledger t.ledger := by
      rw [ledger_of_source hsource]
      exact steps_calls source.bare s.asked s.answers calls h
    obtain ⟨hledger, hio⟩ := t.foldl_absorb_eq (source.buffer.run calls).2
    exact ⟨hledger ▸ ht, hio⟩

end

/-! ## Runs -/

theorem routine_start (source : RemoteSource) : (start source).Routine := Runner.holds_idle

/-- **Every move is a sequence of steps on the side of the ledger**, and posts none
but routine calls to the I/O runner. -/
theorem steps_move {s : Session} (h : s.Routine) (m : Move) :
    Steps s.ledger (s.move m).ledger ∧ (s.move m).Routine := by
  -- Most moves leave the I/O runner alone, and what it holds with it.
  have hleads : ∀ t, Leads s t → Steps s.ledger t.ledger ∧ t.Routine := fun t ht =>
    ⟨ht.steps, by unfold Routine; rw [ht.io]; exact h⟩
  cases m with
  | requestOpen =>
    show Steps s.ledger s.requestOpen.ledger ∧ s.requestOpen.Routine
    unfold requestOpen
    split
    · exact ⟨Steps.refl, h⟩
    next source hsource =>
    dsimp only
    split
    · exact ⟨Steps.refl, h⟩
    · refine ⟨?_, h.post .outside fun call hin => ?_⟩
      · rw [ledger_of_source hsource]
        exact Steps.refl
      · rw [List.mem_singleton.1 hin]
        rfl
  | read first inside => exact hleads _ (leads_ask s .caller _)
  | stop => exact hleads _ (leads_stop s).1
  | drop => exact hleads _ (leads_drop s).1
  | deliver fetch signals =>
    show Steps s.ledger (s.deliver fetch signals).ledger ∧ (s.deliver fetch signals).Routine
    unfold deliver
    split
    · exact ⟨Steps.refl, h⟩
    dsimp only
    split
    · exact ⟨Steps.refl, h⟩
    · refine ⟨Steps.refl, h.post .outside fun call hin => ?_⟩
      obtain ⟨signal, -, rfl⟩ := List.mem_map.1 hin
      rfl
  | stepRender choice =>
    show Steps s.ledger (s.stepRender choice).ledger ∧ (s.stepRender choice).Routine
    unfold stepRender
    split
    · next task render _ =>
      have htaken : Leads s { s with render } := ⟨Steps.refl, rfl⟩
      exact hleads _ (htaken.trans (leads_perform _ task))
    · exact ⟨Steps.refl, h⟩
  | stepIo choice =>
    show Steps s.ledger (s.stepIo choice).ledger ∧ (s.stepIo choice).Routine
    unfold stepIo
    -- The job that is taken makes routine calls, and so do those that are left.
    obtain ⟨htask, hleft⟩ := h.take choice
    split
    · next calls io heq =>
      rw [heq] at htask hleft
      have hcall := leads_call { s with io } calls (htask calls rfl)
      refine ⟨hcall.steps, ?_⟩
      unfold Routine
      rw [hcall.io]
      exact hleft
    · next io heq =>
      rw [heq] at hleft
      exact ⟨Steps.refl, hleft⟩
  | advance ms => exact ⟨Steps.refl, h.advance ms⟩

/-- **Every run is a sequence of steps on the side of the ledger.** -/
theorem steps_play {s : Session} (h : s.Routine) (moves : List Move) :
    Steps s.ledger (s.play moves).ledger ∧ (s.play moves).Routine := by
  induction moves generalizing s with
  | nil => exact ⟨Steps.refl, h⟩
  | cons m rest ih =>
    obtain ⟨hsteps, hnext⟩ := steps_move h m
    obtain ⟨hrest, hlast⟩ := ih hnext
    exact ⟨hsteps.trans hrest, hlast⟩

end Session

end RemoteSource

end ReadAhead
