/-
A session's requests to open and the tasks of its render runner, as an account beside
that of its reads. A docket keeps the source, the tasks that were posted and wait,
the number of requests to open, and what was told of them. It leaves out the timer,
the I/O runner and the order of the tasks: what is shown of a docket holds in
whatever order they come up.

`Change` lists what a move can do to a docket, with the condition under which it does.
The main result is `Files.move`: every move makes one change, and behind it at most one
read is accepted. What is proved of requests to open and of waiting reads is proved from
this list, one case for each entry, and never from the definitions of the moves.
-/
import ReadAhead.Proofs.Runner.Posted
import ReadAhead.Proofs.Source.Wakeup
import Mathlib.Data.Multiset.Filter

set_option autoImplicit false

namespace ReadAhead

/-- What an event tells of a request to open, if it does: whose, and how it went. -/
def Event.outcome? : Event → Option (Tag × Bool)
  | .opened tag success _ => some (tag, success)
  | .fetch _ | .cancel _ | .read _ _ _ _ => none

/-- The task that an effect becomes, if it becomes one. -/
def Buffer.Effect.task? : Effect → Option RemoteSource.Task
  | .initialized success => some (.report success)
  | .ended => some (.look false)
  | .start _ | .cancel _ => none

namespace RemoteSource

/-- A source without its timer. -/
def untimed (s : RemoteSource) : RemoteSource := { s with retry := none }

/-- What is left of a source that is stopped. -/
def retired (s : RemoteSource) : RemoteSource :=
  { s with
    buffer := s.buffer.stop, stopped := true, opening := none, pending := none, retry := none }

/-- The state of a session's requests to open, and of its tasks. -/
structure Docket where
  /-- The source, unless it is gone. -/
  source : Option RemoteSource
  /-- The tasks that were posted and not handed out yet. -/
  posted : Multiset Task
  /-- Number of requests to open so far. -/
  opened : Nat
  /-- The requests that were answered, and how it went. -/
  outcomes : List (Tag × Bool)

namespace Docket

/-- The render runner hands out a task, and these are left: the task was posted, or it
is the one that timers bring. -/
def Handed (d : Docket) (task : Task) (left : Multiset Task) : Prop :=
  d.posted = task ::ₘ left ∨ task = .look false ∧ left = d.posted

/-- Nothing comes of the task: nobody waits for what it would do. -/
def Ignores (d : Docket) : Task → Prop
  | .look _ => ∀ source, d.source = some source → source.stopped = true ∨ source.pending = none
  | .report _ => ∀ source, d.source = some source → source.stopped = true ∨ source.opening = none
  | .refuse _ => False

/-- What a move does to a docket, with the task that the render runner hands out in it. -/
inductive Change (d : Docket) : Session.Move → Option Task → Docket → Prop where
  /-- Nothing of the docket is touched. -/
  | kept (m : Session.Move) (given : Option Task)
      (h : d.source = none ∨ m ≠ .requestOpen ∧ m ≠ .stop ∧ m ≠ .drop) : Change d m given d
  /-- A request to open waits, in place of any other. -/
  | requested (source : RemoteSource) (present : d.source = some source)
      (live : source.stopped = false) :
      Change d .requestOpen none
        { d with
          source := some { source with opening := some d.opened }, opened := d.opened + 1 }
  /-- A request to open comes after the stop. -/
  | refusing (source : RemoteSource) (present : d.source = some source)
      (stopped : source.stopped = true) :
      Change d .requestOpen none
        { d with posted := .refuse d.opened ::ₘ d.posted, opened := d.opened + 1 }
  | stopped (source : RemoteSource) (present : d.source = some source) :
      Change d .stop none
        { d with
          source := some source.retired
          outcomes := d.outcomes ++ source.opening.toList.map (·, false) }
  | dropped (source : RemoteSource) (present : d.source = some source) :
      Change d .drop none
        { d with
          source := none, outcomes := d.outcomes ++ source.opening.toList.map (·, false) }
  | ignored (task : Task) (left : Multiset Task) (handed : d.Handed task left)
      (choice : Runner.Choice) (h : d.Ignores task) :
      Change d (.stepRender choice) (some task) { d with posted := left }
  /-- A look finds nothing. -/
  | searched (source : RemoteSource) (read : Read) (seek : Bool) (left : Multiset Task)
      (handed : d.Handed (.look seek) left) (present : d.source = some source)
      (live : source.stopped = false) (waits : source.pending = some read)
      (choice : Runner.Choice) (h : (Session.announced source read seek).look? read = none) :
      Change d (.stepRender choice) (some (.look seek))
        { d with source := some (Session.announced source read seek), posted := left }
  /-- A look finds something, and the read no longer waits. -/
  | found (source : RemoteSource) (read : Read) (seek : Bool) (left : Multiset Task)
      (handed : d.Handed (.look seek) left) (present : d.source = some source)
      (live : source.stopped = false) (waits : source.pending = some read)
      (choice : Runner.Choice)
      (h : ((Session.announced source read seek).look? read).isSome = true) :
      Change d (.stepRender choice) (some (.look seek))
        { d with
          source := some { Session.announced source read seek with pending := none }
          posted := left }
  /-- A request to open is answered. -/
  | told (source : RemoteSource) (tag : Tag) (success : Bool) (left : Multiset Task)
      (handed : d.Handed (.report success) left) (present : d.source = some source)
      (live : source.stopped = false) (waits : source.opening = some tag)
      (choice : Runner.Choice) :
      Change d (.stepRender choice) (some (.report success))
        { d with
          source := some { source with opening := none }, posted := left
          outcomes := d.outcomes ++ [(tag, success)] }
  /-- A request to open that came after the stop is turned down. -/
  | refused (tag : Tag) (left : Multiset Task) (handed : d.Handed (.refuse tag) left)
      (choice : Runner.Choice) :
      Change d (.stepRender choice) (some (.refuse tag))
        { d with posted := left, outcomes := d.outcomes ++ [(tag, false)] }
  /-- A job of the I/O runner changes the buffer. -/
  | called (source : RemoteSource) (calls : List Buffer.Call) (present : d.source = some source)
      (routine : ∀ call ∈ calls, call.isRoutine = true) (choice : Runner.Choice) :
      Change d (.stepIo choice) none
        { d with
          source := some { source with buffer := source.buffer.after calls }
          posted := ↑((source.buffer.run calls).2.filterMap Buffer.Effect.task?) + d.posted }

/-- What asking for reads does to a docket: one of them is accepted, or none. -/
inductive Accepts (d : Docket) : Docket → Prop where
  | none : Accepts d d
  | one (source : RemoteSource) (read : Read) (present : d.source = some source)
      (live : source.stopped = false) (free : source.pending = none) :
      Accepts d
        { d with
          source := some { source with pending := some read }
          posted := .look true ::ₘ d.posted }

/-- While one read waits no other is accepted. -/
theorem Accepts.trans {d e f : Docket} (h : Accepts d e) (h' : Accepts e f) : Accepts d f := by
  cases h with
  | none => exact h'
  | one source read present live free =>
    cases h' with
    | none => exact .one source read present live free
    | one other _ present' _ free' =>
      obtain rfl := Option.some.inj present'
      exact absurd free' nofun

/-- Of a source that is stopped or gone nothing is accepted. -/
theorem Accepts.eq_of_closed {d e : Docket} (h : Accepts d e)
    (closed : ∀ source, d.source = some source → source.stopped = true) : e = d := by
  cases h with
  | none => rfl
  | one source read present live =>
    exact absurd (live.symm.trans (closed source present)) Bool.false_ne_true

section

variable {d : Docket} {task other : Task} {left : Multiset Task}

theorem Handed.mem_of_mem (h : d.Handed task left) (hin : other ∈ left) : other ∈ d.posted := by
  rcases h with hposted | ⟨-, rfl⟩
  · rw [hposted]
    exact Multiset.mem_cons_of_mem hin
  · exact hin

theorem Handed.mem_iff (h : d.Handed task left) (hne : other ≠ task) :
    other ∈ left ↔ other ∈ d.posted := by
  refine ⟨h.mem_of_mem, fun hin => ?_⟩
  rcases h with hposted | ⟨-, rfl⟩
  · rw [hposted, Multiset.mem_cons] at hin
    exact hin.resolve_left hne
  · exact hin

/-- A task that is handed out was posted, unless timers bring it. -/
theorem Handed.mem (h : d.Handed task left) (hne : task ≠ .look false) : task ∈ d.posted := by
  rcases h with hposted | ⟨rfl, -⟩
  · rw [hposted]
    exact Multiset.mem_cons_self task left
  · exact absurd rfl hne

end

/-- **A source goes by being given up**, and by nothing else. -/
theorem Change.isSome {d e : Docket} {m : Session.Move} {given : Option Task}
    (h : Change d m given e) (hm : m ≠ .drop) : e.source.isSome = d.source.isSome := by
  cases h with
  | dropped => exact absurd rfl hm
  | requested source present | stopped source present | searched source _ _ _ _ present
  | found source _ _ _ _ present | told source _ _ _ _ present | called source _ present =>
    rw [present]
    rfl
  | _ => rfl

theorem Accepts.isSome {d e : Docket} (h : Accepts d e) : e.source.isSome = d.source.isSome := by
  cases h with
  | none => rfl
  | one source read present =>
    rw [present]
    rfl

end Docket

namespace Session

open Docket

/-! ## The docket of a session -/

/-- What was told of requests to open, in order. -/
def outcomes (s : Session) : List (Tag × Bool) := s.log.filterMap Event.outcome?

def docket (s : Session) : Docket := ⟨s.source.map untimed, s.render.posted, s.opened, s.outcomes⟩

/-- This is the session's docket, and its render runner puts nothing off. -/
structure Files (s : Session) (d : Docket) : Prop where
  prompt : s.render.Prompt
  docket : s.docket = d

variable {s : Session} {d : Docket}

theorem Files.present (h : s.Files d) {source : RemoteSource} (hsource : s.source = some source) :
    d.source = some source.untimed := by
  rw [← h.docket]
  exact congrArg (Option.map untimed) hsource

theorem Files.absent (h : s.Files d) (hsource : s.source = none) : d.source = none := by
  rw [← h.docket]
  exact congrArg (Option.map untimed) hsource

/-! ### The parts of a move -/

theorem Files.withSource (h : s.Files d) (left : Option RemoteSource) :
    Files { s with source := left } { d with source := left.map untimed } := by
  refine ⟨h.prompt, ?_⟩
  rw [← h.docket]
  rfl

theorem Files.record (h : s.Files d) {event : Event} (hevent : event.outcome? = none) :
    (s.record event).Files d := by
  refine ⟨h.prompt, ?_⟩
  rw [← h.docket, Session.docket, Session.docket, outcomes, outcomes, Session.record,
    List.filterMap_append, List.filterMap_cons_none hevent, List.filterMap_nil, List.append_nil]

theorem Files.tell (h : s.Files d) (tag : Tag) (success : Bool) (place : Place) :
    (s.record (.opened tag success place)).Files
      { d with outcomes := d.outcomes ++ [(tag, success)] } := by
  refine ⟨h.prompt, ?_⟩
  rw [← h.docket, Session.docket, Session.docket, outcomes, outcomes, Session.record,
    List.filterMap_append]
  rfl

theorem Files.post (h : s.Files d) (place : Place) (task : Task) :
    (s.post place task).Files { d with posted := task ::ₘ d.posted } := by
  refine ⟨h.prompt.enqueue _ _, ?_⟩
  have hposted : ((s.render.post (side place) task).posted : Multiset Task) =
      task ::ₘ s.render.posted :=
    Multiset.coe_eq_coe.2 (Runner.posted_post (side place) h.prompt.up task)
  rw [← h.docket, Session.docket, Session.docket, Session.post, hposted]
  rfl

/-- **Effects of the buffer become tasks**, or events that say nothing of requests. -/
theorem Files.foldl_absorb (h : s.Files d) (effects : List Buffer.Effect) :
    (effects.foldl Session.absorb s).Files
      { d with posted := ↑(effects.filterMap Buffer.Effect.task?) + d.posted } := by
  induction effects generalizing s d with
  | nil => simpa using h
  | cons effect rest ih =>
    rw [List.foldl_cons]
    cases effect with
    | start request => exact ih (h.record rfl)
    | cancel fetch => exact ih (h.record rfl)
    | initialized success =>
      -- Whether a task is posted first or last, it is one of those that wait.
      have hrest := ih (h.post .caller (.report success))
      rw [Multiset.add_cons, ← Multiset.cons_add] at hrest
      exact hrest
    | ended =>
      have hrest := ih (h.post .caller (.look false))
      rw [Multiset.add_cons, ← Multiset.cons_add] at hrest
      exact hrest

/-- A look and a seek of its own start and cancel transfers, and post nothing. -/
theorem tasks_announce (source : RemoteSource) (read : Read) (seek : Bool) :
    (announce source read seek).2.filterMap Buffer.Effect.task? = [] := by
  cases seek with
  | false => rfl
  | true =>
    have hchange := Buffer.change_step source.buffer (.seek read.position)
    show (source.buffer.step (.seek read.position)).2.filterMap Buffer.Effect.task? = []
    generalize (source.buffer.step (.seek read.position)).1 = b' at hchange
    generalize (source.buffer.step (.seek read.position)).2 = effects at hchange ⊢
    cases hchange with
    | declined | stayed => rfl
    | moved =>
      rw [Buffer.fetchFrom]
      cases (source.buffer.readerAt read.position).handle <;> rfl

theorem Files.cancelRetry (h : s.Files d) (place : Place) (source : RemoteSource) :
    (s.cancelRetry place source).Files { d with source := some source.untimed } := by
  unfold Session.cancelRetry
  cases hretry : source.retry with
  | none => exact h.withSource (some source)
  | some timer =>
    refine ⟨h.prompt.cancel _ _, ?_⟩
    rw [← h.docket, Session.docket, Session.docket, Runner.posted_cancel]
    rfl

theorem Files.armRetry (h : s.Files d) (source : RemoteSource) :
    (s.armRetry source).Files { d with source := some source.untimed } := by
  have hcancel := h.cancelRetry .render source
  refine ⟨hcancel.prompt.postDelayed _ _ _, ?_⟩
  rw [← hcancel.docket, Session.docket, Session.docket, Session.armRetry, Runner.posted_postDelayed]
  have hsource : (s.cancelRetry .render source).source.map untimed = some source.untimed :=
    congrArg Docket.source hcancel.docket
  rw [hsource]
  rfl

/-- **Of the reads that are asked for in one place, at most one is accepted**, and it is
given a look. The induction is on the plan. -/
theorem Files.ask (h : s.Files d) (place : Place) (plan : Plan) :
    ∃ e, Accepts d e ∧ (s.ask place plan).Files e := by
  induction plan generalizing s d with
  | done => exact ⟨d, .none, h⟩
  | ask first inside rest ihInside ihRest =>
    unfold Session.ask
    cases hsource : s.source with
    | none => exact ⟨d, .none, h⟩
    | some source =>
      dsimp only
      cases hrefusal : source.refusal? first with
      | some failure =>
        let t : Session := { s with source := some source, asked := s.asked ++ [first] }
        have hasked : t.Files d := by
          refine ⟨h.prompt, ?_⟩
          rw [← h.docket, Session.docket, Session.docket, hsource]
          rfl
        have htold : Files (t.record
            (.read s.asked.length (.failed failure) first.buffer place)) d := hasked.record rfl
        obtain ⟨e, hinside, hfiles⟩ := ihInside htold
        obtain ⟨f, hrest, hfiles⟩ := ihRest hfiles
        exact ⟨f, hinside.trans hrest, hfiles⟩
      | none =>
        obtain ⟨live, -, hfree⟩ := refusal?_eq_none hrefusal
        let read : Read := ⟨s.asked.length, first.position, first.buffer, inside⟩
        have haccepted := (h.withSource (some { source with pending := some read })).post place
          (.look true)
        have hasked : Files ({ s with
            source := some { source with pending := some read }
            asked := s.asked ++ [first] }.post place (.look true)) _ :=
          ⟨haccepted.prompt, haccepted.docket⟩
        obtain ⟨e, hrest, hfiles⟩ := ihRest hasked
        exact ⟨e, (Accepts.one _ read (h.present hsource) live hfree).trans hrest, hfiles⟩

theorem Files.answer (h : s.Files d) (place : Place) (read : Read) (result : Read.Result) :
    ∃ e, Accepts d e ∧ (s.answer place read result).Files e := by
  have htold : (s.record (read.answer result place)).Files d := h.record rfl
  exact htold.ask place read.followUps

/-- **Taking leave tells the request to open** that nothing comes of it, and accepts no
read. -/
theorem Files.dismiss (h : s.Files d) (source : RemoteSource) {left : Option RemoteSource}
    (hclosed : ∀ other, left = some other → other.stopped = true) :
    (s.dismiss source left).Files
      { d with
        source := left.map untimed
        outcomes := d.outcomes ++ source.opening.toList.map (·, false) } := by
  have hleft := (h.cancelRetry .caller source).withSource left
  let t : Session := { s.cancelRetry .caller source with source := left }
  have htold : (t.failRead source).Files { d with source := left.map untimed } := by
    unfold failRead
    cases source.pending with
    | none => exact hleft
    | some read =>
      obtain ⟨e, haccepts, hfiles⟩ := hleft.answer .caller read (.failed .stopped)
      rw [haccepts.eq_of_closed] at hfiles
      · exact hfiles
      · intro other hother
        obtain ⟨old, hold, rfl⟩ := Option.map_eq_some_iff.1 hother
        exact hclosed old hold
  unfold Session.dismiss
  cases source.opening with
  | none =>
    rw [Option.toList_none, List.map_nil, List.append_nil]
    exact htold
  | some tag => exact htold.tell tag false .caller

/-! ### Tasks of the render runner -/

/-- The next step of the render runner hands out a task, or none. -/
theorem Files.take {delay : Nat} (h : s.Files d) (paced : s.render.Paced delay (.look false))
    (choice : Runner.Choice) :
    ∃ left, Files { s with render := (s.render.take choice).2 } { d with posted := left } ∧
      ((s.render.take choice).1 = none ∧ left = d.posted ∨
        ∃ task, (s.render.take choice).1 = some task ∧ d.Handed task left) := by
  have hposted : d.posted = s.render.posted := by
    rw [← h.docket]
    rfl
  refine ⟨(s.render.take choice).2.posted, ⟨h.prompt.take choice, ?_⟩, ?_⟩
  · rw [← h.docket]
    rfl
  simp only [Handed, hposted]
  rcases paced.posted_take h.prompt choice with ⟨task, htask, hleft⟩ | ⟨hleft, hnone | htimer⟩
  · exact .inr ⟨task, htask, .inl (Multiset.coe_eq_coe.2 hleft)⟩
  · exact .inl ⟨hnone, (Multiset.coe_eq_coe.2 hleft).symm⟩
  · exact .inr ⟨_, htimer, .inr ⟨rfl, (Multiset.coe_eq_coe.2 hleft).symm⟩⟩

/-- What the docket knows of the source is what there is, but for the timer. -/
theorem Files.source (h : s.Files d) {source : RemoteSource} (hsource : d.source = some source) :
    ∃ whole, s.source = some whole ∧ whole.untimed = source := by
  rw [← h.docket] at hsource
  exact Option.map_eq_some_iff.1 hsource

section

variable {left : Multiset Task} (h : s.Files { d with posted := left }) (choice : Runner.Choice)

include h

theorem Files.look {seek : Bool} (handed : d.Handed (.look seek) left) :
    ∃ e f, Change d (.stepRender choice) (some (.look seek)) e ∧ Accepts e f ∧
      (s.look seek).Files f := by
  cases hwaiting : s.waiting? with
  | none =>
    have hlook : s.look seek = s := by
      unfold Session.look
      rw [hwaiting]
    rw [hlook]
    refine ⟨_, _, .ignored (.look seek) left handed choice fun source hsource => ?_, .none, h⟩
    obtain ⟨whole, hwhole, rfl⟩ := h.source hsource
    by_contra hwaits
    rw [not_or, Bool.not_eq_true, ← ne_eq, Option.ne_none_iff_exists'] at hwaits
    obtain ⟨live, read, hread⟩ := hwaits
    have hsome : s.waiting? = some (whole, read) := waiting?_eq_some.2 ⟨hwhole, live, hread⟩
    rw [hwaiting] at hsome
    exact absurd hsome nofun
  | some waiting =>
    obtain ⟨source, read⟩ := waiting
    obtain ⟨hsource, live, waits⟩ := waiting?_eq_some.1 hwaiting
    have hheard := h.foldl_absorb (announce source read seek).2
    rw [tasks_announce, Multiset.coe_nil, Multiset.zero_add] at hheard
    have hpresent : d.source = some source.untimed := h.present hsource
    rw [look_eq hwaiting seek]
    cases hfound : (announced source read seek).look? read with
    | none =>
      exact ⟨_, _, .searched source.untimed read seek left handed hpresent live waits choice
        hfound, .none, hheard.armRetry _⟩
    | some result =>
      obtain ⟨count, found⟩ := result
      have hsome : ((announced source.untimed read seek).look? read).isSome = true := by
        show ((announced source read seek).look? read).isSome = true
        rw [hfound]
        rfl
      have hcancel := hheard.cancelRetry .render { announced source read seek with pending := none }
      obtain ⟨f, haccepts, hfiles⟩ := hcancel.answer .render found (.done count)
      exact ⟨_, f, .found source.untimed read seek left handed hpresent live waits choice hsome,
        haccepts, hfiles⟩

theorem Files.report {success : Bool} (handed : d.Handed (.report success) left) :
    ∃ e, Change d (.stepRender choice) (some (.report success)) e ∧
      (s.report success).Files e := by
  -- Where nobody waits for the report, it is ignored.
  have hignored : (∀ source, s.source = some source →
      source.stopped = true ∨ source.opening = none) →
        Change d (.stepRender choice) (some (.report success)) { d with posted := left } := by
    intro hnobody
    refine .ignored (.report success) left handed choice fun source hsource => ?_
    obtain ⟨whole, hwhole, rfl⟩ := h.source hsource
    exact hnobody whole hwhole
  unfold Session.report
  cases hsource : s.source with
  | none =>
    rw [hsource] at hignored
    exact ⟨_, hignored fun other hother => absurd hother.symm (Option.some_ne_none other), h⟩
  | some source =>
    rw [hsource] at hignored
    have hsame : ∀ other, some source = some other → source = other := fun _ => Option.some.inj
    dsimp only
    split
    · next hstopped =>
      exact ⟨_, hignored fun other hother => .inl (hsame other hother ▸ hstopped), h⟩
    · next hlive =>
      cases hopening : source.opening with
      | none => exact ⟨_, hignored fun other hother => .inr (hsame other hother ▸ hopening), h⟩
      | some tag =>
        have live : source.untimed.stopped = false := by
          show source.stopped = false
          simpa using hlive
        have hleft := h.withSource (some { source with opening := none })
        have hpresent := h.present hsource
        exact ⟨_, .told source.untimed tag success left handed hpresent live hopening choice,
          hleft.tell tag success .render⟩

theorem Files.perform {task : Task} (handed : d.Handed task left) :
    ∃ e f, Change d (.stepRender choice) (some task) e ∧ Accepts e f ∧
      (s.perform task).Files f := by
  cases task with
  | look seek => exact h.look choice handed
  | report success =>
    obtain ⟨e, hchange, hfiles⟩ := h.report choice handed
    exact ⟨e, e, hchange, .none, hfiles⟩
  | refuse tag => exact ⟨_, _, .refused tag left handed choice, .none, h.tell tag false .render⟩

end

theorem Files.stepRender {delay : Nat} (h : s.Files d)
    (paced : s.render.Paced delay (.look false)) (choice : Runner.Choice) :
    ∃ e f, Change d (.stepRender choice) (s.render.take choice).1 e ∧ Accepts e f ∧
      (s.stepRender choice).Files f := by
  obtain ⟨left, htaken, ⟨hnone, rfl⟩ | ⟨task, htask, handed⟩⟩ := h.take paced choice
  · rw [stepRender_eq, hnone]
    exact ⟨d, d, .kept _ _ (.inr ⟨nofun, nofun, nofun⟩), .none, htaken⟩
  · rw [stepRender_eq, htask]
    exact htaken.perform choice handed

/-! ### Calls, and the other side -/

theorem Files.requestOpen (h : s.Files d) :
    ∃ e, Change d .requestOpen none e ∧ s.requestOpen.Files e := by
  unfold Session.requestOpen
  cases hsource : s.source with
  | none => exact ⟨d, .kept _ _ (.inl (h.absent hsource)), h⟩
  | some source =>
    have hopened : s.opened = d.opened := by
      rw [← h.docket]
      rfl
    dsimp only
    split
    · next hstopped =>
      let t : Session := { s with source := some source, opened := s.opened + 1 }
      have hcounted : t.Files { d with opened := d.opened + 1 } := by
        refine ⟨h.prompt, ?_⟩
        rw [← h.docket, Session.docket, Session.docket, hsource]
        rfl
      refine ⟨_, .refusing source.untimed (h.present hsource) hstopped, ?_⟩
      have hposted := hcounted.post .caller (.refuse d.opened)
      rw [← hopened] at hposted ⊢
      exact hposted
    · next hlive =>
      have live : source.untimed.stopped = false := by
        show source.stopped = false
        simpa using hlive
      refine ⟨_, .requested source.untimed (h.present hsource) live, h.prompt, ?_⟩
      rw [← h.docket]
      rfl

theorem Files.call (h : s.Files d) {calls : List Buffer.Call}
    (routine : ∀ call ∈ calls, call.isRoutine = true) (choice : Runner.Choice) :
    ∃ e, Change d (.stepIo choice) none e ∧ (s.call calls).Files e := by
  unfold Session.call
  cases hsource : s.source with
  | none => exact ⟨d, .kept _ _ (.inl (h.absent hsource)), h⟩
  | some source =>
    have hchanged := h.withSource (some { source with buffer := source.buffer.after calls })
    exact ⟨_, .called source.untimed calls (h.present hsource) routine choice,
      hchanged.foldl_absorb (source.buffer.run calls).2⟩

/-! ## Moves -/

/-- **Every move makes one change to the docket**, and behind it at most one read is
accepted. -/
theorem Files.move {delay : Nat} (h : s.Files d) (hs : s.Wakeful delay) (routine : s.Routine)
    (m : Move) : ∃ e f, Change d m (s.handed? m) e ∧ Accepts e f ∧ (s.move m).Files f := by
  have hkept : m ≠ .requestOpen → m ≠ .stop → m ≠ .drop → Change d m (s.handed? m) d :=
    fun hopen hstop hdrop => .kept m _ (.inr ⟨hopen, hstop, hdrop⟩)
  cases m with
  | requestOpen =>
    obtain ⟨e, hchange, hfiles⟩ := h.requestOpen
    exact ⟨e, e, hchange, .none, hfiles⟩
  | read first inside =>
    obtain ⟨f, haccepts, hfiles⟩ := h.ask .caller (.ask first inside .done)
    exact ⟨d, f, hkept nofun nofun nofun, haccepts, hfiles⟩
  | stop =>
    show ∃ e f, Change d .stop none e ∧ Accepts e f ∧ s.stop.Files f
    unfold Session.stop
    cases hsource : s.source with
    | none => exact ⟨d, d, .kept _ _ (.inl (h.absent hsource)), .none, h⟩
    | some source =>
      have hclosed : ∀ other, some source.retired = some other → other.stopped = true := by
        rintro other hother
        rw [← Option.some.inj hother]
        rfl
      exact ⟨_, _, .stopped source.untimed (h.present hsource), .none, h.dismiss source hclosed⟩
  | drop =>
    show ∃ e f, Change d .drop none e ∧ Accepts e f ∧ s.drop.Files f
    unfold Session.drop
    cases hsource : s.source with
    | none => exact ⟨d, d, .kept _ _ (.inl (h.absent hsource)), .none, h⟩
    | some source =>
      have hclosed : ∀ other : RemoteSource, none = some other → other.stopped = true :=
        fun other hother => absurd hother.symm (Option.some_ne_none other)
      exact ⟨_, _, .dropped source.untimed (h.present hsource), .none, h.dismiss source hclosed⟩
  | deliver fetch signals =>
    refine ⟨d, d, hkept nofun nofun nofun, .none, ?_⟩
    show (s.deliver fetch signals).Files d
    unfold Session.deliver
    split
    · exact h
    · dsimp only
      split
      · exact h
      · exact ⟨h.prompt, h.docket⟩
  | stepRender choice => exact h.stepRender hs.paced choice
  | stepIo choice =>
    have hquiet : ∀ io, Files { s with io } d := fun _ => ⟨h.prompt, h.docket⟩
    obtain ⟨hcalls, -⟩ := routine.take choice
    show ∃ e f, Change d (.stepIo choice) none e ∧ Accepts e f ∧ (s.stepIo choice).Files f
    unfold Session.stepIo
    split
    · next calls io htake =>
      rw [htake] at hcalls
      obtain ⟨e, hchange, hfiles⟩ := (hquiet io).call (hcalls calls rfl) choice
      exact ⟨e, e, hchange, .none, hfiles⟩
    · next io _ => exact ⟨d, d, hkept nofun nofun nofun, .none, hquiet io⟩
  | advance ms =>
    have hprompt : (s.move (.advance ms)).render.Prompt :=
      ⟨h.prompt.up, h.prompt.lasting, h.prompt.yielded⟩
    exact ⟨d, d, hkept nofun nofun nofun, .none, hprompt, h.docket⟩

/-! ## Runs -/

/-- What holds of a session on every run, and the moves of its docket rely on. -/
structure Orderly (delay : Nat) (s : Session) : Prop where
  wakeful : s.Wakeful delay
  routine : s.Routine
  prompt : s.render.Prompt

variable {delay : Nat}

theorem orderly_start (delay : Nat) (buffer : Buffer) :
    (start (.fresh delay buffer)).Orderly delay :=
  ⟨wakeful_start delay buffer, routine_start _, Runner.prompt_idle⟩

/-- **A move of a session is a change of its docket**, and perhaps a read that is
accepted. -/
theorem Orderly.move (h : s.Orderly delay) (m : Move) :
    (s.move m).Orderly delay ∧
      ∃ e, Change s.docket m (s.handed? m) e ∧ Accepts e (s.move m).docket := by
  have hfiles : s.Files s.docket := ⟨h.prompt, rfl⟩
  obtain ⟨e, f, hchange, haccepts, hmoved⟩ := hfiles.move h.wakeful h.routine m
  obtain ⟨-, hroutine⟩ := steps_move h.routine m
  exact ⟨⟨h.wakeful.move m, hroutine, hmoved.prompt⟩, e, hchange, hmoved.docket.symm ▸ haccepts⟩

theorem Orderly.play (h : s.Orderly delay) (moves : List Move) :
    (s.play moves).Orderly delay := by
  induction moves generalizing s with
  | nil => exact h
  | cons m rest ih => exact ih (h.move m).1

/-- As long as nobody gives the source up, it is there. -/
theorem Orderly.isSome_play (h : s.Orderly delay) (moves : List Move) (hkept : .drop ∉ moves) :
    (s.play moves).source.isSome = s.source.isSome := by
  have hdocket : ∀ t : Session, t.docket.source.isSome = t.source.isSome := fun t =>
    Option.isSome_map
  induction moves generalizing s with
  | nil => rfl
  | cons m rest ih =>
    rw [List.mem_cons, not_or] at hkept
    obtain ⟨horderly, e, hchange, haccepts⟩ := h.move m
    have hmove : (s.move m).source.isSome = s.source.isSome := by
      rw [← hdocket, haccepts.isSome, hchange.isSome (Ne.symm hkept.1), hdocket]
    exact (ih horderly hkept.2).trans hmove

end Session

end RemoteSource

end ReadAhead
