/-
Where requests to open are told how they went. A source has four ways to tell: its render
runner reports the first answer, or turns down a request that came after the stop, and
whoever stops the source, or gives it up, tells the request that waits. The first two
happen in tasks. The others happen in the call itself, on the side of the caller.

`Voices` says what each move tells, and `voices_move` proves it of every move in every
state: a move that takes leave tells the waiting request on the spot, a step of the render
runner tells in its task, and no other move tells anything. What was told in the calls
along a run is gathered from this, and it is nothing just if no request waited at a stop.
-/
import ReadAhead.Proofs.Source.Opening

set_option autoImplicit false

namespace ReadAhead

/-- What is told of a request to open: whose it is, how it went, and where it is told. -/
structure Telling where
  tag : Tag
  success : Bool
  place : Place
  deriving DecidableEq, Repr

/-- What an event tells of a request to open, if it does. -/
def Event.telling? : Event → Option Telling
  | .opened tag success place => some ⟨tag, success, place⟩
  | .fetch _ | .cancel _ | .read _ _ _ _ => none

theorem Event.telling?_eq_some {event : Event} {telling : Telling} :
    event.telling? = some telling ↔
      event = .opened telling.tag telling.success telling.place := by
  obtain ⟨tag, success, place⟩ := telling
  cases event <;> simp [telling?]

namespace RemoteSource.Session

/-! ## What is told -/

/-- The second session comes of the first, and this is told of requests to open meanwhile. -/
def Tells (s t : Session) (told : List Telling) : Prop :=
  ∃ heard, t.log = s.log ++ heard ∧ heard.filterMap Event.telling? = told

variable {s t u : Session} {told later : List Telling}

theorem Tells.of_eq (h : t.log = s.log) : Tells s t [] :=
  ⟨[], h.trans (List.append_nil _).symm, rfl⟩

theorem Tells.refl : Tells s s [] := .of_eq rfl

theorem Tells.trans (h : Tells s t told) (h' : Tells t u later) : Tells s u (told ++ later) := by
  obtain ⟨heard, hlog, rfl⟩ := h
  obtain ⟨next, hnext, rfl⟩ := h'
  refine ⟨heard ++ next, ?_, List.filterMap_append⟩
  rw [hnext, hlog, List.append_assoc]

theorem tells_record (s : Session) (event : Event) :
    Tells s (s.record event) event.telling?.toList :=
  ⟨[event], rfl, by cases h : event.telling? <;> simp [h]⟩

/-- The parts that tell nothing can stand in front of one that does, or behind it. -/
theorem Tells.after (h : Tells t u told) (h' : Tells s t []) : Tells s u told := h'.trans h

theorem Tells.before (h : Tells s t told) (h' : Tells t u []) : Tells s u told := by
  have hboth := h.trans h'
  rwa [List.append_nil] at hboth

/-! ### The parts of a move -/

theorem tells_foldl_absorb (s : Session) (effects : List Buffer.Effect) :
    Tells s (effects.foldl absorb s) [] := by
  induction effects generalizing s with
  | nil => exact .refl
  | cons effect rest ih =>
    refine (ih (s.absorb effect)).after ?_
    cases effect with
    | start request => exact tells_record s (.fetch request)
    | cancel fetch => exact tells_record s (.cancel fetch)
    | initialized | ended => exact .of_eq rfl

/-- Asking for reads tells readers, and nobody who wants the source opened. -/
theorem tells_ask (s : Session) (place : Place) (plan : Plan) :
    Tells s (s.ask place plan) [] := by
  induction plan generalizing s with
  | done => exact .refl
  | ask first inside rest ihInside ihRest =>
    unfold ask
    cases s.source with
    | none => exact .refl
    | some source =>
      dsimp only
      cases source.refusal? first with
      | some failure => exact ((ihInside _).before (ihRest _)).after (tells_record _ _)
      | none => exact (ihRest _).after (.of_eq rfl)

theorem tells_answer (s : Session) (place : Place) (read : Read) (result : Read.Result) :
    Tells s (s.answer place read result) [] :=
  (tells_ask _ place read.followUps).after (tells_record s (read.answer result place))

theorem tells_look (s : Session) (seek : Bool) : Tells s (s.look seek) [] := by
  cases hwaiting : s.waiting? with
  | none =>
    unfold look
    rw [hwaiting]
    exact .refl
  | some waiting =>
    obtain ⟨source, read⟩ := waiting
    have habsorbed := tells_foldl_absorb s (announce source read seek).2
    rw [look_eq hwaiting seek]
    cases (announced source read seek).look? read with
    | none => exact habsorbed.before (.of_eq (log_cancelRetry _ _ _))
    | some result =>
      have hcancelled := habsorbed.before (.of_eq (log_cancelRetry _ .render
        { announced source read seek with pending := none }))
      exact hcancelled.before (tells_answer _ _ _ _)

/-- **A task tells in its own place**, if it tells anything. -/
theorem tells_perform (s : Session) (task : Task) :
    ∃ told, Tells s (s.perform task) told ∧ ∀ telling ∈ told, telling.place = .render := by
  cases task with
  | look seek => exact ⟨[], tells_look s seek, nofun⟩
  | refuse tag => exact ⟨_, tells_record s (.opened tag false .render), by simp [Event.telling?]⟩
  | report success =>
    show ∃ told, Tells s (s.report success) told ∧ _
    unfold report
    split
    · exact ⟨[], .refl, nofun⟩
    split
    · exact ⟨[], .refl, nofun⟩
    split
    · exact ⟨[], .refl, nofun⟩
    next tag _ =>
    exact ⟨_, tells_record _ (.opened tag success .render), by simp [Event.telling?]⟩

/-- **Who takes leave of a source tells the waiting request on the spot.** -/
theorem tells_dismiss (s : Session) (source : RemoteSource) (left : Option RemoteSource) :
    Tells s (s.dismiss source left) (source.opening.toList.map (⟨·, false, .caller⟩)) := by
  let t : Session := { s.cancelRetry .caller source with source := left }
  have hleft : Tells s t [] := .of_eq (log_cancelRetry s .caller source)
  have hfailed : Tells t (t.failRead source) [] := by
    unfold failRead
    cases source.pending with
    | none => exact .refl
    | some read => exact tells_answer t .caller read _
  have hread : Tells s (t.failRead source) [] := hleft.trans hfailed
  unfold dismiss
  cases source.opening with
  | none => exact hread
  | some tag => exact (tells_record _ (.opened tag false .caller)).after hread

/-! ## What a move tells -/

/-- What a move can tell of requests to open, and where. -/
def Voices (s : Session) : Move → List Telling → Prop
  | .stop, told | .drop, told => told = s.opening?.toList.map (⟨·, false, .caller⟩)
  | .stepRender _, told => ∀ telling ∈ told, telling.place = .render
  | _, told => told = []

/-- **Every move tells in its place.** A stop and a drop tell the waiting request in the
call, a step of the render runner tells in its task, and the other moves tell nothing. -/
theorem voices_move (s : Session) (m : Move) :
    ∃ told, Tells s (s.move m) told ∧ Voices s m told := by
  cases m with
  | requestOpen =>
    refine ⟨[], .of_eq ?_, rfl⟩
    show s.requestOpen.log = s.log
    unfold requestOpen
    cases s.source with
    | none => rfl
    | some source =>
      dsimp only
      split <;> rfl
  | read first inside => exact ⟨[], tells_ask s .caller _, rfl⟩
  | stop =>
    refine ⟨_, ?_, rfl⟩
    show Tells s s.stop _
    unfold stop opening?
    cases s.source with
    | none => exact .refl
    | some source => exact tells_dismiss s source _
  | drop =>
    refine ⟨_, ?_, rfl⟩
    show Tells s s.drop _
    unfold drop opening?
    cases s.source with
    | none => exact .refl
    | some source => exact tells_dismiss s source none
  | deliver fetch signals =>
    refine ⟨[], .of_eq ?_, rfl⟩
    show (s.deliver fetch signals).log = s.log
    unfold deliver
    cases s.source with
    | none => rfl
    | some source =>
      dsimp only
      split <;> rfl
  | stepRender choice =>
    show ∃ told, Tells s (s.stepRender choice) told ∧ _
    rw [stepRender_eq]
    cases (s.render.take choice).1 with
    | none => exact ⟨[], .of_eq rfl, nofun⟩
    | some task =>
      let t : Session := { s with render := (s.render.take choice).2 }
      obtain ⟨told, htold, hplace⟩ := tells_perform t task
      exact ⟨told, htold, hplace⟩
  | stepIo choice =>
    refine ⟨[], ?_, rfl⟩
    show Tells s (s.stepIo choice) []
    unfold stepIo
    obtain ⟨_ | calls, io⟩ := s.io.take choice
    · exact .of_eq rfl
    · show Tells s (call { s with io } calls) []
      unfold call
      cases hsource : s.source with
      | none => exact .of_eq rfl
      | some source => exact (tells_foldl_absorb _ _).after (.of_eq rfl)
  | advance ms => exact ⟨[], .of_eq rfl, rfl⟩

/-! ## What a run tells in its calls -/

/-- The requests that a move leaves without their source. -/
def dismisses (s : Session) : Move → List Tag
  | .stop | .drop => s.opening?.toList
  | _ => []

theorem Voices.inline {m : Move} (h : Voices s m told) :
    told.filter (·.place = .caller) = (s.dismisses m).map (⟨·, false, .caller⟩) := by
  cases m with
  | stop | drop =>
    rw [show told = _ from h]
    exact List.filter_eq_self.2 (by simp)
  | stepRender =>
    refine List.filter_eq_nil_iff.2 fun telling htelling => ?_
    simp [h telling htelling]
  | requestOpen | read | deliver | stepIo | advance =>
    rw [show told = [] from h]
    rfl

/-- **What is told in calls along a run** is told to those who wait at a stop or a drop. -/
theorem tells_play (s : Session) (moves : List Move) :
    ∃ told, Tells s (s.play moves) told ∧
      told.filter (·.place = .caller) = (gather dismisses s moves).map (⟨·, false, .caller⟩) := by
  induction moves generalizing s with
  | nil => exact ⟨[], .refl, rfl⟩
  | cons m rest ih =>
    obtain ⟨told, htold, hvoices⟩ := voices_move s m
    obtain ⟨later, hlater, hinline⟩ := ih (s.move m)
    refine ⟨told ++ later, htold.trans hlater, ?_⟩
    rw [List.filter_append, hvoices.inline, hinline, gather, List.map_append]

theorem opened_caller_mem_log (retryDelay : Nat) (buffer : Buffer) (moves : List Move)
    (tag : Tag) (success : Bool) :
    let fresh := start (.fresh retryDelay buffer)
    .opened tag success .caller ∈ (fresh.play moves).log ↔
      success = false ∧ tag ∈ gather dismisses fresh moves := by
  intro fresh
  obtain ⟨told, ⟨heard, hlog, rfl⟩, hinline⟩ := tells_play fresh moves
  have hheard : (fresh.play moves).log = heard := hlog
  have hmem : (⟨tag, success, .caller⟩ : Telling) ∈
      (heard.filterMap Event.telling?).filter (·.place = .caller) ↔
        .opened tag success .caller ∈ heard := by
    simp [Event.telling?_eq_some]
  rw [hheard, ← hmem, hinline]
  simp only [List.mem_map, Telling.mk.injEq]
  constructor
  · rintro ⟨other, hother, rfl, rfl, -⟩
    exact ⟨rfl, hother⟩
  · rintro ⟨rfl, hin⟩
    exact ⟨tag, hin, rfl, rfl, trivial⟩

/-- **Where requests to open are told.** Along every run, what is told in a call of the
source's user is told to the requests that waited when the source was stopped or given up:
each of them is told there, once, that it failed. Everything else is told by tasks of the
render runner. So all is told by the render runner just if no request waited at a stop or
a drop. -/
theorem dismissed_told_inline (retryDelay : Nat) (buffer : Buffer) (moves : List Move) :
    let fresh := start (.fresh retryDelay buffer)
    let s := fresh.play moves
    let dismissed := gather dismisses fresh moves
    ((∀ tag success place, .opened tag success place ∈ s.log → place = .render) ↔
        dismissed = []) ∧
      (∀ tag success, .opened tag success .caller ∈ s.log ↔ success = false ∧ tag ∈ dismissed) ∧
      (∀ tag ∈ dismissed, s.outcomesOf tag = [false]) ∧
      ∀ m, ∃ heard, (s.move m).log = s.log ++ heard ∧
        ∀ tag success place, .opened tag success place ∈ heard →
          (place = .render ∧ ∃ choice, m = .stepRender choice) ∨
            place = .caller ∧ success = false ∧ (m = .stop ∨ m = .drop) ∧
              s.opening? = some tag := by
  intro fresh s dismissed
  have hcaller : ∀ tag success,
      .opened tag success .caller ∈ s.log ↔ success = false ∧ tag ∈ dismissed :=
    opened_caller_mem_log retryDelay buffer moves
  refine ⟨⟨fun hrender => ?_, fun hnone => ?_⟩, hcaller, fun tag htag => ?_, fun m => ?_⟩
  · refine List.eq_nil_iff_forall_not_mem.2 fun tag htag => ?_
    exact absurd (hrender tag false .caller ((hcaller tag false).2 ⟨rfl, htag⟩)) nofun
  · intro tag success place hopened
    cases place with
    | render => rfl
    | caller =>
      have htag : tag ∈ dismissed := ((hcaller tag success).1 hopened).2
      rw [hnone] at htag
      exact absurd htag List.not_mem_nil
  · have h := (answers_start retryDelay buffer).play moves
    have hfailed : false ∈ s.outcomesOf tag := by
      refine mem_outcomesOf.2 (List.mem_filterMap.2 ⟨.opened tag false .caller, ?_, rfl⟩)
      exact (hcaller tag false).2 ⟨rfl, htag⟩
    -- Nobody is told twice.
    have honce : (s.outcomesOf tag).length ≤ 1 := h.length_outcomesOf_le tag
    obtain ⟨outcome, houtcome⟩ := List.length_eq_one_iff.1
      (Nat.le_antisymm honce (List.length_pos_of_mem hfailed))
    rw [houtcome] at hfailed ⊢
    rw [List.mem_singleton.1 hfailed]
  · obtain ⟨told, ⟨heard, hlog, rfl⟩, hvoices⟩ := voices_move s m
    refine ⟨heard, hlog, fun tag success place hopened => ?_⟩
    have htelling : (⟨tag, success, place⟩ : Telling) ∈ heard.filterMap Event.telling? :=
      List.mem_filterMap.2 ⟨_, hopened, rfl⟩
    cases m with
    | stepRender choice => exact .inl ⟨hvoices _ htelling, choice, rfl⟩
    | stop | drop =>
      rw [show _ = _ from hvoices] at htelling
      obtain ⟨other, hother, heq⟩ := List.mem_map.1 htelling
      obtain ⟨rfl, rfl, rfl⟩ := Telling.mk.inj heq
      exact .inr ⟨rfl, rfl, by simp, Option.mem_toList.1 hother⟩
    | requestOpen | read | deliver | stepIo | advance =>
      rw [show _ = [] from hvoices] at htelling
      exact absurd htelling List.not_mem_nil

/-- Three requests. The first is told by the render runner that the source is open, the
second is told in the stop, and the third, which comes after it, by the render runner. -/
theorem dismissed_told_inline_second :
    let fresh := start (.fresh 10 (Buffer.withCache
      ⟨[], [], [], none, none, .rigid [], none, none⟩ ⟨2, 2, 8, 0⟩ (.empty "" ⟨2⟩ 8)))
    let s := fresh.play [.requestOpen, .stepIo .own, .deliver none [.head ⟨200, none, none⟩],
      .stepIo .own, .stepRender .own, .requestOpen, .stop, .requestOpen, .stepRender .own]
    s.log.filterMap Event.telling? =
        [⟨0, true, .render⟩, ⟨1, false, .caller⟩, ⟨2, false, .render⟩] ∧
      s.outcomesOf 1 = [false] ∧ ¬ ∀ tag success place,
        .opened tag success place ∈ s.log → place = .render := by
  intro fresh s
  obtain ⟨hrender, -, hdismissed, -⟩ := dismissed_told_inline 10 (Buffer.withCache
    ⟨[], [], [], none, none, .rigid [], none, none⟩ ⟨2, 2, 8, 0⟩ (.empty "" ⟨2⟩ 8))
    [.requestOpen, .stepIo .own, .deliver none [.head ⟨200, none, none⟩], .stepIo .own,
      .stepRender .own, .requestOpen, .stop, .requestOpen, .stepRender .own]
  exact ⟨by decide, hdismissed 1 (by decide), fun h => absurd (hrender.1 h) (by decide)⟩

end RemoteSource.Session

end ReadAhead
