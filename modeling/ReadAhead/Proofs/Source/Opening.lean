/-
Which requests to open are answered. A source has room for one request: a new one puts
the one that waits out of its place, and nobody answers that one any more. And the
outcome is reported once, when the first answer is in: a request that finds it reported
already has nothing to wait for but the stop. All others are answered once, and none is
answered twice.

`Accounts` is the invariant. Each request made so far is answered, about to be turned
down, waiting, or displaced, and only one of these; and a request that waits although
the outcome is known has its report on the way, unless it came too late for it. Both
ways of losing a request are gathered along the run, so that the last theorem can say
for each request whether it is answered.
-/
import ReadAhead.Proofs.Buffer.Notices
import ReadAhead.Proofs.Source.Docket
import Mathlib.Data.Multiset.Count

set_option autoImplicit false

namespace ReadAhead.RemoteSource

/-- The request to open that the task turns down, if it does. -/
def Task.refused? : Task → Option Tag
  | .refuse tag => some tag
  | .look _ | .report _ => none

/-- The task reports that the first answer is in. -/
def Task.isReport : Task → Bool
  | .report _ => true
  | .look _ | .refuse _ => false

namespace Docket

/-! ## Requests on a docket -/

/-- The requests that the posted tasks turn down. -/
def refusals (d : Docket) : Multiset Tag := d.posted.filterMap Task.refused?

/-- The request that waits. -/
def opening? (d : Docket) : Option Tag := d.source.bind (·.opening)

/-- How often a request was answered, will be turned down, and waits. -/
def places (d : Docket) (tag : Tag) : Nat :=
  (d.outcomes.map Prod.fst).count tag + d.refusals.count tag + d.opening?.toList.count tag

/-- The first answer is about to be reported. -/
def Reports (d : Docket) : Prop := ∃ task ∈ d.posted, task.isReport = true

/-- The first answer is in, and its report is over. -/
def IsReported (d : Docket) : Prop :=
  ∃ source, d.source = some source ∧ source.stopped = false ∧
    source.buffer.initialized = true ∧ ¬ d.Reports

/-- The requests that a move puts out of their place. -/
def displaces (d : Docket) : Session.Move → List Tag
  | .requestOpen => d.opening?.toList
  | _ => []

/-- The requests to open are accounted for, if these were displaced, and these came when
the first answer was reported. -/
structure Accounts (displaced belated : List Tag) (d : Docket) : Prop where
  /-- Each request is answered, will be turned down, waits, or was displaced. -/
  accounted : ∀ tag, d.places tag + displaced.count tag = (List.range d.opened).count tag
  /-- With a source that is stopped nobody waits. -/
  quiet : ∀ source, d.source = some source → source.stopped = true → source.opening = none
  /-- Who waits when the first answer is in will have it reported, or came too late. -/
  heard : ∀ source tag, d.source = some source → source.stopped = false →
    source.opening = some tag → source.buffer.initialized = true → d.Reports ∨ tag ∈ belated
  /-- Who came too late waits for ever, unless another request comes. -/
  late : ∀ source, d.source = some source → source.stopped = false → ∀ tag ∈ belated,
    source.buffer.initialized = true ∧ ¬ d.Reports ∧ (tag ∈ displaced ∨ source.opening = some tag)

variable {d e : Docket} {task other : Task} {left : Multiset Task}

/-! ## Tasks that are handed out -/

theorem Handed.refusals (h : d.Handed task left) :
    d.posted.filterMap Task.refused? =
      ↑task.refused?.toList + left.filterMap Task.refused? := by
  rcases h with hposted | ⟨rfl, rfl⟩
  · rw [hposted]
    cases htag : task.refused? with
    | none => simpa using Multiset.filterMap_cons_none task left htag
    | some tag => simpa using Multiset.filterMap_cons_some Task.refused? task left htag
  · simp [Task.refused?]

/-- Handing out a task that is no report keeps the report on its way. -/
theorem Handed.reports_iff (h : d.Handed task left) (htask : task.isReport = false)
    (hleft : e.posted = left) : e.Reports ↔ d.Reports := by
  have hne : ∀ other : Task, other.isReport = true → other ≠ task := by
    rintro other hother rfl
    exact absurd (hother.symm.trans htask) nofun
  unfold Reports
  rw [hleft]
  constructor
  · rintro ⟨other, hin, hother⟩
    exact ⟨other, (h.mem_iff (hne other hother)).1 hin, hother⟩
  · rintro ⟨other, hin, hother⟩
    exact ⟨other, (h.mem_iff (hne other hother)).2 hin, hother⟩

/-! ## What the buffer tells -/

theorem announces_iff (effects : List Buffer.Effect) :
    Buffer.Announces effects ↔
      ∃ task ∈ effects.filterMap Buffer.Effect.task?, task.isReport = true := by
  simp only [List.mem_filterMap]
  constructor
  · rintro ⟨success, hin⟩
    exact ⟨.report success, ⟨_, hin, rfl⟩, rfl⟩
  · rintro ⟨task, ⟨effect, hin, htask⟩, hreport⟩
    cases effect with
    | initialized success => exact ⟨success, hin⟩
    | ended =>
      obtain rfl := Option.some.inj htask
      exact absurd hreport nofun
    | start | cancel => exact absurd htask nofun

/-- A look leaves the first answer where it is. -/
theorem initialized_announced (source : RemoteSource) (read : Read) (seek : Bool) :
    (Session.announced source read seek).buffer.initialized = source.buffer.initialized := by
  cases seek with
  | false => rfl
  | true =>
    have hsilent : ¬ Buffer.Announces (source.buffer.step (.seek read.position)).2 := by
      have htasks := Session.tasks_announce source read true
      rw [announces_iff]
      simp only [Session.announce, if_true] at htasks
      simp [htasks]
    obtain ⟨hchange, -⟩ := Buffer.initialized_change
      (Buffer.change_step source.buffer (.seek read.position))
    exact Bool.eq_iff_iff.2 (hchange.trans (or_iff_left hsilent))

/-! ## Every change -/

section

variable {displaced belated : List Tag}

theorem accounts_fresh (retryDelay : Nat) (buffer : Buffer) :
    Accounts [] [] ⟨some (.fresh retryDelay buffer), 0, 0, []⟩ where
  accounted := by simp [places, refusals, opening?, fresh]
  quiet := by
    intro source hsource _
    rw [← Option.some.inj hsource]
    rfl
  heard := by
    intro source tag hsource _ hopening
    rw [← Option.some.inj hsource] at hopening
    exact absurd hopening nofun
  late := fun _ _ _ _ htag => absurd htag List.not_mem_nil

/-- **What touches neither the requests nor the first answer** leaves the account as
it is. -/
theorem Accounts.of_same (h : Accounts displaced belated d)
    (hsource : ∀ source, e.source = some source → ∃ old, d.source = some old ∧
      source.stopped = old.stopped ∧ source.opening = old.opening ∧
      source.buffer.initialized = old.buffer.initialized)
    (hplaces : e.places = d.places) (hopened : e.opened = d.opened)
    (hreports : e.Reports ↔ d.Reports) :
    Accounts displaced belated e where
  accounted := by
    rw [hplaces, hopened]
    exact h.accounted
  quiet := by
    intro source hpresent hstopped
    obtain ⟨old, hold, hsame, hopening, -⟩ := hsource source hpresent
    rw [hopening]
    exact h.quiet old hold (hsame.symm.trans hstopped)
  heard := by
    intro source tag hpresent live hwaits hfirst
    obtain ⟨old, hold, hsame, hopening, hinitialized⟩ := hsource source hpresent
    rw [hreports]
    exact h.heard old tag hold (hsame.symm.trans live) (hopening.symm.trans hwaits)
      (hinitialized.symm.trans hfirst)
  late := by
    intro source hpresent live tag htag
    obtain ⟨old, hold, hsame, hopening, hinitialized⟩ := hsource source hpresent
    rw [hreports, hopening, hinitialized]
    exact h.late old hold (hsame.symm.trans live) tag htag

/-- Where the source is stopped or gone nobody waits, and only the places of the requests
are left to account for. -/
theorem Accounts.of_closed
    (haccounted : ∀ tag, e.places tag + displaced.count tag = (List.range e.opened).count tag)
    (hclosed : ∀ source, e.source = some source →
      source.stopped = true ∧ source.opening = none) : Accounts displaced belated e where
  accounted := haccounted
  quiet := fun source hsource _ => (hclosed source hsource).2
  heard := fun source _ hsource live =>
    absurd (live.symm.trans (hclosed source hsource).1) Bool.false_ne_true
  late := fun source hsource live =>
    absurd (live.symm.trans (hclosed source hsource).1) Bool.false_ne_true

theorem Accounts.accepts (h : Accounts displaced belated d) (hc : Accepts d e) :
    Accounts displaced belated e := by
  cases hc with
  | none => exact h
  | one source read present =>
    refine h.of_same (fun other hother => ?_) ?_ rfl ?_
    · rw [← Option.some.inj hother]
      exact ⟨source, present, rfl, rfl, rfl⟩
    · have hnone : (Task.look true).refused? = none := rfl
      funext tag
      simp [places, refusals, opening?, present, Multiset.filterMap_cons_none _ _ hnone]
    · simp [Reports, Task.isReport]

/-- A request that waits displaces the one before it. -/
theorem Accounts.requested (h : Accounts displaced belated d) {source : RemoteSource}
    (present : d.source = some source) (live : source.stopped = false) {missed : List Tag}
    (hmissed : ∀ tag, tag ∈ missed ↔ tag = d.opened ∧ d.IsReported) :
    Accounts (displaced ++ d.displaces .requestOpen) (belated ++ missed)
      { d with
        source := some { source with opening := some d.opened }, opened := d.opened + 1 } where
  accounted := by
    intro tag
    have haccounted := h.accounted tag
    simp only [places, refusals, opening?, displaces, present, Option.bind_some, Option.toList_some,
      List.range_succ, List.count_append] at haccounted ⊢
    omega
  quiet := by
    intro other hother hstopped
    rw [← Option.some.inj hother] at hstopped
    exact absurd (live.symm.trans hstopped) Bool.false_ne_true
  heard := by
    intro other tag hother _ hopening hfirst
    rw [← Option.some.inj hother] at hopening hfirst
    by_cases hreports : d.Reports
    · exact .inl hreports
    · have hnow : tag = d.opened := (Option.some.inj hopening).symm
      have hlate := (hmissed tag).2 ⟨hnow, source, present, live, hfirst, hreports⟩
      exact .inr (List.mem_append_right _ hlate)
  late := by
    intro other hother _ tag htag
    rw [← Option.some.inj hother]
    rcases List.mem_append.1 htag with hold | hnew
    · -- Whoever came too late before gives way now, if nobody else made it.
      obtain ⟨hfirst, hreports, hwaits⟩ := h.late source present live tag hold
      refine ⟨hfirst, hreports, .inl (List.mem_append.2 (hwaits.imp_right fun hopening => ?_))⟩
      rw [displaces, opening?, present, Option.bind_some, hopening]
      exact List.mem_singleton_self tag
    · obtain ⟨rfl, known, hknown, -, hfirst, hreports⟩ := (hmissed tag).1 hnew
      obtain rfl := Option.some.inj (present.symm.trans hknown)
      exact ⟨hfirst, hreports, .inr rfl⟩

/-- The end of the source answers the request that waits. -/
theorem Accounts.takesLeave (h : Accounts displaced belated d) {source : RemoteSource}
    (present : d.source = some source) {left : Option RemoteSource}
    (hclosed : ∀ other, left = some other → other.stopped = true ∧ other.opening = none) :
    Accounts displaced belated
      { d with
        source := left, outcomes := d.outcomes ++ source.opening.toList.map (·, false) } := by
  refine .of_closed ?_ hclosed
  have hnobody : left.bind (·.opening) = none := by
    cases left with
    | none => rfl
    | some other => exact (hclosed other rfl).2
  intro tag
  have haccounted := h.accounted tag
  simp only [places, refusals, opening?, present, hnobody, Option.bind_some, Option.toList_none,
    List.map_append, List.map_map, Function.comp_def, List.map_id', List.count_append,
    List.count_nil] at haccounted ⊢
  omega

/-- **A job of the I/O runner has the first answer reported** when it brings it in. -/
theorem Accounts.called (h : Accounts displaced belated d) {source : RemoteSource}
    (calls : List Buffer.Call) (present : d.source = some source) :
    Accounts displaced belated
      { d with
        source := some { source with buffer := source.buffer.after calls }
        posted := ↑((source.buffer.run calls).2.filterMap Buffer.Effect.task?) + d.posted } := by
  obtain ⟨hfirst, honce⟩ := Buffer.initialized_run source.buffer calls
  rw [announces_iff] at hfirst honce
  have hreports : Reports
      { d with
        source := some { source with buffer := source.buffer.after calls }
        posted := ↑((source.buffer.run calls).2.filterMap Buffer.Effect.task?) + d.posted } ↔
      (∃ task ∈ (source.buffer.run calls).2.filterMap Buffer.Effect.task?,
        task.isReport = true) ∨ d.Reports := by
    simp only [Reports, Multiset.mem_add, Multiset.mem_coe, or_and_right, exists_or]
  have hnone : ((source.buffer.run calls).2.filterMap Buffer.Effect.task?).filterMap
      Task.refused? = [] := by
    refine List.filterMap_eq_nil_iff.2 fun task htask => ?_
    obtain ⟨effect, -, heffect⟩ := List.mem_filterMap.1 htask
    cases effect <;> cases heffect <;> rfl
  refine ⟨?_, ?_, ?_, ?_⟩
  · intro tag
    have haccounted := h.accounted tag
    simpa [places, refusals, opening?, present, Multiset.filterMap_add, hnone] using haccounted
  · intro other hother hstopped
    rw [← Option.some.inj hother] at hstopped ⊢
    exact h.quiet source present hstopped
  · intro other tag hother live hopening hinitialized
    rw [← Option.some.inj hother] at live hopening hinitialized
    rw [hreports]
    rcases hfirst.1 hinitialized with hbefore | hnow
    · exact (h.heard source tag present live hopening hbefore).imp_left .inr
    · exact .inl (.inl hnow)
  · intro other hother live tag htag
    rw [← Option.some.inj hother] at live ⊢
    obtain ⟨hbefore, hover, hwaits⟩ := h.late source present live tag htag
    refine ⟨hfirst.2 (.inl hbefore), ?_, hwaits⟩
    rw [hreports, not_or]
    exact ⟨honce hbefore, hover⟩

/-- A request that comes after the stop is going to be turned down. -/
theorem Accounts.refusing (h : Accounts displaced belated d) {source : RemoteSource}
    (present : d.source = some source) (stopped : source.stopped = true) :
    Accounts displaced belated
      { d with posted := .refuse d.opened ::ₘ d.posted, opened := d.opened + 1 } := by
  refine .of_closed (fun tag => ?_) fun other hother => ?_
  · have haccounted := h.accounted tag
    have htag : (Task.refuse d.opened).refused? = some d.opened := rfl
    simp only [places, refusals, opening?, Multiset.filterMap_cons_some _ _ _ htag,
      Multiset.count_cons, List.range_succ, List.count_append, List.count_singleton, beq_iff_eq,
      eq_comm (a := tag)] at haccounted ⊢
    omega
  · obtain rfl := Option.some.inj (present.symm.trans hother)
    exact ⟨stopped, h.quiet source present stopped⟩

/-- A look leaves the requests alone, whatever becomes of the read. -/
theorem Accounts.looked (h : Accounts displaced belated d) {source : RemoteSource} {read : Read}
    {seek : Bool} (handed : d.Handed (.look seek) left) (present : d.source = some source)
    (waits : Option Read) :
    Accounts displaced belated
      { d with
        source := some { Session.announced source read seek with pending := waits }
        posted := left } := by
  refine h.of_same (fun other hother => ?_) (funext fun tag => ?_) rfl
    (handed.reports_iff rfl rfl)
  · rw [← Option.some.inj hother]
    exact ⟨source, present, rfl, rfl, initialized_announced source read seek⟩
  · have hrefusals := handed.refusals
    rw [show (Task.look seek).refused? = none from rfl, Option.toList_none, Multiset.coe_nil,
      Multiset.zero_add] at hrefusals
    simp only [places, refusals, opening?, hrefusals, present]
    rfl

/-- A report that is carried out answers the request that waits. -/
theorem Accounts.told (h : Accounts displaced belated d) {source : RemoteSource} {tag : Tag}
    {success : Bool} (handed : d.Handed (.report success) left) (present : d.source = some source)
    (live : source.stopped = false) (waits : source.opening = some tag) :
    Accounts displaced belated
      { d with
        source := some { source with opening := none }, posted := left
        outcomes := d.outcomes ++ [(tag, success)] } := by
  refine ⟨fun other => ?_, fun other hother _ => ?_, fun other _ hother _ hopening => ?_,
    fun other hother _ late hlate => ?_⟩
  · have haccounted := h.accounted other
    have hrefusals := handed.refusals
    simp only [places, refusals, opening?, hrefusals, present, waits, Task.refused?,
      Option.bind_some, Option.toList_none, Option.toList_some, Multiset.coe_nil,
      Multiset.zero_add, List.map_append, List.map_cons, List.map_nil, List.count_append,
      List.count_nil] at haccounted ⊢
    omega
  · rw [← Option.some.inj hother]
  · rw [← Option.some.inj hother] at hopening
    exact absurd hopening nofun
  · -- The report was on its way until now, so nobody came too late for it.
    obtain ⟨-, hover, -⟩ := h.late source present live late hlate
    exact absurd ⟨_, handed.mem nofun, rfl⟩ hover

/-- A task that turns a request down does that. -/
theorem Accounts.refused (h : Accounts displaced belated d) {tag : Tag}
    (handed : d.Handed (.refuse tag) left) :
    Accounts displaced belated
      { d with posted := left, outcomes := d.outcomes ++ [(tag, false)] } := by
  refine h.of_same (fun source hsource => ⟨source, hsource, rfl, rfl, rfl⟩) (funext fun other => ?_)
    rfl (handed.reports_iff rfl rfl)
  have hrefusals := handed.refusals
  simp only [places, refusals, opening?, hrefusals, Task.refused?, Option.toList_some,
    Multiset.count_add, Multiset.coe_count, List.map_append, List.map_cons, List.map_nil,
    List.count_append]
  omega

/-- A task of which nothing comes was not waited for. -/
theorem Accounts.ignored (h : Accounts displaced belated d) (handed : d.Handed task left)
    (hignores : d.Ignores task) : Accounts displaced belated { d with posted := left } := by
  have hrefusals := handed.refusals
  have hplaces : task.refused? = none → places { d with posted := left } = d.places := by
    intro htag
    rw [htag, Option.toList_none, Multiset.coe_nil, Multiset.zero_add] at hrefusals
    funext other
    simp only [places, refusals, opening?, hrefusals]
  cases task with
  | look seek =>
    exact h.of_same (fun source hsource => ⟨source, hsource, rfl, rfl, rfl⟩) (hplaces rfl) rfl
      (handed.reports_iff rfl rfl)
  | report success =>
    refine ⟨?_, h.quiet, fun source tag present live waits => ?_,
      fun source present live tag htag => ?_⟩
    · rw [hplaces rfl]
      exact h.accounted
    · rcases hignores source present with stopped | hnobody
      · exact absurd (live.symm.trans stopped) Bool.false_ne_true
      · exact absurd (hnobody.symm.trans waits) nofun
    · obtain ⟨-, hover, -⟩ := h.late source present live tag htag
      exact absurd ⟨_, handed.mem nofun, rfl⟩ hover
  | refuse tag => exact hignores.elim

/-- **Only a request to open displaces or misses anything**, and only if there is a source
to ask that is not stopped. -/
theorem Accounts.undisturbed (h : Accounts displaced belated d) {m : Session.Move}
    {missed : List Tag}
    (hmissed : ∀ tag, tag ∈ missed ↔ m = .requestOpen ∧ tag = d.opened ∧ d.IsReported)
    (hother : m ≠ .requestOpen ∨ d.source = none ∨
      ∃ source, d.source = some source ∧ source.stopped = true)
    (he : Accounts displaced belated e) :
    Accounts (displaced ++ d.displaces m) (belated ++ missed) e := by
  have hdisplaces : d.displaces m = [] := by
    cases m with
    | requestOpen =>
      have hnobody : d.opening? = none := by
        rcases hother with hne | hgone | ⟨source, present, stopped⟩
        · exact absurd rfl hne
        · rw [opening?, hgone, Option.bind_none]
        · rw [opening?, present, Option.bind_some, h.quiet source present stopped]
      rw [displaces, hnobody, Option.toList_none]
    | _ => rfl
  have hmissed : missed = [] := by
    refine List.eq_nil_iff_forall_not_mem.2 fun tag htag => ?_
    obtain ⟨hopen, -, source, present, live, -⟩ := (hmissed tag).1 htag
    rcases hother with hne | hgone | ⟨other, hother, stopped⟩
    · exact hne hopen
    · exact absurd (hgone.symm.trans present) (Option.some_ne_none source).symm
    · obtain rfl := Option.some.inj (hother.symm.trans present)
      exact absurd (live.symm.trans stopped) Bool.false_ne_true
  rw [hdisplaces, hmissed, List.append_nil, List.append_nil]
  exact he

/-- **Every change keeps the account**, with what the move displaces and misses. -/
theorem Accounts.change {m : Session.Move} (h : Accounts displaced belated d)
    {given : Option Task} (hc : Change d m given e) {missed : List Tag}
    (hmissed : ∀ tag, tag ∈ missed ↔ m = .requestOpen ∧ tag = d.opened ∧ d.IsReported) :
    Accounts (displaced ++ d.displaces m) (belated ++ missed) e := by
  cases hc with
  | requested source present live =>
    exact h.requested present live fun tag => (hmissed tag).trans (and_iff_right rfl)
  | kept m _ hkept => exact h.undisturbed hmissed (hkept.symm.imp (·.1) .inl) h
  | refusing source present stopped =>
    have hstopped : ∃ other, d.source = some other ∧ other.stopped = true :=
      ⟨source, present, stopped⟩
    exact h.undisturbed hmissed (.inr (.inr hstopped)) (h.refusing present stopped)
  | stopped source present =>
    refine h.undisturbed hmissed (.inl nofun) (h.takesLeave present fun other hother => ?_)
    rw [← Option.some.inj hother]
    exact ⟨rfl, rfl⟩
  | dropped source present =>
    refine h.undisturbed hmissed (.inl nofun) (h.takesLeave present fun other hother => ?_)
    exact absurd hother.symm (Option.some_ne_none other)
  | ignored task left handed _ hignores =>
    exact h.undisturbed hmissed (.inl nofun) (h.ignored handed hignores)
  | searched source read seek left handed present =>
    exact h.undisturbed hmissed (.inl nofun)
      (h.looked handed present (Session.announced source read seek).pending)
  | found source read seek left handed present =>
    exact h.undisturbed hmissed (.inl nofun) (h.looked handed present none)
  | told source tag success left handed present live waits =>
    exact h.undisturbed hmissed (.inl nofun) (h.told handed present live waits)
  | refused tag left handed => exact h.undisturbed hmissed (.inl nofun) (h.refused handed)
  | called source calls present =>
    exact h.undisturbed hmissed (.inl nofun) (h.called calls present)

end

end Docket

namespace Session

open Docket

/-! ## Requests of a session -/

/-- The request to open that waits. -/
def opening? (s : Session) : Option Tag := s.source.bind (·.opening)

/-- What was told of a request to open. -/
def outcomesOf (s : Session) (tag : Tag) : List Bool :=
  (s.outcomes.filter (·.1 == tag)).map Prod.snd

/-- The first answer is in, its report is over, and the source is not stopped. -/
def isReported (s : Session) : Bool :=
  match s.source with
  | none => false
  | some source =>
    !source.stopped && source.buffer.initialized && !s.render.posted.any Task.isReport

/-- The requests that a move puts out of their place: a new one takes it. -/
def displaces (s : Session) : Move → List Tag
  | .requestOpen => s.opening?.toList
  | _ => []

/-- The requests of a move that come when the first answer was reported. -/
def misses (s : Session) : Move → List Tag
  | .requestOpen => if s.isReported then [s.opened] else []
  | _ => []

/-- What the moves of a run give, put together. -/
def gather (f : Session → Move → List Tag) (s : Session) : List Move → List Tag
  | [] => []
  | m :: rest => f s m ++ gather f (s.move m) rest

variable {s : Session} {delay : Nat} {displaced belated : List Tag}

theorem opening?_docket (s : Session) : s.docket.opening? = s.opening? := by
  unfold Docket.opening? opening? docket
  cases s.source <;> rfl

theorem length_outcomesOf (s : Session) (tag : Tag) :
    (s.outcomesOf tag).length = (s.docket.outcomes.map Prod.fst).count tag := by
  rw [outcomesOf, List.length_map, ← List.countP_eq_length_filter, List.count, List.countP_map]
  rfl

theorem mem_outcomesOf {tag : Tag} {success : Bool} :
    success ∈ s.outcomesOf tag ↔ (tag, success) ∈ s.outcomes := by
  simp [outcomesOf]

theorem isReported_iff (s : Session) : s.isReported = true ↔ s.docket.IsReported := by
  have hreports : s.docket.Reports ↔ s.render.posted.any Task.isReport = true := by
    rw [List.any_eq_true]
    rfl
  unfold isReported IsReported
  rw [hreports]
  simp only [docket]
  cases s.source with
  | none => simp
  | some source => simp [untimed, and_assoc]

/-- The moves made so far are in order, and the requests to open accounted for. -/
structure Answers (delay : Nat) (displaced belated : List Tag) (s : Session) : Prop
    extends Orderly delay s where
  accounts : s.docket.Accounts displaced belated

theorem answers_start (delay : Nat) (buffer : Buffer) :
    (start (.fresh delay buffer)).Answers delay [] [] :=
  ⟨orderly_start delay buffer, accounts_fresh delay buffer⟩

theorem Answers.move (h : s.Answers delay displaced belated) (m : Move) :
    (s.move m).Answers delay (displaced ++ s.displaces m) (belated ++ s.misses m) := by
  obtain ⟨horderly, e, hchange, haccepts⟩ := h.toOrderly.move m
  have hdisplaces : s.docket.displaces m = s.displaces m := by
    cases m with
    | requestOpen => exact congrArg Option.toList s.opening?_docket
    | _ => rfl
  have hmissed : ∀ tag, tag ∈ s.misses m ↔
      m = .requestOpen ∧ tag = s.docket.opened ∧ s.docket.IsReported := by
    intro tag
    rw [← isReported_iff]
    cases m with
    | requestOpen => by_cases hover : s.isReported = true <;> simp [misses, hover, docket]
    | _ => simp [misses]
  have haccounts := (h.accounts.change hchange hmissed).accepts haccepts
  rw [hdisplaces] at haccounts
  exact ⟨horderly, haccounts⟩

/-- **On every run the requests to open are accounted for.** -/
theorem Answers.play (h : s.Answers delay displaced belated) (moves : List Move) :
    (s.play moves).Answers delay (displaced ++ gather displaces s moves)
      (belated ++ gather misses s moves) := by
  induction moves generalizing s displaced belated with
  | nil =>
    rw [gather, gather, List.append_nil, List.append_nil]
    exact h
  | cons m rest ih =>
    have hrest := ih (h.move m)
    rw [List.append_assoc, List.append_assoc] at hrest
    exact hrest

/-! ## Which requests are answered -/

theorem Answers.length_outcomesOf_le (h : s.Answers delay displaced belated) (tag : Tag) :
    (s.outcomesOf tag).length ≤ 1 := by
  have haccounted := h.accounts.accounted tag
  have hrange : (List.range s.docket.opened).count tag ≤ 1 := by
    rw [List.count_range]
    split <;> omega
  rw [length_outcomesOf]
  rw [places] at haccounted
  omega

/-- **Once the outcome is known and the tasks are done**, a request that was not answered
was displaced, or came too late. -/
theorem Answers.outcomesOf_eq_nil (h : s.Answers delay displaced belated)
    (hidle : s.render.queue = [])
    (hknown : ∀ source, s.source = some source →
      source.buffer.initialized = true ∨ source.stopped = true)
    {tag : Tag} (htag : tag < s.opened) :
    s.outcomesOf tag = [] ↔ tag ∈ displaced ∨
      tag ∈ belated ∧ ∃ source, s.source = some source ∧ source.stopped = false := by
  have hposted : s.docket.posted = 0 := by
    show ((s.render.queue.filterMap Runner.Job.posted? : List Task) : Multiset Task) = 0
    rw [hidle]
    rfl
  have hsilent : ¬ s.docket.Reports := by
    rw [Reports, hposted]
    simp
  have haccounted := h.accounts.accounted tag
  rw [places, refusals, hposted, opening?_docket, Multiset.filterMap_zero, Multiset.count_zero,
    List.count_range, if_pos (show tag < s.docket.opened from htag),
    ← length_outcomesOf] at haccounted
  rw [← List.length_eq_zero_iff, ← List.count_pos_iff]
  have hpresent : ∀ source, s.source = some source → s.docket.source = some source.untimed :=
    fun source hsource => congrArg (Option.map untimed) hsource
  constructor
  · intro hnone
    by_cases hdisplaced : 0 < displaced.count tag
    · exact .inl hdisplaced
    · -- Nobody displaced the request, so it waits, and it waits in vain.
      have hwaits : 0 < s.opening?.toList.count tag := by omega
      rw [List.count_pos_iff, Option.mem_toList, opening?,
        Option.bind_eq_some_iff] at hwaits
      obtain ⟨source, hsource, hopening⟩ := hwaits
      have live : source.stopped = false := by
        rw [← Bool.not_eq_true]
        intro hstopped
        have hquiet := h.accounts.quiet _ (hpresent source hsource) hstopped
        exact absurd (hquiet.symm.trans hopening) nofun
      have hfirst : source.buffer.initialized = true :=
        (hknown source hsource).resolve_right (by simp [live])
      have hlate := h.accounts.heard _ tag (hpresent source hsource) live hopening hfirst
      exact .inr ⟨hlate.resolve_left hsilent, source, hsource, live⟩
  · rintro (hdisplaced | ⟨hlate, source, hsource, live⟩)
    · omega
    · obtain ⟨-, -, hwaits⟩ := h.accounts.late _ (hpresent source hsource) live tag hlate
      rcases hwaits with hdisplaced | hopening
      · have := List.count_pos_iff.2 hdisplaced
        omega
      · have hopen : s.opening? = some tag := by
          rw [opening?, hsource]
          exact hopening
        rw [hopen, Option.toList_some, List.count_singleton_self] at haccounted
        omega

/-- **Which requests to open are answered.** No request is answered twice. When the first
answer of a transfer is in, or the source is stopped or gone, and the render runner has
nothing left to do, the requests that are not answered are these: those that another
request displaced while they waited, and those that came when the outcome had been
reported, as long as the source is not stopped. -/
theorem requests_answered (retryDelay : Nat) (buffer : Buffer) (moves : List Move) :
    let fresh := start (.fresh retryDelay buffer)
    let s := fresh.play moves
    (∀ tag, (s.outcomesOf tag).length ≤ 1) ∧
      (s.render.queue = [] →
        (∀ source, s.source = some source →
          source.buffer.initialized = true ∨ source.stopped = true) →
        ∀ tag < s.opened, s.outcomesOf tag = [] ↔
          tag ∈ gather displaces fresh moves ∨
            tag ∈ gather misses fresh moves ∧
              ∃ source, s.source = some source ∧ source.stopped = false) := by
  intro fresh s
  have h : s.Answers retryDelay ([] ++ gather displaces fresh moves)
      ([] ++ gather misses fresh moves) := (answers_start retryDelay buffer).play moves
  rw [List.nil_append, List.nil_append] at h
  exact ⟨h.length_outcomesOf_le, fun hidle hknown tag htag => h.outcomesOf_eq_nil hidle hknown htag⟩

/-- Three requests. The second displaces the first, the answer comes and is reported to
the second, and the third comes after that. -/
theorem requests_answered_once_in_three :
    let fresh := start (.fresh 10 (Buffer.withCache
      ⟨[], [], [], none, none, .rigid [], none, none⟩ ⟨2, 2, 8, 0⟩ (.empty "" ⟨2⟩ 8)))
    let s := fresh.play [.requestOpen, .requestOpen, .stepIo .own, .stepIo .own,
      .deliver none [.head ⟨200, none, none⟩], .stepIo .own, .stepRender .own, .requestOpen,
      .stepIo .own]
    s.outcomesOf 0 = [] ∧ s.outcomesOf 1 = [true] ∧ s.outcomesOf 2 = [] := by
  intro fresh s
  obtain ⟨-, hanswered⟩ := requests_answered 10 (Buffer.withCache
    ⟨[], [], [], none, none, .rigid [], none, none⟩ ⟨2, 2, 8, 0⟩ (.empty "" ⟨2⟩ 8))
    [.requestOpen, .requestOpen, .stepIo .own, .stepIo .own,
      .deliver none [.head ⟨200, none, none⟩], .stepIo .own, .stepRender .own, .requestOpen,
      .stepIo .own]
  have hknown : ∀ source, s.source = some source →
      source.buffer.initialized = true ∨ source.stopped = true := by
    intro source hsource
    have hfirst : s.source.map (·.buffer.initialized) = some true := by decide
    rw [hsource] at hfirst
    exact .inl (Option.some.inj hfirst)
  have hlive : ∃ source, s.source = some source ∧ source.stopped = false := by
    refine ⟨s.source.get (by decide), (Option.some_get _).symm, by decide⟩
  have hiff := hanswered (by decide) hknown
  exact ⟨(hiff 0 (by decide)).2 (.inl (by decide)), by decide,
    (hiff 2 (by decide)).2 (.inr ⟨by decide, hlive⟩)⟩

end Session

end ReadAhead.RemoteSource
