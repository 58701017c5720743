/-
What every run of a source over a local file keeps to. A read is answered once or it is the
one that waits, and whoever waits has a task that will come up; a source that is stopped has
nobody waiting, and promises nothing any more; a request to open is answered once, by the
runner, and in its turn.

`Orderly` gathers this, and each part is carried by every step. That a task comes up is more
than that it waits: others may overtake it. `Due` bounds the steps that a read has to wait for,
of those in which the runner looks first at what came from inside. Whatever else happens
meanwhile, other steps of the runner among it, puts the task off no further.
-/
import ReadAhead.Proofs.File.Settling

set_option autoImplicit false

namespace ReadAhead

/-- The buffer that comes back is as long as the one that was given. -/
def Answer.Fits (answer : Answer) (given : Bytes) : Prop := answer.buffer.length = given.length

/-- The request to open that an event answers, and where, if it answers one. -/
def Event.opening? : Event → Option (Tag × Place)
  | .opened tag _ place => some (tag, place)
  | .fetch _ | .cancel _ | .read _ _ _ _ => none

namespace FileSource

/-- The request to open that a task answers, if it answers one. -/
def Task.opening? : Task → Option Tag
  | .report tag _ => some tag
  | .look => none

namespace Session

/-- The answers to reads that were heard, in order. -/
def answers (s : Session) : List Answer := s.log.filterMap Event.answer?

/-- The answers that were heard to a read. -/
def answersTo (s : Session) (tag : Tag) : List Answer := s.answers.filter (·.tag == tag)

/-- The reads of a session. -/
def register (s : Session) : Register := ⟨s.pending?, s.asked, s.answers⟩

/-- The requests to open that were answered, and where, in order. -/
def openings (s : Session) : List (Tag × Place) := s.log.filterMap Event.opening?

/-- The requests to open whose answers are on their way, in order. -/
def reports (s : Session) : List Tag := s.render.posted.filterMap Task.opening?

/-- The source is stopped, or gone. -/
def Closed (s : Session) : Prop := ∀ source, s.source = some source → source.stopped = true

/-- What every session keeps to. -/
structure Orderly (s : Session) : Prop where
  plain : s.render.Plain
  balanced : s.register.Balanced Answer.Fits
  /-- With a source that is stopped nobody waits. -/
  quiet : s.Closed → s.pending? = none
  /-- What comes from inside are looks alone. -/
  inner : ∀ task ∈ s.render.postedFrom .inside, task = .look
  /-- Who waits is given a look. -/
  attended : ∀ read, s.pending? = some read → .look ∈ s.render.posted
  /-- Requests to open are answered in order, by the runner. -/
  told : s.openings ++ s.reports.map (·, .render) = (List.range s.opened).map (·, .render)

variable {s t : Session}

/-! ## Reads -/

theorem answers_record (s : Session) (event : Event) :
    (s.record event).answers = s.answers ++ event.answer?.toList :=
  Event.filterMap_answer?_concat s.log event

theorem answers_turnAway (s : Session) (place : Place) (first : Ask) (failure : Failure) :
    (s.turnAway place first failure).answers =
      s.answers ++ [⟨s.asked.length, .failed failure, first.buffer⟩] :=
  Event.filterMap_answer?_concat s.log _

/-- What is told of a request to open is no answer to a read. -/
theorem answers_told (s : Session) (tag : Tag) (success : Bool) (place : Place) :
    (s.record (.opened tag success place)).answers = s.answers := by
  rw [answers_record]
  exact List.append_nil _

/-- A look tells the read that waits. -/
theorem answers_complete (s : Session) (source : FileSource) (read : Read) :
    (s.complete source read).answers = s.answers ++
      [⟨(source.readOn s.disk read).2.tag, (source.readOn s.disk read).1,
        (source.readOn s.disk read).2.buffer⟩] := answers_record _ _

/-- A source that takes its leave tells the read that waits. -/
theorem answers_takeLeave (s : Session) (source : FileSource) (left : Option FileSource) :
    (s.takeLeave source left).answers = s.answers ++ Register.farewell source.pending := by
  unfold answers takeLeave Register.farewell
  rw [List.filterMap_append]
  cases source.pending <;> rfl

theorem pending?_takeLeave (s : Session) (source : FileSource) {left : Option FileSource}
    (h : left = some source.retired ∨ left = none) :
    (s.takeLeave source left).pending? = none := by
  rcases h with rfl | rfl <;> rfl

theorem pending?_tryOpen {source : FileSource} (present : s.source = some source) :
    (s.tryOpen source).pending? = s.pending? := by
  rw [pending?_of_source present]
  exact (source.openOn_same s.disk).2

/-- **Every step keeps the register in order.** -/
theorem balanced_step (h : Step s t) (hs : s.register.Balanced Answer.Fits) :
    t.register.Balanced Answer.Fits := by
  cases h with
  | refused source place first failure present h =>
    unfold register
    rw [answers_turnAway]
    exact hs.refused first rfl
  | accepted source place first inside present h =>
    obtain ⟨-, hroom, hfree⟩ := refusal?_eq_none h
    have hnobody : Register.Balanced Answer.Fits ⟨none, s.asked, s.answers⟩ := by
      rw [← hfree, ← pending?_of_source present]
      exact hs
    exact hnobody.accepted first inside hroom
  | turned choice t inside h =>
    cases h with
    | ignored => exact hs
    | told =>
      unfold register
      rw [answers_told]
      exact hs
    | completed left handed source read present live waits =>
      obtain ⟨htag, -⟩ := source.readOn_same s.disk read
      have hpending : s.pending? = some read := (pending?_of_source present).trans waits
      unfold register
      rw [answers_complete]
      refine hs.ended ?_ ?_
      · show [(source.readOn s.disk read).2.tag] = _
        rw [htag, hpending]
        rfl
      · intro answer hin other hother
        obtain rfl : read = other := Option.some.inj (hpending.symm.trans hother)
        obtain rfl := List.mem_singleton.1 hin
        exact ⟨htag, source.length_readOn s.disk read⟩
  | opened source present =>
    unfold register
    rw [pending?_tryOpen present]
    exact hs
  | closed source left present hleft =>
    unfold register
    rw [answers_takeLeave, pending?_takeLeave s source hleft, ← pending?_of_source present]
    exact hs.farewell fun _ => rfl
  | altered => exact hs

/-! ## Sources that are stopped -/

/-- The source is stopped or gone by now, and all that it answered meanwhile is that it is
stopped. -/
structure Hushed (s t : Session) : Prop where
  closed : t.Closed
  heard : ∃ heard, t.answers = s.answers ++ heard ∧
    ∀ answer ∈ heard, answer.result = .failed .stopped

theorem Hushed.trans {u : Session} (h : Hushed s t) (h' : Hushed t u) : Hushed s u := by
  obtain ⟨heard, hanswers, hstopped⟩ := h.heard
  obtain ⟨later, hlater, hstoppedlater⟩ := h'.heard
  refine ⟨h'.closed, heard ++ later, by rw [hlater, hanswers, List.append_assoc], ?_⟩
  simp only [List.mem_append, or_imp, forall_and]
  exact ⟨hstopped, hstoppedlater⟩

theorem hushed_of_answers (hclosed : t.Closed) (hsame : t.answers = s.answers) : Hushed s t :=
  ⟨hclosed, [], hsame.trans (List.append_nil _).symm, nofun⟩

theorem hushed_takeLeave (s : Session) (source : FileSource) {left : Option FileSource}
    (h : left = some source.retired ∨ left = none) : Hushed s (s.takeLeave source left) := by
  refine ⟨fun other hother => ?_, _, answers_takeLeave s source left, fun answer hin => ?_⟩
  · rcases h with rfl | rfl
    · rw [← Option.some.inj hother]
      rfl
    · exact absurd hother nofun
  · obtain ⟨read, -, rfl⟩ := List.mem_map.1 hin
    rfl

/-- **Whatever happens to a source that is stopped or gone**, it stays so, and what it answers
is that it is stopped. -/
theorem hushed_step (h : Step s t) (hs : s.Closed) : Hushed s t := by
  cases h with
  | refused source place first failure present h =>
    have hfailure : failure = .stopped := by
      rw [refusal?, if_pos (hs source present)] at h
      exact (Option.some.inj h).symm
    refine ⟨hs, _, answers_turnAway s place first failure, fun answer hin => ?_⟩
    rw [List.mem_singleton.1 hin, hfailure]
  | accepted source place first inside present h =>
    obtain ⟨live, -⟩ := refusal?_eq_none h
    exact absurd (live.symm.trans (hs source present)) Bool.false_ne_true
  | turned choice t inside h =>
    cases h with
    | ignored => exact hushed_of_answers hs rfl
    | completed left handed source read present live =>
      exact absurd (live.symm.trans (hs source present)) Bool.false_ne_true
    | told => exact hushed_of_answers hs (answers_told _ _ _ _)
  | opened source present =>
    refine hushed_of_answers (fun other hother => ?_) rfl
    rw [← Option.some.inj hother]
    exact (source.openOn_same s.disk).1.trans (hs source present)
  | closed source left present hleft => exact hushed_takeLeave s source hleft
  | altered => exact hushed_of_answers hs rfl

theorem hushed_steps (h : Steps s t) (hs : s.Closed) : Hushed s t :=
  h.induction (fun _ _ hstep h => h.trans (hushed_step hstep h.closed)) (hushed_of_answers hs rfl)

/-- **Stopping or giving up a source hushes it**, and what is asked inside the answer that
this gives comes too late. -/
theorem hushed_close (s : Session) {m : Move} (hm : m = .stop ∨ m = .drop) :
    Hushed s (s.move m) := by
  rcases s.close_eq hm with ⟨hgone, hmove⟩ | ⟨source, left, inside, present, hleft, hmove⟩
  · rw [hmove]
    exact hushed_of_answers (fun source present => absurd (hgone.symm.trans present) nofun) rfl
  · have hleave := hushed_takeLeave s source hleft
    rw [hmove]
    exact hleave.trans (hushed_steps (steps_ask _ .caller inside) hleave.closed)

/-- **A source that is stopped has nobody waiting.** -/
theorem quiet_step (h : Step s t) (hs : s.Closed → s.pending? = none) (ht : t.Closed) :
    t.pending? = none := by
  cases h with
  | refused | altered => exact hs ht
  | accepted source place first inside present h =>
    obtain ⟨live, -⟩ := refusal?_eq_none h
    have hstopped : source.stopped = true := ht { source with pending := some _ } rfl
    exact absurd (live.symm.trans hstopped) Bool.false_ne_true
  | turned choice t inside h =>
    cases h with
    | ignored | told => exact hs ht
    | completed => rfl
  | opened source present =>
    rw [pending?_tryOpen present]
    refine hs fun other hother => ?_
    obtain rfl := Option.some.inj (present.symm.trans hother)
    exact (source.openOn_same s.disk).1.symm.trans (ht _ rfl)
  | closed source left present hleft => exact pending?_takeLeave s source hleft

/-! ## Reads that wait -/

/-- A look of which nothing comes was not waited for. -/
theorem pending?_of_nobody (quiet : s.Closed → s.pending? = none)
    (nobody : ∀ source, s.source = some source → source.stopped = true ∨ source.pending = none) :
    s.pending? = none := by
  cases hsource : s.source with
  | none => rw [pending?, hsource, Option.bind_none]
  | some source =>
    rcases nobody source hsource with hstopped | hnone
    · refine quiet fun other hother => ?_
      obtain rfl := Option.some.inj (hsource.symm.trans hother)
      exact hstopped
    · rw [pending?_of_source hsource, hnone]

/-- **Who waits is given a look.** -/
theorem attended_step (h : Step s t) (hs : s.Orderly) {read : Read}
    (waits : t.pending? = some read) : .look ∈ t.render.posted := by
  cases h with
  | refused | altered => exact hs.attended read waits
  | accepted source place first inside present h =>
    obtain ⟨front, back, -, hposted⟩ := hs.plain.posted_post _ Task.look
    exact hposted ▸ List.mem_append_right _ List.mem_cons_self
  | turned choice t inside h =>
    cases h with
    | ignored left handed nobody =>
      exact absurd (waits.symm.trans (pending?_of_nobody hs.quiet nobody)) nofun
    | completed => exact absurd waits nofun
    | told left tag success handed =>
      obtain ⟨front, back, hposted⟩ := List.append_of_mem (hs.attended read waits)
      have hother : Task.look ≠ .report tag success := nofun
      obtain ⟨front, back, hleft, -⟩ := (hs.plain.handed handed).split hother hposted
      exact hleft ▸ List.mem_append_right _ List.mem_cons_self
  | opened source present =>
    rw [pending?_tryOpen present] at waits
    have hposted := hs.plain.posted_post_outside (.report s.opened (source.openOn s.disk).1)
    exact hposted ▸ List.mem_append_left _ (hs.attended read waits)
  | closed source left present hleft =>
    exact absurd (waits.symm.trans (pending?_takeLeave s source hleft)) nofun

/-! ## Requests to open -/

/-- **What comes from inside are looks alone**: there, reads are asked for and nothing else. -/
theorem inner_step (h : Step s t) (plain : s.render.Plain)
    (hs : ∀ task ∈ s.render.postedFrom .inside, task = .look) :
    ∀ task ∈ t.render.postedFrom .inside, task = .look := by
  cases h with
  | refused | closed | altered => exact hs
  | accepted =>
    intro task hin
    unfold accept post Runner.post at hin
    rw [Runner.postedFrom_enqueue _ plain.up] at hin
    rcases List.mem_append.1 hin with hold | hlast
    · exact hs task hold
    · split at hlast
      · exact List.mem_singleton.1 hlast
      · exact absurd hlast List.not_mem_nil
  | turned choice t inside h =>
    cases h with
    | ignored left handed | completed left handed | told left _ _ handed =>
      exact fun task hin => hs task ((plain.handed handed).inside task hin)
  | opened source present =>
    intro task hin
    unfold tryOpen post Runner.post at hin
    rw [Runner.postedFrom_enqueue .outside plain.up] at hin
    exact hs task ((List.mem_append.1 hin).resolve_right List.not_mem_nil)

section

/-- What was no answer to a request leaves those that were. -/
theorem openings_of_log {event : Event} (h : event.opening? = none)
    (hlog : t.log = s.log ++ [event]) : t.openings = s.openings := by
  rw [openings, openings, hlog, List.filterMap_append, List.filterMap_cons_none h]
  exact List.append_nil _

theorem openings_takeLeave (s : Session) (source : FileSource) (left : Option FileSource) :
    (s.takeLeave source left).openings = s.openings := by
  unfold openings takeLeave
  rw [List.filterMap_append]
  cases source.pending <;> exact List.append_nil _

variable (plain : s.render.Plain)

include plain

/-- A report that is handed out was the first of those that wait: what the runner passed over
came from inside. -/
theorem reports_of_handed (inner : ∀ task ∈ s.render.postedFrom .inside, task = .look)
    {choice : Runner.Choice} {task : Task} {left : Runner Task}
    (handed : s.render.take choice = (some task, left)) :
    s.reports = task.opening?.toList ++ left.posted.filterMap Task.opening? := by
  obtain ⟨front, back, hposted, hleft, hfront, -⟩ := (plain.handed handed).place
  have hnone : front.filterMap Task.opening? = [] :=
    List.filterMap_eq_nil_iff.2 fun other hin => inner other (hfront other hin) ▸ rfl
  rw [reports, hposted, hleft, List.filterMap_append, List.filterMap_append, hnone]
  cases task <;> rfl

/-- The task of a read reports nothing, wherever it stands. -/
theorem reports_accept (source : FileSource) (place : Place) (first : Ask) (inside : Plan) :
    (s.accept source place first inside).reports = s.reports := by
  obtain ⟨front, back, hbefore, hafter⟩ := plain.posted_post _ Task.look
  unfold reports
  rw [hbefore]
  refine (congrArg (List.filterMap Task.opening?) hafter).trans ?_
  rw [List.filterMap_append, List.filterMap_append]
  rfl

/-- A request to open is answered behind all others. -/
theorem reports_tryOpen (source : FileSource) :
    (s.tryOpen source).reports = s.reports ++ [s.opened] := by
  have hposted := plain.posted_post_outside (.report s.opened (source.openOn s.disk).1)
  refine (congrArg (List.filterMap Task.opening?) hposted).trans ?_
  rw [List.filterMap_append]
  rfl

/-- **Requests to open are answered in order, by the runner.** -/
theorem told_step (inner : ∀ task ∈ s.render.postedFrom .inside, task = .look) (h : Step s t)
    (hs : s.openings ++ s.reports.map (·, .render) = (List.range s.opened).map (·, .render)) :
    t.openings ++ t.reports.map (·, .render) = (List.range t.opened).map (·, .render) := by
  cases h with
  | refused source place first failure =>
    rw [openings_of_log (s := s) (t := s.turnAway place first failure) rfl rfl]
    exact hs
  | accepted source place first inside =>
    rw [reports_accept plain]
    exact hs
  | turned choice t inside h =>
    cases h with
    | ignored left handed =>
      rw [reports_of_handed plain inner handed] at hs
      exact hs
    | completed left handed source read =>
      rw [reports_of_handed plain inner handed] at hs
      rw [openings_of_log (s := s) (t := complete { s with render := left } source read) rfl rfl]
      exact hs
    | told left tag success handed =>
      have hopenings : (record { s with render := left } (.opened tag success .render)).openings =
          s.openings ++ [(tag, .render)] := List.filterMap_append
      rw [reports_of_handed plain inner handed] at hs
      rw [hopenings, List.append_assoc]
      exact hs
  | opened source present =>
    have hopened : (s.tryOpen source).opened = s.opened + 1 := rfl
    rw [reports_tryOpen plain, hopened, List.range_succ, List.map_append, List.map_append, ← hs,
      List.append_assoc]
    rfl
  | closed source left =>
    rw [openings_takeLeave]
    exact hs
  | altered => exact hs

end

/-! ## Every step -/

/-- **Every step keeps a session orderly.** -/
theorem Orderly.step (h : Step s t) (hs : s.Orderly) : t.Orderly where
  plain := plain_step h hs.plain
  balanced := balanced_step h hs.balanced
  quiet := quiet_step h hs.quiet
  inner := inner_step h hs.plain hs.inner
  attended := fun _ => attended_step h hs
  told := told_step hs.plain hs.inner h hs.told

theorem Orderly.steps (h : Steps s t) (hs : s.Orderly) : t.Orderly :=
  h.induction (fun _ _ hstep hs => hs.step hstep) hs

theorem orderly_start (path : Bytes) (disk : Disk) : (start (.new path) disk).Orderly where
  plain := Runner.plain_idle
  balanced := Register.balanced_new
  quiet := fun _ => rfl
  inner := fun _ hin => absurd hin List.not_mem_nil
  attended := fun _ waits => absurd waits nofun
  told := rfl

/-- Every run is orderly. -/
theorem orderly_play (path : Bytes) (disk : Disk) (moves : List Move) :
    ((start (.new path) disk).play moves).Orderly :=
  (orderly_start path disk).steps (steps_play Runner.plain_idle moves)

/-! ## Tasks that come up -/

/-- The read is answered, or it is the one that waits, and its task comes up before the runner
has looked so many times at what came from inside. -/
def Due (n : Nat) (tag : Tag) (s : Session) : Prop :=
  s.answersTo tag ≠ [] ∨ ∃ read front back, s.pending? = some read ∧ read.tag = tag ∧
    s.render.posted = front ++ .look :: back ∧ front.length < n

section

variable {n : Nat} {tag : Tag}

/-- What was heard is not taken back. -/
theorem answersTo_ne_nil {more : List Answer} (h : t.answers = s.answers ++ more)
    (hs : s.answersTo tag ≠ []) : t.answersTo tag ≠ [] := by
  rw [answersTo, h, List.filter_append]
  exact List.append_ne_nil_of_left_ne_nil hs _

/-- An answer to the read is one of its answers. -/
theorem answersTo_ne_nil_of_last {answer : Answer} (h : t.answers = s.answers ++ [answer])
    (htag : answer.tag = tag) : t.answersTo tag ≠ [] := by
  have hin : answer ∈ t.answers := h ▸ List.mem_append_right _ (List.mem_singleton_self answer)
  exact List.ne_nil_of_mem (List.mem_filter.2 ⟨hin, beq_iff_eq.2 htag⟩)

/-- Answers are given one after another. -/
theorem answers_step (h : Step s t) : ∃ more, t.answers = s.answers ++ more := by
  cases h with
  | refused source place first failure => exact ⟨_, answers_turnAway s place first failure⟩
  | accepted | opened | altered => exact ⟨[], (List.append_nil _).symm⟩
  | turned choice t inside h =>
    cases h with
    | ignored => exact ⟨[], (List.append_nil _).symm⟩
    | completed | told => exact ⟨_, List.filterMap_append⟩
  | closed source left => exact ⟨_, answers_takeLeave s source left⟩

/-- **A step of the runner** answers the read or leaves its task where it is; and it brings the
task nearer if the runner looks first at what came from inside. -/
theorem Due.turn {choice : Runner.Choice} {inside : Plan} {m : Nat} (h : Due n tag s)
    (hs : s.Orderly) (hturn : Turn s choice t inside)
    (hless : n ≤ m ∨ choice = .own ∧ n ≤ m + 1) : Due m tag t := by
  obtain ⟨more, hmore⟩ := answers_step (.turned choice t inside hturn)
  rcases h with hanswered | ⟨read, front, back, waits, htag, hposted, hnear⟩
  · exact .inl (answersTo_ne_nil hmore hanswered)
  cases hturn with
  | ignored left handed nobody =>
    exact absurd (waits.symm.trans (pending?_of_nobody hs.quiet nobody)) nofun
  | completed left handed source other present live hother =>
    obtain rfl : other = read :=
      Option.some.inj (hother.symm.trans ((pending?_of_source present).symm.trans waits))
    have hsame : (source.readOn s.disk other).2.tag = tag :=
      (source.readOn_same s.disk other).1.trans htag
    exact .inl (answersTo_ne_nil_of_last (answers_complete _ source other) hsame)
  | told left other success handed =>
    have hother : Task.look ≠ .report other success := nofun
    obtain ⟨front', back', hleft, hplace, hown⟩ := (hs.plain.handed handed).split hother hposted
    refine .inr ⟨read, front', back', waits, htag, hleft, ?_⟩
    rcases hless with hless | ⟨hchoice, hless⟩
    · omega
    · have hnearer := hown hchoice
      omega

/-- **Nothing puts the task of a read off.** -/
theorem Due.step (h : Due n tag s) (hs : s.Orderly) (hstep : Step s t) :
    Due n tag t := by
  obtain ⟨more, hmore⟩ := answers_step hstep
  rcases h with hanswered | ⟨read, front, back, waits, htag, hposted, hnear⟩
  · exact .inl (answersTo_ne_nil hmore hanswered)
  cases hstep with
  | refused | altered => exact .inr ⟨read, front, back, waits, htag, hposted, hnear⟩
  | accepted source place first inside present h =>
    obtain ⟨-, -, hfree⟩ := refusal?_eq_none h
    exact absurd (waits.symm.trans ((pending?_of_source present).trans hfree)) nofun
  | turned choice t inside h =>
    have hdue : Due n tag s := .inr ⟨read, front, back, waits, htag, hposted, hnear⟩
    exact hdue.turn hs h (.inl (Nat.le_refl n))
  | opened source present =>
    refine .inr ⟨read, front, back ++ [.report s.opened (source.openOn s.disk).1],
      (pending?_tryOpen present).trans waits, htag, ?_, hnear⟩
    refine (hs.plain.posted_post_outside _).trans ?_
    rw [hposted, List.append_assoc]
    rfl
  | closed source left present hleft =>
    have hwaits : source.pending = some read := (pending?_of_source present).symm.trans waits
    have hleave : (s.takeLeave source left).answers =
        s.answers ++ [⟨read.tag, .failed .stopped, read.buffer⟩] := by
      rw [answers_takeLeave, hwaits]
      rfl
    exact .inl (answersTo_ne_nil_of_last hleave htag)

theorem Due.steps (h : Due n tag s) (hs : s.Orderly) (hsteps : Steps s t) :
    Due n tag t := by
  have hboth : t.Orderly ∧ Due n tag t := by
    refine hsteps.induction (P := fun t => t.Orderly ∧ Due n tag t) ?_ ⟨hs, h⟩
    rintro t u hstep ⟨ht, hdue⟩
    exact ⟨ht.step hstep, hdue.step ht hstep⟩
  exact hboth.2

/-- **Every look at what came from inside** brings the task of a read nearer, whatever is asked
inside the answer that it gives. -/
theorem Due.move_step (h : Due (n + 1) tag s) (hs : s.Orderly) :
    Due n tag (s.move (.step .own)) := by
  show Due n tag (s.step .own)
  rcases step_eq hs.plain .own with ⟨hstep, hnone⟩ | ⟨t, inside, hturn, hstep⟩
  · rcases h with hanswered | ⟨read, front, back, -, -, hposted, -⟩
    · rw [hstep]
      exact .inl hanswered
    · rw [hnone nofun] at hposted
      exact absurd hposted.symm (List.append_ne_nil_of_right_ne_nil _ (List.cons_ne_nil _ _))
  · have ht : t.Orderly := hs.step (.turned .own t inside hturn)
    have hdue : Due n tag t := h.turn hs hturn (.inr ⟨rfl, Nat.le_refl _⟩)
    rw [hstep]
    exact hdue.steps ht (steps_ask t .render inside)

/-- **A read that is due is answered** once the runner has looked that many times at what came
from inside, whatever else happens meanwhile. The induction is on the run. -/
theorem Due.play (h : Due n tag s) (hs : s.Orderly) (later : List Move)
    (enough : n ≤ later.count (.step .own)) : (s.play later).answersTo tag ≠ [] := by
  induction later generalizing s n with
  | nil =>
    obtain rfl : n = 0 := Nat.le_zero.1 enough
    rcases h with hanswered | ⟨_, _, _, _, _, _, hnear⟩
    · exact hanswered
    · exact absurd hnear (Nat.not_lt_zero _)
  | cons m rest ih =>
    have hmove : Steps s (s.move m) := steps_move hs.plain m
    by_cases hm : m = .step .own
    · subst hm
      rw [List.count_cons_self] at enough
      cases n with
      | zero => exact ih (h.steps hs hmove) (hs.steps hmove) (Nat.zero_le _)
      | succ n => exact ih (h.move_step hs) (hs.steps hmove) (Nat.le_of_succ_le_succ enough)
    · rw [List.count_cons_of_ne hm] at enough
      exact ih (h.steps hs hmove) (hs.steps hmove) enough

/-- A read that waits is due, and no later than all that is queued. -/
theorem Orderly.due (hs : s.Orderly) {read : Read} (waits : s.pending? = some read) :
    Due s.render.posted.length read.tag s := by
  obtain ⟨front, back, hposted⟩ := List.append_of_mem (hs.attended read waits)
  refine .inr ⟨read, front, back, waits, rfl, hposted, ?_⟩
  rw [hposted, List.length_append, List.length_cons]
  omega

end

/-! ## The whole life of a source -/

/-- **A source over a local file answers for everything that is asked of it.** On any run:

- A read is answered at most once, with a buffer of the length it came with, and the reads
  without an answer are the pending one.
- The pending read has its task among those that wait, and it is answered once the runner
  has looked as many times at what came from inside as there are tasks, whatever else happens
  meanwhile, other steps of the runner among it.
- A read that finds the source stopped, brings no room, or comes while another is pending,
  is answered where it is asked for, and changes nothing.
- Once the source is stopped or given up, every read has its one answer, whatever comes
  later, and all that is answered from the stop on is that the source is stopped.
- Requests to open are answered once, in order, by the runner, and all of them have been
  when it is drained; it is drained after finitely many steps. -/
theorem lifecycle_kept (path : Bytes) (disk : Disk) (moves : List Move) :
    let s := (start (.new path) disk).play moves
    (∀ tag, (s.answersTo tag).length ≤ 1) ∧
      (∀ answer ∈ s.answers, ∃ ask, s.asked[answer.tag]? = some ask ∧ answer.Fits ask.buffer) ∧
      (∀ tag < s.asked.length,
        s.answersTo tag = [] ↔ ∃ read, s.pending? = some read ∧ read.tag = tag) ∧
      (∀ read, s.pending? = some read → .look ∈ s.render.posted ∧
        ∀ later : List Move, s.render.posted.length ≤ later.count (.step .own) →
          ((s.play later).answersTo read.tag).length = 1) ∧
      (∀ (t : Session) (source : FileSource) (place : Place) (first : Ask) (inside rest : Plan),
        t.source = some source →
        source.stopped = true ∨ first.buffer = [] ∨ source.pending ≠ none →
        ∃ failure, (source.stopped = true → failure = .stopped) ∧
          (source.stopped = false → ∃ fault, failure = .invalidRead fault) ∧
          t.ask place (.ask first inside rest) =
            ((t.turnAway place first failure).ask place inside).ask place rest) ∧
      (∀ last, last = .stop ∨ last = .drop → ∀ later,
        let closed := (s.move last).play later
        (∀ tag < closed.asked.length, (closed.answersTo tag).length = 1) ∧
          ∃ heard, closed.answers = s.answers ++ heard ∧
            ∀ answer ∈ heard, answer.result = .failed .stopped) ∧
      s.openings <+: (List.range s.opened).map (·, .render) ∧
      (s.render.isBusy = false → s.openings = (List.range s.opened).map (·, .render)) ∧
      (∃ n, s.settle = s.play (List.replicate n (.step .own))) ∧
        s.settle.render.isBusy = false := by
  intro s
  have hs : s.Orderly := orderly_play path disk moves
  obtain ⟨hsettle, hdrained⟩ := settle_eq hs.plain
  refine ⟨hs.balanced.length_filter_le_one, hs.balanced.returned,
    fun tag => hs.balanced.filter_eq_nil_iff,
    fun read waits => ⟨hs.attended read waits, fun later enough => ?_⟩, ?_, ?_, ?_, ?_, hsettle,
    hdrained⟩
  · have hend : (s.play later).Orderly := hs.steps (steps_play hs.plain later)
    have hanswered := (hs.due waits).play hs later enough
    have honce : ((s.play later).answersTo read.tag).length ≤ 1 :=
      hend.balanced.length_filter_le_one read.tag
    have hsome := List.length_pos_iff.2 hanswered
    omega
  · intro t source place first inside rest hsource hrefused
    obtain ⟨failure, hfailure, hstopped, hinvalid⟩ := refusal?_eq_some hrefused
    exact ⟨failure, hstopped, hinvalid, ask_refused hsource place inside rest hfailure⟩
  · intro last hlast later closed
    have hmove : (s.move last).Orderly := hs.steps (steps_move hs.plain last)
    have hplay : Steps (s.move last) closed := steps_play hmove.plain later
    have hfirst := hushed_close s hlast
    have hhushed : Hushed s closed := hfirst.trans (hushed_steps hplay hfirst.closed)
    have hend : closed.Orderly := hmove.steps hplay
    exact ⟨fun tag => hend.balanced.length_filter_eq_one (hend.quiet hhushed.closed),
      hhushed.heard⟩
  · exact ⟨_, hs.told⟩
  · intro hidle
    have htold := hs.told
    rw [reports, hs.plain.isBusy_eq_false_iff.1 hidle] at htold
    exact (List.append_nil _).symm.trans htold

/-- A read waits between two requests to open, and three more steps of the runner answer it,
whatever happens to the file in between. What it asks for inside the answer is told of a stop
that comes right behind. -/
theorem lifecycle_kept_reopened :
    let disk := (Disk.new []).write [109] [1, 2, 3]
    let fresh := start (.new [47, 109]) disk
    let moves : List Move := [.requestOpen,
      .ask .caller (.ask ⟨0, [0, 0]⟩ (.ask ⟨2, [0, 0]⟩ .done .done) .done), .requestOpen]
    let later : List Move := [.step .own, .alter ((Disk.new []).write [109] [7]), .step .own]
    let last : List Move := [.step .own]
    (fresh.play moves).render.posted = [.report 0 true, .look, .report 1 true] ∧
      (((fresh.play moves).play (later ++ last)).answersTo 0).length = 1 ∧
      (fresh.play (moves ++ later)).pending? = some ⟨1, 2, [0, 0], .done⟩ ∧
      ((((fresh.play (moves ++ later)).move .stop).play last).answersTo 1).length = 1 := by
  intro disk fresh moves later last
  have hposted : (fresh.play moves).render.posted = [.report 0 true, .look, .report 1 true] := by
    decide
  have hpending : (fresh.play moves).pending? =
      some ⟨0, 0, [0, 0], .ask ⟨2, [0, 0]⟩ .done .done⟩ := by decide
  have hnext : (fresh.play (moves ++ later)).pending? = some ⟨1, 2, [0, 0], .done⟩ := by decide
  obtain ⟨-, -, -, hserved, -⟩ := lifecycle_kept [47, 109] disk moves
  obtain ⟨-, -, -, -, -, hclosed, -⟩ := lifecycle_kept [47, 109] disk (moves ++ later)
  obtain ⟨-, hanswered⟩ := hserved _ hpending
  obtain ⟨honce, -⟩ := hclosed .stop (.inl rfl) last
  have henough : (fresh.play moves).render.posted.length ≤
      (later ++ last).count (.step .own) := by decide
  have hasked : 1 < (((fresh.play (moves ++ later)).move .stop).play last).asked.length := by
    decide
  exact ⟨hposted, hanswered (later ++ last) henough, hnext, honce 1 hasked⟩

end Session

end FileSource

end ReadAhead
