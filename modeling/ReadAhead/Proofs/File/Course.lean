/-
What happens in a session of a source over a local file. A read is turned away, or it is
accepted and given a task; the runner hands out a task; the file is opened; the source is
stopped or given up; the files change. `Step` lists these, each with the condition under
which it happens and the session that comes of it.

The main result is `steps_move`: every move is a sequence of such steps, whatever is asked
inside the answers it gives. So what is proved of sessions is proved from this list, and
the definitions of the moves are opened here and nowhere else. The runner's own part of a
step stands in a list of its own, `Turn`, because it comes first: whatever else the step
brings is asked inside the answer that was given.
-/
import ReadAhead.Proofs.Runner.Plain
import ReadAhead.Proofs.Source.Register
import ReadAhead.Source.File
import Mathlib.Logic.Relation

set_option autoImplicit false

namespace ReadAhead.FileSource

/-- What is left of a source that is stopped. -/
def retired (s : FileSource) : FileSource := { s with stopped := true, pending := none }

/-! ## What a source does -/

section

variable (source : FileSource) (disk : Disk)

/-- A read keeps its tag and its follow-ups, whatever is read into its buffer. -/
theorem readOn_same (read : Read) :
    (source.readOn disk read).2.tag = read.tag ∧
      (source.readOn disk read).2.followUps = read.followUps := by
  unfold readOn
  split
  · exact ⟨rfl, rfl⟩
  dsimp only
  split
  · exact ⟨rfl, rfl⟩
  split
  · exact ⟨rfl, rfl⟩
  split <;> exact ⟨rfl, rfl⟩

/-- A buffer keeps its length, whatever is read into it. -/
theorem length_readOn (read : Read) :
    (source.readOn disk read).2.buffer.length = read.buffer.length := by
  unfold readOn
  split
  · rfl
  dsimp only
  split
  · rfl
  split
  · rfl
  split <;> exact Read.size_write read _

/-- To open a source neither stops it nor answers its read. -/
theorem openOn_same :
    (source.openOn disk).2.stopped = source.stopped ∧
      (source.openOn disk).2.pending = source.pending := by
  unfold openOn
  split <;> exact ⟨rfl, rfl⟩

end

section

variable {source : FileSource} {first : Ask}

/-- A read that is accepted finds the source live, brings room, and is the only one. -/
theorem refusal?_eq_none (h : source.refusal? first = none) :
    source.stopped = false ∧ first.buffer ≠ [] ∧ source.pending = none := by
  unfold refusal? at h
  split at h
  · exact absurd h nofun
  next hlive =>
  split at h
  · exact absurd h nofun
  next hroom =>
  split at h
  · exact absurd h nofun
  next hfree => exact ⟨by simpa using hlive, by simpa using hroom, by simpa using hfree⟩

/-- A read that finds its source stopped, brings no room, or comes while another one is
pending, is turned away. -/
theorem refusal?_eq_some (h : source.stopped = true ∨ first.buffer = [] ∨ source.pending ≠ none) :
    ∃ failure, source.refusal? first = some failure ∧
      (source.stopped = true → failure = .stopped) ∧
      (source.stopped = false → ∃ fault, failure = .invalidRead fault) := by
  cases hrefusal : source.refusal? first with
  | none =>
    obtain ⟨hlive, hroom, hfree⟩ := refusal?_eq_none hrefusal
    rcases h with hstopped | hempty | hpending
    · exact absurd (hlive.symm.trans hstopped) Bool.false_ne_true
    · exact absurd hempty hroom
    · exact absurd hfree hpending
  | some failure =>
    refine ⟨failure, rfl, fun hstopped => ?_, fun hlive => ?_⟩
    · rw [refusal?, if_pos hstopped] at hrefusal
      exact (Option.some.inj hrefusal).symm
    · rw [refusal?, if_neg (ne_true_of_eq_false hlive)] at hrefusal
      split at hrefusal
      · exact ⟨_, (Option.some.inj hrefusal).symm⟩
      · split at hrefusal
        · exact ⟨_, (Option.some.inj hrefusal).symm⟩
        · exact absurd hrefusal nofun

end

namespace Session

/-- The read that waits for an answer. -/
def pending? (s : Session) : Option Read := s.source.bind (·.pending)

theorem pending?_of_source {s : Session} {source : FileSource} (h : s.source = some source) :
    s.pending? = source.pending := by
  rw [pending?, h]
  rfl

/-! ## What comes of a session -/

/-- A session in which one more read was turned away: it was asked for and answered.
The source is as it was, and so is the runner. -/
def turnAway (s : Session) (place : Place) (first : Ask) (failure : Failure) : Session :=
  { s with
    asked := s.asked ++ [first]
    log := s.log ++ [.read s.asked.length (.failed failure) first.buffer place] }

/-- A session in which one more read was accepted and given a task. -/
def accept (s : Session) (source : FileSource) (place : Place) (first : Ask) (inside : Plan) :
    Session :=
  { s with
    source := some { source with
      pending := some ⟨s.asked.length, first.position, first.buffer, inside⟩ }
    asked := s.asked ++ [first] }.post place .look

/-- A session in which the pending read was answered by a task, from the open file. -/
def complete (s : Session) (source : FileSource) (read : Read) : Session :=
  { s with source := some { source with pending := none } }.record
    ((source.readOn s.disk read).2.answer (source.readOn s.disk read).1 .render)

/-- A session whose source has taken its leave, with `left` in its place: the pending read
was told that it will not get what it asked for. -/
def takeLeave (s : Session) (source : FileSource) (left : Option FileSource) : Session :=
  { s with
    source := left
    log := s.log ++ source.pending.toList.map (·.answer (.failed .stopped) .caller) }

/-- A session in which the file was opened, or could not be, with the answer on its way. -/
def tryOpen (s : Session) (source : FileSource) : Session :=
  { s with source := some (source.openOn s.disk).2, opened := s.opened + 1 }.post .caller
    (.report s.opened (source.openOn s.disk).1)

/-- What a step of the runner begins with when it hands out a task, and what is asked for
inside the answer that this gives. -/
inductive Turn (s : Session) (choice : Runner.Choice) : Session → Plan → Prop where
  /-- A look finds nobody waiting, or the source stopped or gone. -/
  | ignored (left : Runner Task) (handed : s.render.take choice = (some .look, left))
      (nobody : ∀ source, s.source = some source → source.stopped = true ∨ source.pending = none) :
      Turn s choice { s with render := left } .done
  /-- A look answers the pending read. -/
  | completed (left : Runner Task) (handed : s.render.take choice = (some .look, left))
      (source : FileSource) (read : Read) (present : s.source = some source)
      (live : source.stopped = false) (waits : source.pending = some read) :
      Turn s choice (complete { s with render := left } source read) read.followUps
  /-- A request to open is answered. -/
  | told (left : Runner Task) (tag : Tag) (success : Bool)
      (handed : s.render.take choice = (some (.report tag success), left)) :
      Turn s choice (record { s with render := left } (.opened tag success .render)) .done

/-- What can happen in a session. -/
inductive Step (s : Session) : Session → Prop where
  | refused (source : FileSource) (place : Place) (first : Ask) (failure : Failure)
      (present : s.source = some source) (h : source.refusal? first = some failure) :
      Step s (s.turnAway place first failure)
  | accepted (source : FileSource) (place : Place) (first : Ask) (inside : Plan)
      (present : s.source = some source) (h : source.refusal? first = none) :
      Step s (s.accept source place first inside)
  | turned (choice : Runner.Choice) (t : Session) (inside : Plan) (h : Turn s choice t inside) :
      Step s t
  | opened (source : FileSource) (present : s.source = some source) : Step s (s.tryOpen source)
  /-- The source is stopped, or given up. -/
  | closed (source : FileSource) (left : Option FileSource) (present : s.source = some source)
      (h : left = some source.retired ∨ left = none) :
      Step s (s.takeLeave source left)
  | altered (disk : Disk) : Step s { s with disk }

/-- One step after another. -/
def Steps : Session → Session → Prop := Relation.ReflTransGen Step

variable {s t u : Session}

theorem Steps.refl : Steps s s := Relation.ReflTransGen.refl

theorem Steps.trans (h : Steps s t) (h' : Steps t u) : Steps s u :=
  Relation.ReflTransGen.trans h h'

theorem Step.steps (h : Step s t) : Steps s t := Relation.ReflTransGen.single h

/-- **What every step keeps holds after any number of steps.** -/
theorem Steps.induction {P : Session → Prop} (keep : ∀ s t, Step s t → P s → P t)
    (h : Steps s t) (hs : P s) : P t := by
  induction h with
  | refl => exact hs
  | tail _ hstep ih => exact keep _ _ hstep ih

/-! ## The parts of a move -/

/-- **Turning a read away** is all that happens before what is asked for inside the
answer. -/
theorem ask_refused {source : FileSource} (hsource : s.source = some source) (place : Place)
    {first : Ask} (inside rest : Plan) {failure : Failure}
    (h : source.refusal? first = some failure) :
    s.ask place (.ask first inside rest) =
      ((s.turnAway place first failure).ask place inside).ask place rest := by
  unfold turnAway
  rw [ask, hsource]
  dsimp only
  rw [h]
  rfl

theorem ask_accepted {source : FileSource} (hsource : s.source = some source) (place : Place)
    {first : Ask} (inside rest : Plan) (h : source.refusal? first = none) :
    s.ask place (.ask first inside rest) = (s.accept source place first inside).ask place rest := by
  rw [ask, hsource]
  dsimp only
  rw [h]
  rfl

/-- Of a source that is gone nothing is asked. -/
theorem ask_gone (hsource : s.source = none) (place : Place) (plan : Plan) :
    s.ask place plan = s := by
  cases plan with
  | done => rfl
  | ask first inside rest => rw [ask, hsource]

/-- **Whatever is asked, each read is turned away or accepted.** The induction is on the
plan: what is asked inside an answer comes before the rest. -/
theorem steps_ask (s : Session) (place : Place) (plan : Plan) : Steps s (s.ask place plan) := by
  induction plan generalizing s with
  | done => exact Steps.refl
  | ask first inside rest ihInside ihRest =>
    cases hsource : s.source with
    | none =>
      rw [ask_gone hsource]
      exact Steps.refl
    | some source =>
      cases hrefusal : source.refusal? first with
      | some failure =>
        have hstep := Step.refused source place first failure hsource hrefusal
        rw [ask_refused hsource place inside rest hrefusal]
        exact (hstep.steps.trans (ihInside _)).trans (ihRest _)
      | none =>
        have hstep := Step.accepted source place first inside hsource hrefusal
        rw [ask_accepted hsource place inside rest hrefusal]
        exact hstep.steps.trans (ihRest _)

/-- **A look** answers the pending read from the open file, and what is asked for inside the
answer follows; or nobody is waiting for it. -/
theorem look_eq (s : Session) :
    (s.look = s ∧
      ∀ source, s.source = some source → source.stopped = true ∨ source.pending = none) ∨
    ∃ source read, s.source = some source ∧ source.stopped = false ∧
      source.pending = some read ∧
      s.look = (s.complete source read).ask .render read.followUps := by
  unfold look
  cases hsource : s.source with
  | none => exact .inl ⟨rfl, nofun⟩
  | some source =>
    dsimp only
    by_cases hstopped : source.stopped = true
    · refine .inl ⟨if_pos hstopped, fun other hother => .inl ?_⟩
      rw [← Option.some.inj hother]
      exact hstopped
    rw [if_neg hstopped]
    cases hpending : source.pending with
    | none =>
      refine .inl ⟨rfl, fun other hother => .inr ?_⟩
      rw [← Option.some.inj hother]
      exact hpending
    | some read =>
      refine .inr ⟨source, read, rfl, eq_false_of_ne_true hstopped, hpending, ?_⟩
      rw [← (source.readOn_same s.disk read).2]
      rfl

/-- **A step of the runner** does nothing if no task waits, or if the runner looks at the
clock. Otherwise it hands one out, and behind that comes what is asked for inside an answer. -/
theorem step_eq (h : s.render.Plain) (choice : Runner.Choice) :
    (s.step choice = s ∧ (choice ≠ .clock → s.render.posted = [])) ∨
      ∃ t inside, Turn s choice t inside ∧ s.step choice = t.ask .render inside := by
  rcases h.take choice with ⟨htake, hposted⟩ | ⟨task, left, htake, -⟩
  · refine .inl ⟨?_, hposted⟩
    rw [step, htake]
  · have hstep : s.step choice = ({ s with render := left } : Session).perform task := by
      rw [step, htake]
    refine .inr ?_
    cases task with
    | report tag success => exact ⟨_, .done, .told left tag success htake, hstep⟩
    | look =>
      rcases look_eq { s with render := left } with
        ⟨hlook, hnobody⟩ | ⟨source, read, hsource, hlive, hpending, hlook⟩
      · exact ⟨_, .done, .ignored left htake hnobody, hstep.trans hlook⟩
      · exact ⟨_, _, .completed left htake source read hsource hlive hpending, hstep.trans hlook⟩

/-- **Taking leave** answers the pending read, and what is asked for inside the answer
follows. -/
theorem dismiss_eq (s : Session) (source : FileSource) (left : Option FileSource) :
    ∃ inside, s.dismiss source left = (s.takeLeave source left).ask .caller inside := by
  unfold dismiss takeLeave
  cases source.pending with
  | none =>
    refine ⟨.done, ?_⟩
    rw [ask, Option.toList_none, List.map_nil, List.append_nil]
  | some read => exact ⟨read.followUps, rfl⟩

/-- **Stopping and giving up** are ways of taking leave, unless the source is gone. -/
theorem close_eq (s : Session) {m : Move} (hm : m = .stop ∨ m = .drop) :
    (s.source = none ∧ s.move m = s) ∨
      ∃ source left inside, s.source = some source ∧ (left = some source.retired ∨ left = none) ∧
        s.move m = (s.takeLeave source left).ask .caller inside := by
  cases hsource : s.source with
  | none =>
    refine .inl ⟨rfl, ?_⟩
    rcases hm with rfl | rfl
    · rw [move, stop, hsource]
    · rw [move, drop, hsource]
  | some source =>
    refine .inr ?_
    rcases hm with rfl | rfl
    · obtain ⟨inside, hleave⟩ := s.dismiss_eq source (some source.retired)
      refine ⟨source, _, inside, rfl, .inl rfl, ?_⟩
      rw [move, stop, hsource, ← hleave]
      rfl
    · obtain ⟨inside, hleave⟩ := s.dismiss_eq source none
      refine ⟨source, _, inside, rfl, .inr rfl, ?_⟩
      rw [move, drop, hsource, ← hleave]

/-! ## Runs -/

theorem steps_close (s : Session) {m : Move} (hm : m = .stop ∨ m = .drop) :
    Steps s (s.move m) := by
  rcases s.close_eq hm with ⟨-, hmove⟩ | ⟨source, left, inside, hsource, hleft, hmove⟩
  · rw [hmove]
    exact Steps.refl
  · rw [hmove]
    exact (Step.closed source left hsource hleft).steps.trans (steps_ask _ .caller inside)

/-- **Every move is a sequence of steps.** -/
theorem steps_move (h : s.render.Plain) (m : Move) : Steps s (s.move m) := by
  cases m with
  | requestOpen =>
    show Steps s s.requestOpen
    cases hsource : s.source with
    | none =>
      rw [requestOpen, hsource]
      exact Steps.refl
    | some source =>
      have hopen : s.requestOpen = s.tryOpen source := by
        rw [requestOpen, hsource]
        rfl
      rw [hopen]
      exact (Step.opened source hsource).steps
  | ask place plan => exact steps_ask s place plan
  | stop => exact steps_close s (.inl rfl)
  | drop => exact steps_close s (.inr rfl)
  | step choice =>
    show Steps s (s.step choice)
    rcases step_eq h choice with ⟨hstep, -⟩ | ⟨t, inside, hturn, hstep⟩
    · rw [hstep]
      exact Steps.refl
    · rw [hstep]
      exact (Step.turned choice t inside hturn).steps.trans (steps_ask t .render inside)
  | alter disk => exact (Step.altered disk).steps

/-! ### The runner -/

theorem plain_turn {choice : Runner.Choice} {inside : Plan} (h : Turn s choice t inside)
    (hs : s.render.Plain) : t.render.Plain := by
  cases h with
  | ignored left handed | completed left handed | told left _ _ handed =>
    exact (hs.handed handed).plain

theorem plain_step (h : Step s t) (hs : s.render.Plain) : t.render.Plain := by
  cases h with
  | refused | closed | altered => exact hs
  | accepted => exact hs.post _ _
  | turned choice t inside h => exact plain_turn h hs
  | opened => exact hs.post .outside _

/-- **Every run is a sequence of steps.** -/
theorem steps_play (h : s.render.Plain) (moves : List Move) : Steps s (s.play moves) := by
  induction moves generalizing s with
  | nil => exact Steps.refl
  | cons m rest ih =>
    have hmove := steps_move h m
    exact hmove.trans (ih (hmove.induction (fun _ _ => plain_step) h))

end Session

end ReadAhead.FileSource
