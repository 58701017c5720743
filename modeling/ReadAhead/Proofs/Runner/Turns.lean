/-
The steps of a runner under observation. A step does the first job of one side or looks at the
clock, which wakes up whoever is due. `Turn` says once what a step may do to a runner that goes
on: which task it looks at for the first time, which one it hands out and which number it takes
off the books, each at most one. Every kind of job is such a turn, and so is waking up.

A turn keeps what the journal says, whichever it is. A runner that was asked to end ends when
it looks at the clock, and then the past is all there is.
-/
import ReadAhead.Proofs.Runner.Scheduling

set_option autoImplicit false

namespace ReadAhead.Runner.Journal

variable {j k : Journal}

/-! ## What a step notes -/

/-- What a step notes: a task that is seen for the first time, and one that runs. -/
def noted (j : Journal) (runner : Runner Errand) (seen : Option TimerId) (ran : Option Errand) :
    Journal :=
  { j with
    runner
    seen := j.seen ++ seen.toList.map (·, j.runner.now)
    ran := j.ran ++ ran.toList.map (·, j.runner.now) }

theorem done_noted (j : Journal) (runner : Runner Errand) (seen : Option TimerId)
    (ran : Option Errand) :
    (j.noted runner seen ran).done = j.done ++ (ran.bind Errand.plain?).toList := by
  cases ran with
  | none => simp [noted, done]
  | some task => cases task <;> simp [noted, done, Errand.plain?]

theorem fired_noted (j : Journal) (runner : Runner Errand) (seen : Option TimerId)
    (ran : Option Errand) :
    (j.noted runner seen ran).fired = j.fired ++ (ran.bind Errand.delayed?).toList := by
  cases ran with
  | none => simp [noted, fired]
  | some task => cases task <;> simp [noted, fired, Errand.delayed?]

theorem seen_noted (j : Journal) (runner : Runner Errand) (seen : Option TimerId)
    (ran : Option Errand) :
    (j.noted runner seen ran).seen.map Prod.fst = j.seen.map Prod.fst ++ seen.toList := by
  cases seen <;> simp [noted]

theorem extends_noted (j : Journal) {runner : Runner Errand} (seen : Option TimerId)
    (ran : Option Errand) (hnow : runner.now = j.runner.now) :
    Extends j (j.noted runner seen ran) :=
  ⟨List.prefix_rfl, List.prefix_rfl, fun _ hin => List.mem_append_left _ hin,
    Nat.le_of_eq hnow.symm⟩

/-- What the next step does to a runner: it looks at the delayed task `seen`, hands out `ran`
and takes `gone` off the books, each at most one. -/
structure Turn (j : Journal) (runner : Runner Errand) (seen : Option TimerId)
    (ran : Option Errand) (gone : Option TimerId) : Prop where
  now : runner.now = j.runner.now
  down : runner.down = j.runner.down
  yielded : runner.yielded = []
  issued : runner.issued = j.runner.issued
  jobs : ∀ job ∈ runner.queue, j.Fits job
  unseen : ∀ timer delay task, .arm timer delay task ∈ runner.queue → seen ≠ some timer
  timers : ∀ timer ∈ runner.timers, (j.noted runner seen ran).IsSet timer
  plain : ∀ side, plains j.runner side =
    (ran.bind Errand.plain?).toList.filter (j.posted[·]? = some side) ++ plains runner side
  posted : ∀ number, ran.bind Errand.plain? = some number → number < j.posted.length
  stages : j.runner.stages.Perm (gone.toList ++ runner.stages)
  unfinished : ∀ timer, timer ∈ runner.unfinished ↔ timer ∈ j.runner.unfinished ∧ gone ≠ some timer
  live : j.runner.live.Perm ((ran.bind Errand.delayed?).toList ++ runner.live)
  ripe : ∀ timer, ran = some (.delayed timer) → j.Ripe timer j.runner.now
  first : ∀ timer, seen = some timer → timer ∉ j.seen.map Prod.fst ∧ timer < j.delays.length

section

variable {runner : Runner Errand} {seen : Option TimerId} {ran : Option Errand}
  {gone : Option TimerId}

/-- **What has run and what waits** is the same after a step as before: a task without a delay
goes from the front of those that wait to the end of those that have run. -/
theorem Running.kept_noted (h : Running j) (hturn : Turn j runner seen ran gone) (side : Side) :
    (j.noted runner seen ran).doneOn side ++ plains runner side = j.postedOn side := by
  rw [← h.kept side, hturn.plain side, ← List.append_assoc]
  refine congrArg (· ++ plains runner side) ?_
  show (j.noted runner seen ran).done.filter (j.posted[·]? = some side) = _
  rw [done_noted, List.filter_append]
  rfl

/-- **The past after a step**: what has run by now and in which order is settled by the tasks
that wait, and a delayed task that runs had been live until then. -/
theorem Running.sound_noted (h : Running j) (hturn : Turn j runner seen ran gone) :
    Sound (j.noted runner seen ran) := by
  let k := j.noted runner seen ran
  have hx : Extends j k := extends_noted j seen ran hturn.now
  have hfired : k.fired = j.fired ++ (ran.bind Errand.delayed?).toList := fired_noted j _ _ _
  have hlive : ∀ timer, timer ∈ (ran.bind Errand.delayed?).toList → timer ∈ j.runner.live :=
    fun timer hin => hturn.live.mem_iff.2 (List.mem_append_left _ hin)
  have hseen : k.seen.map Prod.fst = j.seen.map Prod.fst ++ seen.toList := seen_noted j _ _ _
  refine ⟨fun number hin => ?_, fun side => ?_, ?_, fun timer hin => ?_, h.cancelledKnown, ?_, ?_,
    ?_⟩
  · rw [done_noted] at hin
    rcases List.mem_append.1 hin with hold | hlast
    · exact h.known number hold
    · exact hturn.posted number (Option.mem_toList.1 hlast)
  · show _ <+: j.postedOn side
    rw [← h.kept_noted hturn side]
    exact List.prefix_append _ _
  · rw [hfired]
    refine List.nodup_append.2 ⟨h.firedOnce, ?_, fun old hold timer htimer hsame => ?_⟩
    · cases ran.bind Errand.delayed? <;> simp
    · exact (h.apart timer (hlive timer htimer)).1 (hsame ▸ hold)
  · rw [hfired] at hin
    rcases List.mem_append.1 hin with hold | hlast
    · exact h.firedKnown timer hold
    · exact h.numbered timer (j.runner.live_sublist_stages.subset (hlive timer hlast))
  · intro timer time hin
    rcases List.mem_append.1 hin with hold | hlast
    · exact (h.timely timer time hold).mono hx (Nat.le_refl _)
    · obtain ⟨task, htask, hnote⟩ := List.mem_map.1 hlast
      obtain ⟨rfl, rfl⟩ := Prod.mk.inj hnote
      exact (hturn.ripe timer (Option.mem_toList.1 htask)).mono hx (Nat.le_refl _)
  · rw [hseen]
    refine List.nodup_append.2 ⟨h.seenOnce, ?_, fun old hold timer htimer hsame => ?_⟩
    · cases seen <;> simp
    · exact (hturn.first timer (Option.mem_toList.1 htimer)).1 (hsame ▸ hold)
  · intro timer hin
    rw [hseen] at hin
    rcases List.mem_append.1 hin with hold | hlast
    · exact h.seenKnown timer hold
    · exact (hturn.first timer (Option.mem_toList.1 hlast)).2

/-- **A step of the runner** keeps what the journal says. -/
theorem Running.noted (h : Running j) (hturn : Turn j runner seen ran gone) :
    Running (j.noted runner seen ran) := by
  let k := j.noted runner seen ran
  have hx : Extends j k := extends_noted j seen ran hturn.now
  have hseen : k.seen.map Prod.fst = j.seen.map Prod.fst ++ seen.toList := seen_noted j _ _ _
  have hfired : k.fired = j.fired ++ (ran.bind Errand.delayed?).toList := fired_noted j _ _ _
  -- Each number was in one place, so that what is gone is not among those that are left.
  have hstages : (gone.toList ++ runner.stages).Nodup := hturn.stages.nodup_iff.1 h.distinct
  have hlive : ((ran.bind Errand.delayed?).toList ++ runner.live).Nodup :=
    hturn.live.nodup_iff.1 (h.distinct.sublist j.runner.live_sublist_stages)
  obtain ⟨-, hleft, hgone⟩ := List.nodup_append.1 hstages
  obtain ⟨-, -, hlost⟩ := List.nodup_append.1 hlive
  exact {
    toSound := h.sound_noted hturn
    up := hturn.down.trans h.up
    prompt := hturn.yielded
    issued := hturn.issued.trans h.issued
    jobs := fun job hin => by
      refine (hturn.jobs job hin).mono hx fun timer delay task hjob => ?_
      subst hjob
      obtain ⟨-, -, hold⟩ := hturn.jobs _ hin
      rw [hseen, List.mem_append, Option.mem_toList]
      exact not_or.2 ⟨hold, hturn.unseen timer delay task hin⟩
    timers := hturn.timers
    distinct := hleft
    numbered := fun timer hin =>
      h.numbered timer (hturn.stages.mem_iff.2 (List.mem_append_right _ hin))
    unfinished := by
      intro timer
      have hsplit := hturn.stages.mem_iff (a := timer)
      rw [List.mem_append, Option.mem_toList] at hsplit
      show timer ∈ runner.unfinished ↔ timer ∈ runner.stages
      rw [hturn.unfinished, h.unfinished, hsplit]
      constructor
      · rintro ⟨hthis | hin, hother⟩
        · exact absurd hthis hother
        · exact hin
      · exact fun hin => ⟨.inr hin, fun hthis =>
          hgone timer (Option.mem_toList.2 hthis) timer hin rfl⟩
    kept := h.kept_noted hturn
    accounted := by
      intro timer hlt
      rw [hfired, List.mem_append]
      rcases h.accounted timer hlt with hin | hin | hin
      · rcases List.mem_append.1 (hturn.live.mem_iff.1 hin) with hran | hrest
        · exact .inr (.inl (.inr hran))
        · exact .inl hrest
      · exact .inr (.inl (.inl hin))
      · exact .inr (.inr hin)
    apart := by
      intro timer hin
      obtain ⟨hnever, hkept⟩ := h.apart timer
        (hturn.live.mem_iff.2 (List.mem_append_right _ hin))
      rw [hfired, List.mem_append]
      exact ⟨not_or.2 ⟨hnever, fun hran => hlost timer hran timer hin rfl⟩, hkept⟩ }

end

/-- A task that waits is known, and it was posted on the side that it waits on. -/
theorem Running.posted_of_plains (h : Running j) {side : Side} {number : Nat}
    (hin : number ∈ plains j.runner side) :
    number < j.posted.length ∧ j.posted[number]? = some side := by
  have hposted : number ∈ j.postedOn side := h.kept side ▸ List.mem_append_right _ hin
  obtain ⟨hlt, hside⟩ := List.mem_filter.1 hposted
  exact ⟨List.mem_range.1 hlt, of_decide_eq_true hside⟩

/-- What a runner has left when a job was taken. -/
theorem Running.rest (h : Running j) {side : Side} {job : Job Errand} {s : Runner Errand}
    (hs : Popped j.runner side job s) :
    j.Fits job ∧ (∀ other ∈ s.queue, j.Fits other) ∧ (∀ timer ∈ s.timers, j.IsSet timer) ∧
      j.runner.stages.Perm (job.stage?.toList ++ s.stages) ∧
      j.runner.live.Perm (job.timer?.toList ++ s.live) :=
  ⟨h.jobs job (hs.mem_queue.2 (.inl rfl)),
    fun other hin => h.jobs other (hs.mem_queue.2 (.inr hin)), hs.timers ▸ h.timers,
    hs.staged Job.stage?, hs.live⟩

/-- A task without a delay that is taken was posted on the side that it is taken from. -/
theorem Running.plain_rest (h : Running j) {side : Side} {job : Job Errand} {s : Runner Errand}
    (hs : Popped j.runner side job s) :
    (∀ other, plains j.runner other =
      (job.posted?.bind Errand.plain?).toList.filter (j.posted[·]? = some other) ++
        plains s other) ∧
      ∀ number, job.posted?.bind Errand.plain? = some number → number < j.posted.length := by
  have hfirst : plains j.runner side =
      (job.posted?.bind Errand.plain?).toList ++ plains s side := by
    rw [plains, hs.postedFrom, List.filterMap_append]
    refine congrArg (· ++ plains s side) ?_
    cases job.posted? with
    | none => rfl
    | some task => cases task <;> rfl
  have hknown : ∀ number, job.posted?.bind Errand.plain? = some number →
      number < j.posted.length ∧ j.posted[number]? = some side := fun number hnumber => by
    refine h.posted_of_plains (hfirst ▸ List.mem_append_left _ ?_)
    exact Option.mem_toList.2 hnumber
  refine ⟨fun other => ?_, fun number hnumber => (hknown number hnumber).1⟩
  by_cases hother : other = side
  · subst hother
    rw [hfirst, List.filter_eq_self.2]
    intro number hin
    exact decide_eq_true (hknown number (Option.mem_toList.1 hin)).2
  · rw [List.filter_eq_nil_iff.2, plains, hs.postedFrom_of_ne hother]
    · rfl
    · intro number hin hsame
      have hside := (hknown number (Option.mem_toList.1 hin)).2
      exact hother (Option.some.inj ((of_decide_eq_true hsame).symm.trans hside))

/-- The number that a job takes off the books. -/
def retired (job : Job Errand) : Option TimerId :=
  match job with
  | .fire timer _ | .discard timer => some timer
  | _ => none

/-- **A job that is done with** leaves what it hands out and nothing else. -/
theorem Running.turn_leave (h : Running j) {side : Side} {job : Job Errand} {s : Runner Errand}
    (hs : Popped j.runner side job s) {unfinished : List TimerId} {ran : Option Errand}
    (hplain : job.posted?.bind Errand.plain? = ran.bind Errand.plain?)
    (htimer : job.timer? = ran.bind Errand.delayed?)
    (hunfinished : ∀ timer, timer ∈ unfinished ↔ timer ∈ s.unfinished ∧ job.stage? ≠ some timer)
    (hripe : ∀ timer, ran = some (.delayed timer) → j.Ripe timer j.runner.now) :
    Turn j { s with unfinished } none ran job.stage? := by
  obtain ⟨-, hjobs, htimers, hstages, hlive⟩ := h.rest hs
  obtain ⟨hplains, hposted⟩ := h.plain_rest hs
  exact {
    now := hs.now, down := hs.down, yielded := hs.yielded.trans h.prompt, issued := hs.issued
    jobs := hjobs
    unseen := fun _ _ _ _ => (Option.some_ne_none _).symm
    timers := fun timer hin => (htimers timer hin).mono (extends_noted j _ _ hs.now)
    plain := hplain ▸ hplains
    posted := hplain ▸ hposted
    stages := hstages
    unfinished := fun timer => hs.unfinished ▸ hunfinished timer
    live := htimer ▸ hlive
    ripe := hripe
    first := fun _ hsame => absurd hsame (Option.some_ne_none _).symm }

/-- **A delayed task that is seen** is set to a timer. -/
theorem Running.turn_arm (h : Running j) {side : Side} {id : TimerId} {delay : Nat} {task : Errand}
    {s : Runner Errand} (hs : Popped j.runner side (.arm id delay task) s) :
    Turn j { s with timers := s.timers ++ [⟨id, s.now + delay, task⟩] } (some id) none none := by
  obtain ⟨⟨rfl, hdelay, hnew⟩, hjobs, htimers, hstages, hlive⟩ := h.rest hs
  obtain ⟨hplains, hposted⟩ := h.plain_rest hs
  have hnumber : id ∈ j.runner.stages := hstages.mem_iff.2 List.mem_cons_self
  have hdistinct : (id :: s.stages).Nodup := hstages.nodup_iff.1 h.distinct
  have hother : id ∉ s.stages := (List.nodup_cons.1 hdistinct).1
  let armed : Runner Errand := { s with timers := s.timers ++ [⟨id, s.now + delay, .delayed id⟩] }
  have hmoved : ∀ number? : Job Errand → Option TimerId,
      (id :: staged number? s).Perm (staged number? armed) := fun number? => by
    rw [staged, staged, List.map_append, ← List.append_assoc]
    exact (List.perm_append_singleton _ _).symm
  exact {
    now := hs.now, down := hs.down, yielded := hs.yielded.trans h.prompt, issued := hs.issued
    jobs := hjobs
    unseen := by
      -- Its number would be in two places.
      rintro timer delay task hin hsame
      obtain rfl := Option.some.inj hsame
      exact hother (List.mem_append_left _ (List.mem_filterMap.2 ⟨_, hin, rfl⟩))
    timers := by
      intro timer hin
      rcases List.mem_append.1 hin with hold | hlast
      · exact (htimers timer hold).mono (extends_noted j _ _ hs.now)
      · obtain rfl := List.mem_singleton.1 hlast
        refine ⟨rfl, j.runner.now, delay, ?_, hdelay, by rw [hs.now]⟩
        exact List.mem_append_right _ (List.mem_singleton.2 rfl)
    plain := hplains
    posted := hposted
    stages := hstages.trans (hmoved Job.stage?)
    unfinished := fun timer => by
      rw [hs.unfinished]
      exact (and_iff_left (Option.some_ne_none _).symm).symm
    live := hlive.trans (hmoved Job.timer?)
    ripe := fun _ hsame => absurd hsame (Option.some_ne_none _).symm
    first := by
      rintro timer hsame
      obtain rfl := Option.some.inj hsame
      exact ⟨hnew, h.numbered id hnumber⟩ }

/-- **Doing a job.** A task without a delay goes from those that wait to those that have run;
a delayed one is first set to a timer and handed out when it comes back; of a cancelled one
nothing is left. -/
theorem Running.turn_perform (h : Running j) {side : Side} {job : Job Errand} {s : Runner Errand}
    (hs : Popped j.runner side job s) :
    Turn j (s.perform job).2 job.unveiled? (s.perform job).1 (retired job) := by
  have hretired : ∀ gone timer, timer ∈ (s.retire gone).unfinished ↔
      timer ∈ s.unfinished ∧ some gone ≠ some timer := fun gone timer => by
    rw [retire, List.mem_filter, bne_iff_ne, ne_comm, ne_eq, ne_eq, Option.some.injEq]
  have hfits := (h.rest hs).1
  cases job with
  | run task =>
    obtain ⟨number, rfl⟩ := hfits
    exact h.turn_leave hs rfl rfl (fun _ => (and_iff_left (Option.some_ne_none _).symm).symm)
      fun _ hsame => Errand.noConfusion (Option.some.inj hsame)
  | arm id delay task => exact h.turn_arm hs
  | fire id task =>
    obtain ⟨rfl, hripe⟩ := hfits
    refine h.turn_leave hs rfl rfl (hretired id) fun timer hsame => ?_
    cases hsame
    exact hripe
  | discard id =>
    exact h.turn_leave hs rfl rfl (hretired id) fun _ hsame =>
      absurd hsame (Option.some_ne_none _).symm

/-- **Waking up** hands nothing out: who is due goes into the queue. -/
theorem Running.turn_wake (h : Running j) : Turn j j.runner.wake none none none := by
  have hnone : ∀ {timer : TimerId}, none ≠ some timer := (Option.some_ne_none _).symm
  have hprompt : ∀ {job : Job Errand}, job ∉ j.runner.yielded :=
    h.prompt.symm ▸ List.not_mem_nil
  have hnobody : ∀ {number? : Job Errand → Option TimerId}, ∀ job ∈ j.runner.yielded,
      number? job = none := fun _ hin => absurd hin hprompt
  have hplains : ∀ side, plains j.runner.wake side = plains j.runner side := fun side =>
    congrArg (List.filterMap Errand.plain?) (postedFrom_wake h.prompt side)
  exact {
    now := rfl, down := rfl, yielded := rfl, issued := rfl
    jobs := by
      intro job hin
      rcases mem_queue_wake.1 hin with hold | ⟨timer, htimer, rfl⟩ | hyielded
      · exact h.jobs job hold
      · obtain ⟨hset, hdue⟩ := mem_dueTimers.1 htimer
        obtain ⟨htask, since, delay, hseen, hdelay, hwhen⟩ := h.timers timer hset
        exact ⟨htask, since, delay, hseen, hdelay, hwhen ▸ hdue⟩
      · exact absurd hyielded hprompt
    unseen := fun _ _ _ _ => hnone
    timers := fun timer hin =>
      (h.timers timer (List.mem_filter.1 hin).1).mono (extends_noted j _ _ rfl)
    plain := fun side => (hplains side).symm
    posted := fun _ hsame => absurd hsame hnone
    stages := (staged_wake (fun _ _ => rfl) hnobody).symm
    unfinished := fun timer => (and_iff_left hnone).symm
    live := (live_wake hnobody).symm
    ripe := fun _ hsame => absurd hsame (Option.some_ne_none _).symm
    first := fun _ hsame => absurd hsame hnone }

/-- **The next step**, if there is one, is to do a job or to look at the clock. -/
theorem step_eq (j : Journal) (choice : Choice) :
    j.step choice = j ∨
      (∃ side job s, Popped j.runner side job s ∧
        j.step choice = j.noted (s.perform job).2 job.unveiled? (s.perform job).1) ∨
      j.step choice = j.noted j.runner.lookUp none none := by
  rw [step]
  split
  · refine .inr ?_
    rcases j.runner.take_eq choice with ⟨side, job, s, hs, hnext, htake⟩ | ⟨hnext, htake⟩
    · exact .inl ⟨side, job, s, hs, by rw [htake, hnext]; rfl⟩
    · exact .inr (by rw [htake, hnext]; rfl)
  · exact .inl rfl

/-- Once the runner has ended, the past is all there is. -/
theorem Sound.ended (h : Sound j) : Ended { j with runner := j.runner.shutdown } where
  toSound := h.mono ⟨List.prefix_rfl, List.prefix_rfl, fun _ hin => hin, Nat.le_refl _⟩ rfl rfl
    h.cancelledKnown
  down := rfl
  empty := rfl

/-- Nothing to note changes nothing but the runner. -/
theorem noted_none (j : Journal) (runner : Runner Errand) :
    j.noted runner none none = { j with runner } := by
  rw [noted, Option.toList_none, Option.toList_none, List.map_nil, List.map_nil, List.append_nil,
    List.append_nil]

/-- **A step of the runner** keeps what the journal says, or it ends the runner. -/
theorem Running.step (h : Running j) (choice : Choice) :
    Running (j.step choice) ∨ Ended (j.step choice) := by
  rcases j.step_eq choice with hstep | ⟨side, job, s, hs, hstep⟩ | hstep
  · exact .inl (hstep.symm ▸ h)
  · exact .inl (hstep.symm ▸ h.noted (h.turn_perform hs))
  · rw [hstep, lookUp]
    split
    · rw [noted_none]
      exact .inr h.toSound.ended
    · exact .inl (h.noted h.turn_wake)

end ReadAhead.Runner.Journal
