/-
What a runner does with its tasks, whatever is asked of it and whenever. `Running` ties the
journal to the runner: of each side, the tasks that have run and those that wait are all that
were posted there, in order; every number of a delayed task is live, has run or was cancelled,
and its timer says when it was seen. `Ended` is what is left of that once the runner has ended,
when nothing waits any more.

Each call and the passing of time keep this, one lemma for each.
-/
import ReadAhead.Proofs.Runner.Stages
import ReadAhead.Runner.Journal

set_option autoImplicit false

namespace ReadAhead.Runner

/-! ## What a call leaves alone -/

section

variable {τ : Type} (r : Runner τ) (side : Side) (job : Job τ)

/-- Queueing a job touches the queues and nothing else. -/
theorem enqueue_same :
    let s := r.enqueue side job
    s.down = r.down ∧ s.yielded = r.yielded ∧ s.timers = r.timers ∧ s.now = r.now ∧
      s.issued = r.issued ∧ s.unfinished = r.unfinished ∧ s.closing = r.closing := by
  unfold enqueue
  split
  · simp
  · cases side <;> simp

/-- Cancelling takes timers away, and touches the queues. -/
theorem cancel_same (timer : TimerId) :
    let s := r.cancel side timer
    s.down = r.down ∧ s.yielded = r.yielded ∧ (∀ other ∈ s.timers, other ∈ r.timers) ∧
      s.now = r.now ∧ s.issued = r.issued ∧ s.unfinished = r.unfinished ∧
      s.closing = r.closing := by
  rw [cancel_eq]
  split
  · obtain ⟨hdown, hyielded, htimers, hrest⟩ := enqueue_same (r.unset timer) side (.discard timer)
    refine ⟨hdown, hyielded, fun other hin => ?_, hrest⟩
    rw [htimers] at hin
    exact (List.mem_filter.1 hin).1
  · exact ⟨rfl, rfl, fun _ hin => hin, rfl, rfl, rfl, rfl⟩

end

namespace Journal

variable {j k : Journal}

/-! ## Invariants -/

/-- The tasks without a delay that wait and were posted on one side, in order. -/
def plains (r : Runner Errand) (side : Side) : List Nat :=
  (r.postedFrom side).filterMap Errand.plain?

/-- A delayed task was seen, and its delay has passed since. -/
def Ripe (j : Journal) (timer : TimerId) (now : Nat) : Prop :=
  ∃ since delay, (timer, since) ∈ j.seen ∧ j.delays[timer]? = some delay ∧ since + delay < now

/-- A job of the runner is one that the journal can account for. -/
def Fits (j : Journal) : Job Errand → Prop
  | .run task => ∃ number, task = .plain number
  | .arm timer delay task =>
    task = .delayed timer ∧ j.delays[timer]? = some delay ∧ timer ∉ j.seen.map Prod.fst
  | .fire timer task => task = .delayed timer ∧ j.Ripe timer j.runner.now
  | .discard _ => True

/-- A timer is set to the delay of its task, from when the task was seen. -/
def IsSet (j : Journal) (timer : Timer Errand) : Prop :=
  timer.task = .delayed timer.id ∧ ∃ since delay, (timer.id, since) ∈ j.seen ∧
    j.delays[timer.id]? = some delay ∧ timer.due = since + delay

/-- What the journal says of the past. -/
structure Sound (j : Journal) : Prop where
  known : ∀ number ∈ j.done, number < j.posted.length
  ordered : ∀ side, j.doneOn side <+: j.postedOn side
  firedOnce : j.fired.Nodup
  firedKnown : ∀ timer ∈ j.fired, timer < j.delays.length
  cancelledKnown : ∀ timer ∈ j.cancelled, timer < j.delays.length
  timely : ∀ timer time, (.delayed timer, time) ∈ j.ran → j.Ripe timer time
  seenOnce : (j.seen.map Prod.fst).Nodup
  seenKnown : ∀ timer ∈ j.seen.map Prod.fst, timer < j.delays.length

/-- What the journal says of a runner that has not ended. -/
structure Running (j : Journal) : Prop extends Sound j where
  up : j.runner.down = false
  prompt : j.runner.yielded = []
  issued : j.runner.issued = j.delays.length
  jobs : ∀ job ∈ j.runner.queue, j.Fits job
  timers : ∀ timer ∈ j.runner.timers, j.IsSet timer
  distinct : j.runner.stages.Nodup
  numbered : ∀ timer ∈ j.runner.stages, timer < j.delays.length
  unfinished : ∀ timer, timer ∈ j.runner.unfinished ↔ timer ∈ j.runner.stages
  /-- All tasks without a delay have run or wait, those of each side in order. -/
  kept : ∀ side, j.doneOn side ++ plains j.runner side = j.postedOn side
  /-- All delayed tasks are live, have run or were cancelled. -/
  accounted : ∀ timer < j.delays.length,
    timer ∈ j.runner.live ∨ timer ∈ j.fired ∨ timer ∈ j.cancelled
  apart : ∀ timer ∈ j.runner.live, timer ∉ j.fired ∧ timer ∉ j.cancelled

/-- What the journal says of a runner that has ended: nothing is left in it. -/
structure Ended (j : Journal) : Prop extends Sound j where
  down : j.runner.down = true
  empty : j.runner.shutdown = j.runner

/-! ## Notes that are added -/

/-- A journal with more in it, and the clock no earlier. -/
structure Extends (j k : Journal) : Prop where
  posted : j.posted <+: k.posted
  delays : j.delays <+: k.delays
  seen : ∀ note ∈ j.seen, note ∈ k.seen
  now : j.runner.now ≤ k.runner.now

theorem getElem?_extended {α : Type} {old new : List α} (h : old <+: new) {n : Nat} {a : α}
    (hold : old[n]? = some a) : new[n]? = some a := by
  obtain ⟨more, rfl⟩ := h
  obtain ⟨hlt, -⟩ := List.getElem?_eq_some_iff.1 hold
  rw [List.getElem?_append_left hlt, hold]

theorem Ripe.mono {timer : TimerId} {now later : Nat} (h : j.Ripe timer now) (hx : Extends j k)
    (hnow : now ≤ later) : k.Ripe timer later := by
  obtain ⟨since, delay, hseen, hdelay, hpassed⟩ := h
  exact ⟨since, delay, hx.seen _ hseen, getElem?_extended hx.delays hdelay,
    Nat.lt_of_lt_of_le hpassed hnow⟩

theorem IsSet.mono {timer : Timer Errand} (h : j.IsSet timer) (hx : Extends j k) :
    k.IsSet timer := by
  obtain ⟨htask, since, delay, hseen, hdelay, hdue⟩ := h
  exact ⟨htask, since, delay, hx.seen _ hseen, getElem?_extended hx.delays hdelay, hdue⟩

/-- A job is accounted for as long as no task is seen that was never seen before. -/
theorem Fits.mono {job : Job Errand} (h : j.Fits job) (hx : Extends j k)
    (hnew : ∀ timer delay task, job = .arm timer delay task → timer ∉ k.seen.map Prod.fst) :
    k.Fits job := by
  cases job with
  | run | discard => exact h
  | arm timer delay task =>
    obtain ⟨htask, hdelay, -⟩ := h
    exact ⟨htask, getElem?_extended hx.delays hdelay, hnew timer delay task rfl⟩
  | fire timer task => exact ⟨h.1, h.2.mono hx hx.now⟩

/-- What was posted where is not changed by what is posted later. -/
theorem filter_on_extended {old new : List Side} (h : old <+: new) {numbers : List Nat}
    (hknown : ∀ number ∈ numbers, number < old.length) (side : Side) :
    numbers.filter (new[·]? = some side) = numbers.filter (old[·]? = some side) := by
  refine List.filter_congr fun number hin => ?_
  obtain ⟨more, rfl⟩ := h
  rw [List.getElem?_append_left (hknown number hin)]

theorem doneOn_extended (hknown : ∀ number ∈ j.done, number < j.posted.length)
    (hx : j.posted <+: k.posted) (hran : k.ran = j.ran) (side : Side) :
    k.doneOn side = j.doneOn side := by
  have hdone : k.done = j.done := by rw [done, done, hran]
  rw [doneOn, doneOn, hdone]
  exact filter_on_extended hx hknown side

theorem postedOn_extended (hx : j.posted <+: k.posted) (side : Side) :
    j.postedOn side <+: k.postedOn side := by
  have hrange : List.range k.posted.length = List.range j.posted.length ++
      (List.range (k.posted.length - j.posted.length)).map (j.posted.length + ·) := by
    rw [← List.range_add, Nat.add_sub_cancel' hx.length_le]
  have hfront := filter_on_extended hx (fun _ => List.mem_range.1) side
  rw [postedOn, postedOn, hrange, List.filter_append, hfront]
  exact List.prefix_append _ _

/-- **The past stays as it was** where nothing runs and nothing is seen. -/
theorem Sound.mono (h : Sound j) (hx : Extends j k) (hran : k.ran = j.ran)
    (hseen : k.seen = j.seen) (hcancelled : ∀ timer ∈ k.cancelled, timer < k.delays.length) :
    Sound k := by
  have hdone : k.done = j.done := by rw [done, done, hran]
  have hfired : k.fired = j.fired := by rw [fired, fired, hran]
  have hposted := hx.posted.length_le
  have hdelays := hx.delays.length_le
  refine ⟨fun number hin => ?_, fun side => ?_, hfired ▸ h.firedOnce, fun timer hin => ?_,
    hcancelled, ?_, hseen ▸ h.seenOnce, fun timer hin => ?_⟩
  · exact Nat.lt_of_lt_of_le (h.known number (hdone ▸ hin)) hposted
  · rw [doneOn_extended h.known hx.posted hran]
    exact (h.ordered side).trans (postedOn_extended hx.posted side)
  · exact Nat.lt_of_lt_of_le (h.firedKnown timer (hfired ▸ hin)) hdelays
  · intro timer time hin
    exact (h.timely timer time (hran ▸ hin)).mono hx (Nat.le_refl _)
  · exact Nat.lt_of_lt_of_le (h.seenKnown timer (hseen ▸ hin)) hdelays

/-! ## Calls -/

/-- Jobs that wait are accounted for while nothing is seen. -/
theorem Running.fits (h : Running j) (hx : Extends j k) (hseen : k.seen = j.seen)
    {job : Job Errand} (hin : job ∈ j.runner.queue) : k.Fits job := by
  refine (h.jobs job hin).mono hx fun timer delay task hjob => ?_
  subst hjob
  rw [hseen]
  exact (h.jobs _ hin).2.2

/-- Queueing a job that is no task without a delay leaves those as they are. -/
theorem plains_enqueue_of_none {r : Runner Errand} (side : Side) {job : Job Errand}
    (h : job.posted? = none) (other : Side) :
    plains (r.enqueue side job) other = plains r other :=
  congrArg (List.filterMap Errand.plain?) (postedFrom_enqueue_of_none side h other)

theorem extends_post (side : Side) : Extends j (j.move (.post side)) :=
  ⟨List.prefix_append _ _, List.prefix_rfl, fun _ hin => hin,
    Nat.le_of_eq (j.runner.enqueue_same side (.run (.plain j.posted.length))).2.2.2.1.symm⟩

/-- **A task that is posted** is the last of its side. -/
theorem postedOn_post (side other : Side) : (j.move (.post side)).postedOn other =
    j.postedOn other ++ if other = side then [j.posted.length] else [] := by
  have hfront := filter_on_extended (List.prefix_append j.posted [side])
    (fun _ => List.mem_range.1) other
  have hlast : (j.posted ++ [side])[j.posted.length]? = some side := List.getElem?_concat_length
  show (List.range (j.posted ++ [side]).length).filter ((j.posted ++ [side])[·]? = some other) = _
  rw [List.length_append, List.length_singleton, List.range_succ, List.filter_append, hfront]
  refine congrArg (j.postedOn other ++ ·) ?_
  by_cases hside : other = side
  · subst hside
    rw [if_pos rfl]
    exact List.filter_cons_of_pos (decide_eq_true hlast)
  · rw [if_neg hside]
    refine List.filter_cons_of_neg fun hsame => hside ?_
    exact (Option.some.inj (hlast.symm.trans (of_decide_eq_true hsame))).symm

theorem Running.plains_post (h : Running j) (side other : Side) :
    plains (j.move (.post side)).runner other =
      plains j.runner other ++ if other = side then [j.posted.length] else [] := by
  show ((j.runner.enqueue side (.run (.plain j.posted.length))).postedFrom other).filterMap
    Errand.plain? = _
  rw [postedFrom_enqueue side h.up, List.filterMap_append]
  refine congrArg (plains j.runner other ++ ·) ?_
  split <;> rfl

theorem running_post (h : Running j) (side : Side) : Running (j.move (.post side)) := by
  let task : Errand := .plain j.posted.length
  let k := j.move (.post side)
  obtain ⟨hdown, hyielded, htimers, -, hissued, hunfinished, -⟩ :=
    j.runner.enqueue_same side (.run task)
  have hstages : k.runner.stages.Perm j.runner.stages :=
    staged_enqueue side (.run task) Job.stage? h.up
  have hlive : k.runner.live.Perm j.runner.live := live_enqueue side (.run task) h.up
  have hx : Extends j k := extends_post side
  exact {
    toSound := h.toSound.mono hx rfl rfl h.cancelledKnown
    up := hdown.trans h.up
    prompt := hyielded.trans h.prompt
    issued := hissued.trans h.issued
    jobs := by
      intro job hin
      rcases (mem_queue_enqueue side (.run task) h.up).1 hin with rfl | hold
      · exact ⟨_, rfl⟩
      · exact h.fits hx rfl hold
    timers := fun timer hin => (h.timers timer (htimers ▸ hin)).mono hx
    distinct := hstages.nodup_iff.2 h.distinct
    numbered := fun timer hin => h.numbered timer (hstages.mem_iff.1 hin)
    unfinished := fun timer => by
      rw [hstages.mem_iff, ← h.unfinished timer, ← hunfinished]
      rfl
    kept := fun other => by
      rw [doneOn_extended h.known hx.posted rfl, h.plains_post, postedOn_post, ← h.kept other,
        List.append_assoc]
    accounted := fun timer hlt => (h.accounted timer hlt).imp_left hlive.mem_iff.2
    apart := fun timer hin => h.apart timer (hlive.mem_iff.1 hin) }

theorem running_postDelayed (h : Running j) (side : Side) (delay : Nat) :
    Running (j.move (.postDelayed side delay)) := by
  let id := j.runner.issued
  let k := j.move (.postDelayed side delay)
  let counted : Runner Errand :=
    { j.runner with issued := id + 1, unfinished := j.runner.unfinished ++ [id] }
  let job : Job Errand := .arm id delay (.delayed id)
  have hid : id = j.delays.length := h.issued
  have hnew : ∀ {timer : TimerId}, timer < j.delays.length → timer ≠ id :=
    fun hlt hsame => Nat.lt_irrefl _ (hid.symm ▸ hsame ▸ hlt)
  have hrunner : k.runner = counted.enqueue side job := snd_postDelayed side delay _ h.up
  obtain ⟨hdown, hyielded, htimers, hnow, hissued, hunfinished, -⟩ :=
    counted.enqueue_same side job
  rw [← hrunner] at hdown hyielded htimers hnow hissued hunfinished
  have hstages : k.runner.stages.Perm (id :: j.runner.stages) := by
    rw [hrunner]
    exact staged_enqueue side job Job.stage? (r := counted) h.up
  have hlive : k.runner.live.Perm (id :: j.runner.live) := by
    rw [hrunner]
    exact live_enqueue side job (r := counted) h.up
  have hplains : ∀ other, plains k.runner other = plains j.runner other := by
    rw [hrunner]
    exact plains_enqueue_of_none (r := counted) side (show job.posted? = none from rfl)
  have hx : Extends j k :=
    ⟨List.prefix_rfl, List.prefix_append _ _, fun _ hin => hin, Nat.le_of_eq hnow.symm⟩
  have hlength : k.delays.length = j.delays.length + 1 := List.length_append
  exact {
    toSound := h.toSound.mono hx rfl rfl fun timer hin =>
      Nat.lt_of_lt_of_le (h.cancelledKnown timer hin) (hlength ▸ Nat.le_succ _)
    up := hdown.trans h.up
    prompt := hyielded.trans h.prompt
    issued := by rw [hissued, hlength, ← hid]
    jobs := by
      intro other hin
      rw [hrunner] at hin
      rcases (mem_queue_enqueue side job (r := counted) h.up).1 hin with rfl | hold
      · -- Its number is new, so that it was not seen yet.
        refine ⟨rfl, ?_, fun hseen => ?_⟩
        · rw [hid]
          exact List.getElem?_concat_length
        · exact hnew (h.seenKnown id hseen) rfl
      · exact h.fits hx rfl hold
    timers := fun timer hin => (h.timers timer (htimers ▸ hin)).mono hx
    distinct := by
      refine hstages.nodup_iff.2 (List.nodup_cons.2 ⟨fun hin => ?_, h.distinct⟩)
      exact hnew (h.numbered id hin) rfl
    numbered := by
      intro timer hin
      rw [hlength]
      rcases List.mem_cons.1 (hstages.mem_iff.1 hin) with rfl | hold
      · exact Nat.lt_succ_of_le (Nat.le_of_eq hid)
      · exact Nat.lt_succ_of_lt (h.numbered timer hold)
    unfinished := by
      intro timer
      rw [hunfinished, hstages.mem_iff, List.mem_append, List.mem_singleton, List.mem_cons,
        h.unfinished timer, or_comm]
    kept := fun other => by
      rw [hplains]
      exact h.kept other
    accounted := by
      intro timer hlt
      rcases Nat.lt_succ_iff_lt_or_eq.1 (hlength ▸ hlt) with hold | hlast
      · exact (h.accounted timer hold).imp_left fun hin =>
          hlive.mem_iff.2 (List.mem_cons_of_mem _ hin)
      · exact .inl (hlive.mem_iff.2 (List.mem_cons.2 (.inl (hlast.trans hid.symm))))
    apart := by
      intro timer hin
      rcases List.mem_cons.1 (hlive.mem_iff.1 hin) with rfl | hold
      · exact ⟨fun hfired => hnew (h.firedKnown _ hfired) rfl,
          fun hcancelled => hnew (h.cancelledKnown _ hcancelled) rfl⟩
      · exact h.apart timer hold }

/-- Cancelling a delayed task takes it off those that are live, and nothing else. -/
theorem running_cancel (h : Running j) (side : Side) (timer : TimerId) :
    Running (j.move (.cancel side timer)) := by
  by_cases hknown : timer < j.delays.length
  · let k : Journal :=
      { j with runner := j.runner.cancel side timer, cancelled := j.cancelled ++ [timer] }
    have hmove : j.move (.cancel side timer) = k := if_pos hknown
    obtain ⟨hdown, hyielded, htimers, hnow, hissued, hunfinished, -⟩ :=
      j.runner.cancel_same side timer
    have hstages : k.runner.stages.Perm j.runner.stages := stages_cancel timer side h.up h.distinct
    have hlive : ∀ other, other ∈ k.runner.live ↔ other ∈ j.runner.live ∧ other ≠ timer :=
      fun other => mem_live_cancel_of_nodup side timer h.up
        (h.distinct.sublist j.runner.live_sublist_stages)
    have hplains : ∀ other, plains k.runner other = plains j.runner other := fun other =>
      congrArg (List.filterMap Errand.plain?) (postedFrom_cancel side timer other)
    have hx : Extends j k :=
      ⟨List.prefix_rfl, List.prefix_rfl, fun _ hin => hin, Nat.le_of_eq hnow.symm⟩
    rw [hmove]
    exact {
      toSound := h.toSound.mono hx rfl rfl fun other hin => by
        rcases List.mem_append.1 hin with hold | hnew
        · exact h.cancelledKnown other hold
        · exact List.mem_singleton.1 hnew ▸ hknown
      up := hdown.trans h.up
      prompt := hyielded.trans h.prompt
      issued := hissued.trans h.issued
      jobs := by
        intro job hin
        rcases mem_queue_cancel timer h.up hin with rfl | hold
        · trivial
        · exact h.fits hx rfl hold
      timers := fun other hin => (h.timers other (htimers other hin)).mono hx
      distinct := hstages.nodup_iff.2 h.distinct
      numbered := fun other hin => h.numbered other (hstages.mem_iff.1 hin)
      unfinished := fun other => by
        rw [hstages.mem_iff, ← h.unfinished other, ← hunfinished]
      kept := fun other => by
        rw [hplains]
        exact h.kept other
      accounted := by
        intro other hlt
        by_cases hsame : other = timer
        · exact .inr (.inr (List.mem_append_right _ (List.mem_singleton.2 hsame)))
        · rcases h.accounted other hlt with hlives | hfired | hcancelled
          · exact .inl ((hlive other).2 ⟨hlives, hsame⟩)
          · exact .inr (.inl hfired)
          · exact .inr (.inr (List.mem_append_left _ hcancelled))
      apart := by
        intro other hin
        obtain ⟨hlives, hother⟩ := (hlive other).1 hin
        obtain ⟨hfired, hcancelled⟩ := h.apart other hlives
        refine ⟨hfired, fun hnow => ?_⟩
        rcases List.mem_append.1 hnow with hold | hnew
        · exact hcancelled hold
        · exact hother (List.mem_singleton.1 hnew) }
  · have hmove : j.move (.cancel side timer) = j := if_neg hknown
    rw [hmove]
    exact h

/-- Nothing but the clock is changed, or whether the runner is held or asked to end. -/
theorem Running.of_clock (h : Running j) {now : Nat} {held closing : Bool}
    (later : j.runner.now ≤ now) :
    Running { j with runner := { j.runner with now, held, closing } } := by
  have hx : Extends j { j with runner := { j.runner with now, held, closing } } :=
    ⟨List.prefix_rfl, List.prefix_rfl, fun _ hin => hin, later⟩
  exact {
    toSound := h.toSound.mono hx rfl rfl h.cancelledKnown
    up := h.up
    prompt := h.prompt
    issued := h.issued
    jobs := fun _ hin => h.fits hx rfl hin
    timers := fun timer hin => (h.timers timer hin).mono hx
    distinct := h.distinct
    numbered := h.numbered
    unfinished := h.unfinished
    kept := h.kept
    accounted := h.accounted
    apart := h.apart }

end Journal

end ReadAhead.Runner
