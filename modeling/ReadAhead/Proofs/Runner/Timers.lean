/-
The delayed tasks of a runner that always posts the same one with the same delay. Such
a task is live until it has run or was cancelled, and on its way it goes through three
places: a queue, the timers, and a queue again. `live` counts it in all of them, so
that it says nothing about which one it is, and no operation but posting, cancelling and
running changes it.

`Paced` is what a runner keeps as long as nothing else is posted with a delay. Numbers
are never given out twice, and that is why cancelling a number ends one task and why a
task that is live can be told from one that is not by its number alone.
-/
import ReadAhead.Proofs.Runner.Tasks
import Mathlib.Data.List.Perm.Subperm

set_option autoImplicit false

namespace ReadAhead.Runner

variable {τ : Type}

/-! ## Delayed tasks -/

/-- The delayed task that a job is a stage of, unless it was cancelled. -/
def Job.timer? : Job τ → Option TimerId
  | .arm timer _ _ | .fire timer _ => some timer
  | .run _ | .discard _ => none

/-- The numbers that jobs stand for, and those of the timers. -/
def staged (number? : Job τ → Option TimerId) (r : Runner τ) : List TimerId :=
  r.queue.filterMap number? ++ r.timers.map (·.id)

/-- The delayed tasks that have neither run nor been cancelled. -/
def live (r : Runner τ) : List TimerId := r.queue.filterMap Job.timer? ++ r.timers.map (·.id)

/-- A delayed task that has neither run nor been cancelled, with its delay. -/
inductive Alive (r : Runner τ) (timer : TimerId) (delay : Nat) (task : τ) : Prop where
  /-- The runner has yet to see it. -/
  | unseen (h : .arm timer delay task ∈ r.queue)
  /-- The runner has seen it, and its delay counts from then. -/
  | waiting (since : Nat) (seen : since ≤ r.now) (h : ⟨timer, since + delay, task⟩ ∈ r.timers)
  /-- Its delay has passed. -/
  | due (h : .fire timer task ∈ r.queue)

/-- A job that is a stage of a delayed task is one of this task, with this delay. -/
def Job.Keeps (delay : Nat) (task : τ) : Job τ → Prop
  | .arm _ d t => d = delay ∧ t = task
  | .fire _ t => t = task
  | .run _ | .discard _ => True

/-- Every delayed task of a runner is the same one, with the same delay, and no two
have the same number. -/
structure Paced (delay : Nat) (task : τ) (r : Runner τ) : Prop where
  up : r.down = false
  lasting : r.closing = false
  plain : ∀ job ∈ r.yielded, job.timer? = none
  jobs : ∀ job ∈ r.queue, job.Keeps delay task
  timers : ∀ timer ∈ r.timers, timer.task = task ∧ ∃ since ≤ r.now, timer.due = since + delay
  distinct : r.live.Nodup
  numbered : ∀ timer ∈ r.live, timer < r.issued

variable {delay : Nat} {task : τ} {r : Runner τ}

theorem Job.keeps_of_timer? {job : Job τ} (h : job.timer? = none) : job.Keeps delay task := by
  cases job with
  | arm | fire => exact absurd h (Option.some_ne_none _)
  | run | discard => trivial

theorem paced_idle : Paced delay task (idle : Runner τ) where
  up := rfl
  lasting := rfl
  plain := nofun
  jobs := nofun
  timers := nofun
  distinct := List.nodup_nil
  numbered := nofun

/-- **A live task is in one of the three places**, with this delay. -/
theorem Paced.alive (h : Paced delay task r) {timer : TimerId} (hlive : timer ∈ r.live) :
    r.Alive timer delay task := by
  rcases List.mem_append.1 hlive with hqueue | htimers
  · obtain ⟨job, hjob, hid⟩ := List.mem_filterMap.1 hqueue
    have hkeeps := h.jobs job hjob
    cases job with
    | arm id d t =>
      obtain ⟨rfl, rfl⟩ := hkeeps
      cases hid
      exact .unseen hjob
    | fire id t =>
      cases hkeeps
      cases hid
      exact .due hjob
    | run | discard => exact absurd hid nofun
  · obtain ⟨⟨id, due, t⟩, hin, rfl⟩ := List.mem_map.1 htimers
    obtain ⟨rfl, since, hsince, rfl⟩ := h.timers _ hin
    exact .waiting since hsince hin

/-! ## Posting -/

section

variable (side : Side) (job : Job τ)

theorem enqueue_of_up (up : r.down = false) :
    r.enqueue side job = match side with
      | .inside => { r with own := r.own ++ [job] }
      | .outside => { r with foreign := r.foreign ++ [job] } := by
  unfold enqueue
  rw [up]
  rfl

theorem mem_queue_enqueue (up : r.down = false) {other : Job τ} :
    other ∈ (r.enqueue side job).queue ↔ other = job ∨ other ∈ r.queue := by
  rw [enqueue_of_up side job up]
  cases side <;> simp only [queue, List.mem_append, List.mem_singleton]
  · rw [or_comm (a := other ∈ r.own), or_assoc]
  · rw [← or_assoc, or_comm]

theorem staged_enqueue (number? : Job τ → Option TimerId) (up : r.down = false) :
    (staged number? (r.enqueue side job)).Perm ((number? job).toList ++ staged number? r) := by
  have hone : [job].filterMap number? = (number? job).toList := by
    cases h : number? job <;> simp [h]
  rw [enqueue_of_up side job up]
  cases side <;> simp only [staged, queue, List.filterMap_append, hone, List.append_assoc]
  · exact List.perm_append_comm_assoc _ _ _
  · refine List.Perm.trans (List.Perm.append_left _ (List.perm_append_comm_assoc _ _ _)) ?_
    exact List.perm_append_comm_assoc _ _ _

theorem live_enqueue (up : r.down = false) :
    (r.enqueue side job).live.Perm (job.timer?.toList ++ r.live) :=
  staged_enqueue side job Job.timer? up

variable {job}

/-- **A job that is queued** may be any, but for the stage of a delayed task. -/
theorem Paced.enqueue (h : Paced delay task r) (hkeeps : job.Keeps delay task)
    (hnew : ∀ timer, job.timer? = some timer → timer ∉ r.live ∧ timer < r.issued) :
    Paced delay task (r.enqueue side job) := by
  have hlive := r.live_enqueue side job h.up
  have hrest : (r.enqueue side job).down = false ∧ (r.enqueue side job).closing = false ∧
      (r.enqueue side job).yielded = r.yielded ∧ (r.enqueue side job).timers = r.timers ∧
      (r.enqueue side job).now = r.now ∧ (r.enqueue side job).issued = r.issued := by
    rw [enqueue_of_up side job h.up]
    cases side <;> exact ⟨h.up, h.lasting, rfl, rfl, rfl, rfl⟩
  obtain ⟨hup, hlasting, hyielded, htimers, hnow, hissued⟩ := hrest
  refine ⟨hup, hlasting, hyielded ▸ h.plain, fun other hin => ?_, ?_, ?_, fun timer hin => ?_⟩
  · rcases (mem_queue_enqueue side job h.up).1 hin with rfl | hold
    · exact hkeeps
    · exact h.jobs other hold
  · rw [htimers, hnow]
    exact h.timers
  · rw [hlive.nodup_iff]
    cases hid : job.timer? with
    | none => exact h.distinct
    | some timer => exact List.nodup_cons.2 ⟨(hnew timer hid).1, h.distinct⟩
  · rw [hissued]
    rcases List.mem_append.1 (hlive.mem_iff.1 hin) with hid | hold
    · exact (hnew timer (Option.mem_toList.1 hid)).2
    · exact h.numbered timer hold

/-- A task without delay leaves the delayed ones alone. -/
theorem mem_live_post (up : r.down = false) (other : τ) {timer : TimerId} :
    timer ∈ (r.post side other).live ↔ timer ∈ r.live :=
  (live_enqueue side (.run other) up).mem_iff

theorem Paced.post (h : Paced delay task r) (other : τ) : Paced delay task (r.post side other) :=
  h.enqueue side trivial nofun

/-- **A delayed task that is posted** gets a number of its own. -/
theorem Paced.postDelayed (h : Paced delay task r) :
    Paced delay task (r.postDelayed side delay task).2 ∧
      ∀ timer, timer ∈ (r.postDelayed side delay task).2.live ↔
        timer = r.issued ∨ timer ∈ r.live := by
  let counted : Runner τ := { r with
    issued := r.issued + 1
    unfinished := if r.down then r.unfinished else r.unfinished ++ [r.issued] }
  have hcounted : Paced delay task counted :=
    ⟨h.up, h.lasting, h.plain, h.jobs, h.timers, h.distinct,
      fun timer hin => Nat.lt_succ_of_lt (h.numbered timer hin)⟩
  have hposted : (r.postDelayed side delay task).2 =
      counted.enqueue side (.arm r.issued delay task) := rfl
  rw [hposted]
  refine ⟨hcounted.enqueue side ⟨rfl, rfl⟩ fun timer hid => ?_, fun timer => ?_⟩
  · obtain rfl := Option.some.inj hid
    exact ⟨fun hin => Nat.lt_irrefl _ (h.numbered _ hin), Nat.lt_succ_self _⟩
  · exact (live_enqueue side (.arm r.issued delay task) hcounted.up).mem_iff.trans List.mem_cons

end

/-! ## Cancelling

A delayed task is cancelled where it is: among the timers, or in a queue. Either way
every task that is not the one is passed over. -/

section

variable (side : Side) (timer : TimerId)

/-- The runner without the timer of a number. -/
def unset (r : Runner τ) (timer : TimerId) : Runner τ :=
  { r with timers := r.timers.filter (·.id != timer) }

/-- The runner with the jobs of a number cancelled. -/
def unqueued (r : Runner τ) (timer : TimerId) : Runner τ :=
  { r with own := r.own.map (·.cancel timer), foreign := r.foreign.map (·.cancel timer) }

theorem cancel_eq (r : Runner τ) : r.cancel side timer =
    if timer ∈ r.timers.map (·.id) then (r.unset timer).enqueue side (.discard timer)
    else r.unqueued timer := by
  have hwaits : r.timers.any (·.id == timer) = true ↔ timer ∈ r.timers.map (·.id) := by
    simp only [List.any_eq_true, beq_iff_eq, List.mem_map]
  rw [cancel]
  split
  · next h => rw [if_pos (hwaits.1 h)]; rfl
  · next h => rw [if_neg (mt hwaits.2 h)]; rfl

theorem Job.timer?_cancel (job : Job τ) :
    (job.cancel timer).timer? = job.timer?.filter (· ≠ timer) := by
  cases job with
  | run | discard =>
    unfold Job.cancel
    split <;> rfl
  | arm id | fire id =>
    unfold Job.cancel Job.belongsTo
    by_cases h : id = timer <;> simp [Job.timer?, Option.filter, h]

theorem live_unset (r : Runner τ) : (r.unset timer).live =
    r.queue.filterMap Job.timer? ++ (r.timers.map (·.id)).filter (· ≠ timer) := by
  rw [live, List.filter_map]
  congr 2
  exact List.filter_congr fun other _ => by by_cases h : other.id = timer <;> simp [h]

theorem queue_unqueued (r : Runner τ) : (r.unqueued timer).queue = r.queue.map (·.cancel timer) :=
  List.map_append.symm

theorem live_unqueued (r : Runner τ) : (r.unqueued timer).live =
    (r.queue.filterMap Job.timer?).filter (· ≠ timer) ++ r.timers.map (·.id) := by
  rw [live, queue_unqueued, List.filterMap_map, List.filter_filterMap]
  congr 2
  exact funext (Job.timer?_cancel timer)

theorem Paced.unset (h : Paced delay task r) : Paced delay task (r.unset timer) where
  up := h.up
  lasting := h.lasting
  plain := h.plain
  jobs := h.jobs
  timers := fun other hin => h.timers other (List.mem_filter.1 hin).1
  distinct := by
    rw [live_unset]
    exact h.distinct.sublist (List.Sublist.append_left List.filter_sublist _)
  numbered := by
    rw [live_unset]
    intro other hin
    exact h.numbered other ((List.Sublist.append_left List.filter_sublist _).subset hin)

theorem Paced.unqueued (h : Paced delay task r) : Paced delay task (r.unqueued timer) where
  up := h.up
  lasting := h.lasting
  plain := h.plain
  jobs := by
    intro job hin
    rw [queue_unqueued] at hin
    obtain ⟨old, hold, rfl⟩ := List.mem_map.1 hin
    unfold Job.cancel
    split
    · trivial
    · exact h.jobs old hold
  timers := h.timers
  distinct := by
    rw [live_unqueued]
    exact h.distinct.sublist (List.Sublist.append_right List.filter_sublist _)
  numbered := by
    rw [live_unqueued]
    intro other hin
    exact h.numbered other ((List.Sublist.append_right List.filter_sublist _).subset hin)

theorem Paced.cancel (h : Paced delay task r) : Paced delay task (r.cancel side timer) := by
  rw [cancel_eq]
  split
  · exact (h.unset timer).enqueue side trivial nofun
  · exact h.unqueued timer

/-- **Cancelling a number ends the task of that number** and no other, if no two tasks have the
same. -/
theorem mem_live_cancel_of_nodup (up : r.down = false) (distinct : r.live.Nodup)
    {other : TimerId} : other ∈ (r.cancel side timer).live ↔ other ∈ r.live ∧ other ≠ timer := by
  obtain ⟨-, -, hapart⟩ := List.nodup_append.1 distinct
  rw [cancel_eq]
  split
  · next htimers =>
    -- No queue is looked through, and none has to be: its numbers are different ones.
    rw [(live_enqueue side (.discard timer) (r := r.unset timer) up).mem_iff]
    show other ∈ (r.unset timer).live ↔ _
    rw [live_unset, live, List.mem_append, List.mem_append, List.mem_filter, decide_eq_true_iff,
      or_and_right]
    exact or_congr_left (iff_self_and.2 fun hin => hapart other hin timer htimers)
  · next htimers =>
    rw [live_unqueued, live, List.mem_append, List.mem_append, List.mem_filter,
      decide_eq_true_iff, or_and_right]
    refine or_congr_right (iff_self_and.2 ?_)
    rintro hin rfl
    exact htimers hin

theorem mem_live_cancel (h : Paced delay task r) {other : TimerId} :
    other ∈ (r.cancel side timer).live ↔ other ∈ r.live ∧ other ≠ timer :=
  mem_live_cancel_of_nodup side timer h.up h.distinct

end

/-! ## Taking -/

theorem Popped.staged {side : Side} {job : Job τ} {s : Runner τ} (h : Popped r side job s)
    (number? : Job τ → Option TimerId) :
    (staged number? r).Perm ((number? job).toList ++ staged number? s) := by
  have hqueue : (r.queue.filterMap number?).Perm
      ((number? job).toList ++ s.queue.filterMap number?) := by
    refine (h.queue.filterMap number?).trans (List.Perm.of_eq ?_)
    rw [List.filterMap_cons]
    cases number? job <;> rfl
  rw [Runner.staged, Runner.staged, h.timers, ← List.append_assoc]
  exact hqueue.append_right _

theorem Popped.live {side : Side} {job : Job τ} {s : Runner τ} (h : Popped r side job s) :
    r.live.Perm (job.timer?.toList ++ s.live) :=
  h.staged Job.timer?

theorem Paced.popped (h : Paced delay task r) {side : Side} {job : Job τ} {s : Runner τ}
    (hs : Popped r side job s) : Paced delay task s := by
  have hdistinct : (job.timer?.toList ++ s.live).Nodup := hs.live.nodup_iff.1 h.distinct
  refine ⟨hs.down.trans h.up, hs.closing.trans h.lasting, hs.yielded ▸ h.plain,
    fun other hin => ?_, ?_, ?_, ?_⟩
  · exact h.jobs other (hs.mem_queue.2 (.inr hin))
  · rw [hs.timers, hs.now]
    exact h.timers
  · exact hdistinct.sublist (List.sublist_append_right _ _)
  · rw [hs.issued]
    exact fun timer hin =>
      h.numbered timer (hs.live.mem_iff.2 (List.mem_append_right _ hin))

theorem perm_insertByDue (timer : Timer τ) (timers : List (Timer τ)) :
    (insertByDue timer timers).Perm (timer :: timers) := by
  induction timers with
  | nil => exact List.Perm.refl _
  | cons other rest ih =>
    rw [insertByDue]
    split
    · exact List.Perm.refl _
    · exact (ih.cons other).trans (List.Perm.swap timer other rest)

theorem perm_foldr_insertByDue (timers : List (Timer τ)) :
    (timers.foldr insertByDue []).Perm timers := by
  induction timers with
  | nil => exact List.Perm.refl _
  | cons timer rest ih => exact (perm_insertByDue timer _).trans (ih.cons timer)

/-- The timers that are due, in the order in which they became so. -/
def dueTimers (r : Runner τ) : List (Timer τ) :=
  (r.timers.filter (·.isDue r.now)).foldr insertByDue []

theorem mem_dueTimers {timer : Timer τ} :
    timer ∈ r.dueTimers ↔ timer ∈ r.timers ∧ timer.due < r.now := by
  rw [dueTimers, mem_foldr_insertByDue, List.mem_filter, Timer.isDue, decide_eq_true_iff]

/-- Those that wake up go behind what came from inside. -/
theorem queue_wake (r : Runner τ) : r.wake.queue =
    r.own ++ (r.dueTimers.map fun timer => .fire timer.id timer.task) ++ r.yielded.reverse ++
      r.foreign := rfl

theorem mem_queue_wake {job : Job τ} : job ∈ r.wake.queue ↔
    job ∈ r.queue ∨ (∃ timer ∈ r.dueTimers, .fire timer.id timer.task = job) ∨
      job ∈ r.yielded := by
  rw [queue_wake]
  simp only [queue, List.mem_append, List.mem_map, List.mem_reverse, or_assoc]
  exact or_congr_right (or_assoc.symm.trans or_comm)

/-- **Waking up** takes no number off the books, it only moves those that are due. -/
theorem staged_wake {number? : Job τ → Option TimerId}
    (hfire : ∀ timer task, number? (.fire timer task) = some timer)
    (hplain : ∀ job ∈ r.yielded, number? job = none) :
    (staged number? r.wake).Perm (staged number? r) := by
  have hfires : (r.dueTimers.map fun timer => Job.fire timer.id timer.task).filterMap number? =
      r.dueTimers.map (·.id) := by
    rw [List.filterMap_map]
    refine (List.filterMap_congr fun timer _ => ?_).trans
      (congrFun (List.filterMap_eq_map (f := Timer.id)) r.dueTimers)
    exact hfire timer.id timer.task
  have hyielded : r.yielded.reverse.filterMap number? = [] :=
    List.filterMap_eq_nil_iff.2 fun job hin => hplain job (List.mem_reverse.1 hin)
  have hids : (r.dueTimers.map (·.id) ++ r.wake.timers.map (·.id)).Perm (r.timers.map (·.id)) := by
    rw [← List.map_append]
    refine List.Perm.map _ ?_
    exact ((perm_foldr_insertByDue _).append_right _).trans (List.filter_append_perm _ _)
  -- Those that are due, in whatever order, and those that are not are all there were.
  rw [staged, staged, queue_wake, queue]
  simp only [List.filterMap_append, hfires, hyielded, List.append_assoc]
  exact ((List.perm_append_comm_assoc _ _ _).trans (hids.append_left _)).append_left _

theorem live_wake (hplain : ∀ job ∈ r.yielded, job.timer? = none) : r.wake.live.Perm r.live :=
  staged_wake (fun _ _ => rfl) hplain

theorem Paced.wake (h : Paced delay task r) : Paced delay task r.wake := by
  have hlive := live_wake h.plain
  refine ⟨h.up, h.lasting, nofun, fun job hin => ?_, fun timer hin => ?_, ?_, fun timer hin => ?_⟩
  · rcases mem_queue_wake.1 hin with hold | ⟨timer, htimer, rfl⟩ | hyielded
    · exact h.jobs job hold
    · exact (h.timers timer (mem_dueTimers.1 htimer).1).1
    · exact Job.keeps_of_timer? (h.plain job hyielded)
  · exact h.timers timer (List.mem_filter.1 hin).1
  · exact hlive.nodup_iff.2 h.distinct
  · exact h.numbered timer (hlive.mem_iff.1 hin)

/-- What the next step of a runner with delayed tasks does to them and to the others:
none is lost that is not handed out. -/
structure Taken (task : τ) (r : Runner τ) (handed : Option τ) (s : Runner τ) : Prop where
  live : ∀ timer ∈ s.live, timer ∈ r.live
  delayed : ∀ timer ∈ r.live, timer ∈ s.live ∨ handed = some task
  others : ∀ other, .run other ∈ r.queue → .run other ∈ s.queue ∨ handed = some other

/-- A delayed task that the runner has seen waits from now on. -/
theorem Paced.armed (h : Paced delay task r) {side : Side} {timer : TimerId} {s : Runner τ}
    (hs : Popped r side (.arm timer delay task) s) :
    let armed := { s with timers := s.timers ++ [⟨timer, s.now + delay, task⟩] }
    Paced delay task armed ∧ armed.live.Perm r.live := by
  intro armed
  have hpaced := h.popped hs
  have hlive : armed.live.Perm r.live := by
    refine List.Perm.trans ?_ hs.live.symm
    rw [live, List.map_append, ← List.append_assoc]
    exact List.perm_append_comm
  refine ⟨⟨hpaced.up, hpaced.lasting, hpaced.plain, hpaced.jobs, fun other hin => ?_, ?_,
    fun other hin => ?_⟩, hlive⟩
  · rcases List.mem_append.1 hin with hold | hnew
    · exact hpaced.timers other hold
    · obtain rfl := List.mem_singleton.1 hnew
      exact ⟨rfl, s.now, Nat.le_refl _, rfl⟩
  · exact hlive.nodup_iff.2 h.distinct
  · exact Nat.lt_of_lt_of_eq (h.numbered other (hlive.mem_iff.1 hin)) hs.issued.symm

/-- Doing a job loses no task. -/
theorem Paced.perform (h : Paced delay task r) {side : Side} {job : Job τ} {s : Runner τ}
    (hs : Popped r side job s) :
    Paced delay task (s.perform job).2 ∧ Taken task r (s.perform job).1 (s.perform job).2 := by
  have hpaced := h.popped hs
  have hkeeps : job.Keeps delay task := h.jobs job (hs.mem_queue.2 (.inl rfl))
  have hlive : ∀ timer, timer ∈ r.live ↔ timer ∈ job.timer?.toList ++ s.live :=
    fun _ => hs.live.mem_iff
  have hqueue : ∀ other, Job.run other ∈ r.queue → .run other = job ∨ .run other ∈ s.queue :=
    fun other hin => hs.mem_queue.1 hin
  cases job with
  | run t =>
    refine ⟨hpaced, fun _ => (hlive _).2, fun _ hin => .inl ((hlive _).1 hin), fun other hin => ?_⟩
    rcases hqueue other hin with heq | hlater
    · cases heq
      exact .inr rfl
    · exact .inl hlater
  | arm id d t =>
    obtain ⟨rfl, rfl⟩ := hkeeps
    obtain ⟨harmed, hsame⟩ := h.armed hs
    refine ⟨harmed, fun _ hin => hsame.mem_iff.1 hin, fun _ hin => .inl (hsame.mem_iff.2 hin), ?_⟩
    exact fun other hin => .inl ((hqueue other hin).resolve_left nofun)
  | fire id t =>
    -- The task is no longer live, and nothing is lost: it is handed out.
    obtain rfl : t = task := hkeeps
    refine ⟨⟨hpaced.up, hpaced.lasting, hpaced.plain, hpaced.jobs, hpaced.timers,
      hpaced.distinct, hpaced.numbered⟩, ?_, fun _ _ => .inr rfl, ?_⟩
    · exact fun _ hin => (hlive _).2 (List.mem_cons_of_mem _ hin)
    · exact fun other hin => .inl ((hqueue other hin).resolve_left nofun)
  | discard id =>
    refine ⟨⟨hpaced.up, hpaced.lasting, hpaced.plain, hpaced.jobs, hpaced.timers,
      hpaced.distinct, hpaced.numbered⟩, fun _ => (hlive _).2, fun _ hin => .inl ((hlive _).1 hin),
      ?_⟩
    exact fun other hin => .inl ((hqueue other hin).resolve_left nofun)

/-- A runner that lasts wakes up whoever is due when it looks at the clock. -/
theorem lookUp_of_lasting (lasting : r.closing = false) : r.lookUp = r.wake := by
  rw [lookUp, lasting]
  rfl

/-- **The next step of a runner loses no task.** -/
theorem Paced.take (h : Paced delay task r) (choice : Choice) :
    Paced delay task (r.take choice).2 ∧ Taken task r (r.take choice).1 (r.take choice).2 := by
  rcases r.take_eq choice with ⟨side, job, s, hs, -, htake⟩ | ⟨-, htake⟩
  · rw [htake]
    exact h.perform hs
  · have hlive := live_wake h.plain
    rw [htake, lookUp_of_lasting h.lasting]
    exact ⟨h.wake, fun _ hin => hlive.mem_iff.1 hin, fun _ hin => .inl (hlive.mem_iff.2 hin),
      fun other hin => .inl (mem_queue_wake.2 (.inl hin))⟩

theorem Paced.advance (h : Paced delay task r) (ms : Nat) : Paced delay task (r.advance ms) where
  up := h.up
  lasting := h.lasting
  plain := h.plain
  jobs := h.jobs
  timers := by
    intro timer hin
    obtain ⟨htask, since, hsince, hdue⟩ := h.timers timer hin
    exact ⟨htask, since, Nat.le_add_right_of_le hsince, hdue⟩
  distinct := h.distinct
  numbered := h.numbered

end ReadAhead.Runner
