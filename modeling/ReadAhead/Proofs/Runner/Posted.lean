/-
The tasks that a runner was given without a delay and has not handed out yet, by the side
they came from. Each side keeps its order, and they leave one by one from its front;
nothing else takes from them: whatever becomes of a delayed task is no matter of theirs, as
long as nobody yields.
-/
import ReadAhead.Proofs.Runner.Timers

set_option autoImplicit false

namespace ReadAhead.Runner

variable {τ : Type}

/-- The task of a job that was posted without a delay. -/
def Job.posted? : Job τ → Option τ
  | .run task => some task
  | .arm _ _ _ | .fire _ _ | .discard _ => none

/-- The tasks that were posted on one side without a delay and wait, in order. -/
def postedFrom (r : Runner τ) (side : Side) : List τ := (r.jobsFrom side).filterMap Job.posted?

/-- The tasks that were posted without a delay and wait, those from inside first. -/
def posted (r : Runner τ) : List τ := r.queue.filterMap Job.posted?

variable {r : Runner τ}

theorem posted_eq (r : Runner τ) : r.posted = r.postedFrom .inside ++ r.postedFrom .outside :=
  List.filterMap_append

/-- What waits on both sides is what waits. -/
theorem posted_congr {s : Runner τ} (h : ∀ side, s.postedFrom side = r.postedFrom side) :
    s.posted = r.posted := by
  rw [posted_eq, posted_eq, h, h]

theorem mem_posted {task : τ} : task ∈ r.posted ↔ .run task ∈ r.queue := by
  rw [posted, List.mem_filterMap]
  constructor
  · rintro ⟨job, hin, htask⟩
    cases job with
    | run other =>
      obtain rfl := Option.some.inj htask
      exact hin
    | arm | fire | discard => exact absurd htask nofun
  · exact fun hin => ⟨.run task, hin, rfl⟩

/-! ## Posting and cancelling -/

section

variable (side : Side)

/-- What is queued waits behind everything else from its side. -/
theorem postedFrom_enqueue (up : r.down = false) (job : Job τ) (other : Side) :
    (r.enqueue side job).postedFrom other =
      r.postedFrom other ++ if other = side then job.posted?.toList else [] := by
  have hone : [job].filterMap Job.posted? = job.posted?.toList := by cases job <;> rfl
  rw [enqueue_of_up side job up]
  cases side <;> cases other <;>
    simp only [postedFrom, jobsFrom, List.filterMap_append, hone, if_pos, reduceCtorEq, if_false,
      List.append_nil]

/-- A stage of a delayed task is none of them. -/
theorem postedFrom_enqueue_of_none {job : Job τ} (h : job.posted? = none) (other : Side) :
    (r.enqueue side job).postedFrom other = r.postedFrom other := by
  cases hdown : r.down with
  | true =>
    unfold enqueue
    rw [if_pos hdown]
  | false =>
    rw [postedFrom_enqueue side hdown, h, Option.toList_none, ite_self, List.append_nil]

theorem posted_postDelayed (delay : Nat) (task : τ) :
    (r.postDelayed side delay task).2.posted = r.posted :=
  posted_congr (postedFrom_enqueue_of_none side rfl)

/-- **A task that is posted** waits with the others. -/
theorem posted_post (up : r.down = false) (task : τ) :
    (r.post side task).posted.Perm (task :: r.posted) := by
  rw [posted_eq, posted_eq, post, postedFrom_enqueue side up, postedFrom_enqueue side up]
  cases side with
  | inside =>
    show (r.postedFrom .inside ++ [task] ++ (r.postedFrom .outside ++ [])).Perm _
    rw [List.append_nil, List.append_assoc]
    exact List.perm_middle
  | outside =>
    show (r.postedFrom .inside ++ [] ++ (r.postedFrom .outside ++ [task])).Perm _
    rw [List.append_nil, ← List.append_assoc]
    exact List.perm_append_singleton task _

/-- **Cancelling a delayed task** leaves the others where they are. -/
theorem postedFrom_cancel (timer : TimerId) (other : Side) :
    (r.cancel side timer).postedFrom other = r.postedFrom other := by
  have hjob : ∀ job : Job τ, (job.cancel timer).posted? = job.posted? := by
    intro job
    cases job with
    | run => rfl
    | arm | fire | discard =>
      unfold Job.cancel
      split <;> rfl
  rw [cancel_eq]
  split
  · exact postedFrom_enqueue_of_none side rfl other
  · cases other with
    | inside =>
      show (r.own.map (·.cancel timer)).filterMap Job.posted? = r.own.filterMap Job.posted?
      rw [List.filterMap_map]
      exact congrArg (r.own.filterMap ·) (funext hjob)
    | outside =>
      show (r.foreign.map (·.cancel timer)).filterMap Job.posted? = r.foreign.filterMap Job.posted?
      rw [List.filterMap_map]
      exact congrArg (r.foreign.filterMap ·) (funext hjob)

theorem posted_cancel (timer : TimerId) : (r.cancel side timer).posted = r.posted :=
  posted_congr (postedFrom_cancel side timer)

end

/-! ## Runners that put nothing off -/

/-- The runner is up and goes on, and no task of it has yielded. -/
structure Prompt (r : Runner τ) : Prop where
  up : r.down = false
  lasting : r.closing = false
  yielded : r.yielded = []

theorem prompt_idle : Prompt (idle : Runner τ) := ⟨rfl, rfl, rfl⟩

theorem Prompt.enqueue (h : Prompt r) (side : Side) (job : Job τ) :
    Prompt (r.enqueue side job) := by
  rw [enqueue_of_up side job h.up]
  cases side <;> exact ⟨h.up, h.lasting, h.yielded⟩

theorem Prompt.postDelayed (h : Prompt r) (side : Side) (delay : Nat) (task : τ) :
    Prompt (r.postDelayed side delay task).2 := by
  let counted : Runner τ := { r with
    issued := r.issued + 1
    unfinished := if r.down then r.unfinished else r.unfinished ++ [r.issued] }
  have hcounted : Prompt counted := ⟨h.up, h.lasting, h.yielded⟩
  exact hcounted.enqueue side (.arm r.issued delay task)

theorem Prompt.cancel (h : Prompt r) (side : Side) (timer : TimerId) :
    Prompt (r.cancel side timer) := by
  rw [cancel_eq]
  split
  · have hunset : Prompt (r.unset timer) := ⟨h.up, h.lasting, h.yielded⟩
    exact hunset.enqueue side (.discard timer)
  · exact ⟨h.up, h.lasting, h.yielded⟩

theorem Prompt.take (h : Prompt r) (choice : Choice) : Prompt (r.take choice).2 := by
  rcases r.take_eq choice with ⟨side, job, s, hs, -, htake⟩ | ⟨-, htake⟩
  · rw [htake]
    cases job <;>
      exact ⟨hs.down.trans h.up, hs.closing.trans h.lasting, hs.yielded.trans h.yielded⟩
  · rw [htake, lookUp_of_lasting h.lasting]
    exact ⟨h.up, h.lasting, rfl⟩

/-! ## Taking -/

section

variable {side : Side} {job : Job τ} {s : Runner τ}

/-- A job that is taken was the first of its side. -/
theorem Popped.postedFrom (h : Popped r side job s) :
    r.postedFrom side = job.posted?.toList ++ s.postedFrom side := by
  rw [Runner.postedFrom, h.first, List.filterMap_cons]
  cases job <;> rfl

theorem Popped.postedFrom_of_ne (h : Popped r side job s) {other : Side} (hne : other ≠ side) :
    r.postedFrom other = s.postedFrom other := by
  rw [Runner.postedFrom, ← h.others other hne]
  rfl

theorem Popped.posted (h : Popped r side job s) :
    r.posted.Perm (job.posted?.toList ++ s.posted) := by
  refine (h.queue.filterMap Job.posted?).trans (List.Perm.of_eq ?_)
  rw [List.filterMap_cons]
  cases job <;> rfl

end

/-- Those that wake up are delayed tasks, as long as nobody has yielded. -/
theorem postedFrom_wake (prompt : r.yielded = []) (side : Side) :
    r.wake.postedFrom side = r.postedFrom side := by
  have hfires : (r.dueTimers.map fun timer => Job.fire timer.id timer.task).filterMap
      Job.posted? = [] := by
    rw [List.filterMap_map]
    exact List.filterMap_eq_nil_iff.2 fun _ _ => rfl
  cases side with
  | inside =>
    show (r.own ++ (r.dueTimers.map fun timer => Job.fire timer.id timer.task) ++
      r.yielded.reverse).filterMap Job.posted? = _
    rw [prompt, List.reverse_nil, List.append_nil, List.filterMap_append, hfires,
      List.append_nil]
    rfl
  | outside => rfl

/-- **The next step of a runner** hands out one of them, or none of them. -/
theorem Paced.posted_take {delay : Nat} {task : τ} (h : Paced delay task r)
    (prompt : Prompt r) (choice : Choice) :
    (∃ next, (r.take choice).1 = some next ∧
      r.posted.Perm (next :: (r.take choice).2.posted)) ∨
      r.posted.Perm (r.take choice).2.posted ∧
        ((r.take choice).1 = none ∨ (r.take choice).1 = some task) := by
  rcases r.take_eq choice with ⟨side, job, s, hs, -, htake⟩ | ⟨-, htake⟩
  · have hkeeps : job.Keeps delay task := h.jobs job (hs.mem_queue.2 (.inl rfl))
    have hposted := hs.posted
    rw [htake]
    cases job with
    | run next => exact .inl ⟨next, rfl, hposted⟩
    | arm => exact .inr ⟨hposted, .inl rfl⟩
    | fire timer other =>
      obtain rfl : other = task := hkeeps
      exact .inr ⟨hposted, .inr rfl⟩
    | discard => exact .inr ⟨hposted, .inl rfl⟩
  · rw [htake, lookUp_of_lasting prompt.lasting]
    exact .inr ⟨List.Perm.of_eq (posted_congr (postedFrom_wake prompt.yielded)).symm, .inl rfl⟩

end ReadAhead.Runner
