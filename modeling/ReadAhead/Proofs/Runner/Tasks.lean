/-
What waits in a runner, and what a step takes of it. A step does the first job of one side
or, where no job comes next, looks at the clock; `take_eq` says so for whatever the runner
looks at first, and what is proved of steps is proved from there.

A runner makes up no tasks: what it hands out was posted once, and what it keeps is what it
has not handed out. So a property of every task that is posted is one of every task that is
run.
-/
import ReadAhead.Runner.Basic

set_option autoImplicit false

namespace ReadAhead.Runner

variable {τ : Type}

/-! ## Queues -/

/-- The jobs that came from one side and wait, in order. -/
def jobsFrom (r : Runner τ) : Side → List (Job τ)
  | .inside => r.own
  | .outside => r.foreign

/-- The jobs that wait, those from inside first. -/
def queue (r : Runner τ) : List (Job τ) := r.own ++ r.foreign

/-- The first job of a side was taken off its queue, and nothing else happened yet. -/
structure Popped (r : Runner τ) (side : Side) (job : Job τ) (s : Runner τ) : Prop where
  first : r.jobsFrom side = job :: s.jobsFrom side
  others : ∀ other, other ≠ side → s.jobsFrom other = r.jobsFrom other
  yielded : s.yielded = r.yielded
  timers : s.timers = r.timers
  now : s.now = r.now
  issued : s.issued = r.issued
  unfinished : s.unfinished = r.unfinished
  closing : s.closing = r.closing
  down : s.down = r.down

section

variable {r s : Runner τ} {side : Side} {job : Job τ} {choice : Choice}

theorem Popped.queue (h : Popped r side job s) : r.queue.Perm (job :: s.queue) := by
  have hfirst := h.first
  unfold Runner.queue
  cases side with
  | inside =>
    have hforeign : s.foreign = r.foreign := h.others .outside nofun
    change r.own = job :: s.own at hfirst
    rw [hfirst, hforeign, List.cons_append]
  | outside =>
    have hown : s.own = r.own := h.others .inside nofun
    change r.foreign = job :: s.foreign at hfirst
    rw [hfirst, hown]
    exact List.perm_middle

theorem Popped.mem_queue (h : Popped r side job s) {other : Job τ} :
    other ∈ r.queue ↔ other = job ∨ other ∈ s.queue :=
  h.queue.mem_iff.trans List.mem_cons

theorem popped_of_pop? (h : r.pop? side = some (job, s)) : Popped r side job s := by
  cases side with
  | inside =>
    rw [pop?] at h
    split at h
    · exact absurd h nofun
    · next hown =>
      obtain ⟨rfl, rfl⟩ := Prod.mk.inj (Option.some.inj h)
      refine ⟨hown, fun other hne => ?_, rfl, rfl, rfl, rfl, rfl, rfl, rfl⟩
      cases other with
      | inside => exact absurd rfl hne
      | outside => rfl
  | outside =>
    rw [pop?] at h
    split at h
    · exact absurd h nofun
    · next hforeign =>
      obtain ⟨rfl, rfl⟩ := Prod.mk.inj (Option.some.inj h)
      refine ⟨hforeign, fun other hne => ?_, rfl, rfl, rfl, rfl, rfl, rfl, rfl⟩
      cases other with
      | inside => rfl
      | outside => exact absurd rfl hne

theorem popped_of_next? (h : r.next? choice = some (job, s)) : ∃ side, Popped r side job s := by
  cases choice with
  | clock => exact absurd h nofun
  | own =>
    rcases Option.or_eq_some_iff.1 h with hinside | ⟨-, houtside⟩
    · exact ⟨.inside, popped_of_pop? hinside⟩
    · exact ⟨.outside, popped_of_pop? houtside⟩
  | foreign =>
    rcases Option.or_eq_some_iff.1 h with houtside | ⟨-, hinside⟩
    · exact ⟨.outside, popped_of_pop? houtside⟩
    · exact ⟨.inside, popped_of_pop? hinside⟩

/-- **The next step of a runner** is to do the first job of a side, or to look at the clock. -/
theorem take_eq (r : Runner τ) (choice : Choice) :
    (∃ side job s, Popped r side job s ∧ r.next? choice = some (job, s) ∧
      r.take choice = s.perform job) ∨
      r.next? choice = none ∧ r.take choice = (none, r.lookUp) := by
  rw [take]
  cases hnext : r.next? choice with
  | none => exact .inr ⟨rfl, rfl⟩
  | some next =>
    obtain ⟨job, s⟩ := next
    obtain ⟨side, hs⟩ := popped_of_next? hnext
    exact .inl ⟨side, job, s, hs, rfl, rfl⟩

end

/-! ## Tasks -/

variable {P : τ → Prop} {r : Runner τ}

/-- The task that a job will have the runner run, now or later. -/
def Job.task? : Job τ → Option τ
  | .run task | .arm _ _ task | .fire _ task => some task
  | .discard _ => none

/-- Every task of a queue has a property. -/
def AllTasks (P : τ → Prop) (jobs : List (Job τ)) : Prop :=
  ∀ job ∈ jobs, ∀ task, job.task? = some task → P task

/-- Every task that waits in a runner has a property. -/
structure Holds (P : τ → Prop) (r : Runner τ) : Prop where
  queue : AllTasks P r.queue
  yielded : AllTasks P r.yielded
  timers : ∀ timer ∈ r.timers, P timer.task

theorem allTasks_nil : AllTasks P [] := nofun

theorem allTasks_cons {job : Job τ} {rest : List (Job τ)} :
    AllTasks P (job :: rest) ↔ (∀ task, job.task? = some task → P task) ∧ AllTasks P rest := by
  simp [AllTasks]

theorem allTasks_append {jobs more : List (Job τ)} :
    AllTasks P (jobs ++ more) ↔ AllTasks P jobs ∧ AllTasks P more := by
  simp only [AllTasks, List.mem_append, or_imp, forall_and]

theorem holds_idle : Holds P (idle : Runner τ) := ⟨allTasks_nil, allTasks_nil, nofun⟩

/-! ### Posting -/

theorem Holds.enqueue (h : Holds P r) (side : Side) {job : Job τ}
    (hjob : ∀ task, job.task? = some task → P task) : Holds P (r.enqueue side job) := by
  unfold Runner.enqueue
  split
  · exact h
  · obtain ⟨hown, hforeign⟩ := allTasks_append.1 h.queue
    have hlast : AllTasks P [job] := allTasks_cons.2 ⟨hjob, allTasks_nil⟩
    cases side with
    | inside =>
      exact ⟨allTasks_append.2 ⟨allTasks_append.2 ⟨hown, hlast⟩, hforeign⟩, h.yielded, h.timers⟩
    | outside =>
      exact ⟨allTasks_append.2 ⟨hown, allTasks_append.2 ⟨hforeign, hlast⟩⟩, h.yielded, h.timers⟩

theorem Holds.post (h : Holds P r) (side : Side) {task : τ} (htask : P task) :
    Holds P (r.post side task) :=
  h.enqueue side fun _ ht => Option.some.inj ht ▸ htask

theorem Holds.advance (h : Holds P r) (ms : Nat) : Holds P (r.advance ms) :=
  ⟨h.queue, h.yielded, h.timers⟩

/-! ### Taking -/

/-- Doing a job hands out the job's own task, or keeps it for later. -/
theorem Holds.perform (h : Holds P r) {job : Job τ}
    (hjob : ∀ task, job.task? = some task → P task) :
    (∀ task, (r.perform job).1 = some task → P task) ∧ Holds P (r.perform job).2 := by
  cases job with
  | run task => exact ⟨fun _ ht => hjob _ ht, h⟩
  | arm id delay task =>
    -- Nothing is handed out yet: the task goes on with a timer.
    refine ⟨nofun, h.queue, h.yielded, fun timer hin => ?_⟩
    rcases List.mem_append.1 hin with hold | hnew
    · exact h.timers timer hold
    · rw [List.mem_singleton.1 hnew]
      exact hjob task rfl
  | fire id task => exact ⟨fun _ ht => hjob _ ht, h.queue, h.yielded, h.timers⟩
  | discard id => exact ⟨nofun, h.queue, h.yielded, h.timers⟩

theorem mem_insertByDue {timer other : Timer τ} {timers : List (Timer τ)} :
    other ∈ insertByDue timer timers ↔ other = timer ∨ other ∈ timers := by
  induction timers with
  | nil => simp [insertByDue]
  | cons first rest ih =>
    rw [insertByDue]
    split
    · simp
    · simp only [List.mem_cons, ih]
      exact or_left_comm

theorem mem_foldr_insertByDue {other : Timer τ} (timers : List (Timer τ)) :
    other ∈ timers.foldr insertByDue [] ↔ other ∈ timers := by
  induction timers with
  | nil => exact Iff.rfl
  | cons first rest ih => rw [List.foldr_cons, mem_insertByDue, ih, List.mem_cons]

/-- Waking up moves tasks from one queue to another. -/
theorem Holds.wake (h : Holds P r) : Holds P r.wake := by
  obtain ⟨hown, hforeign⟩ := allTasks_append.1 h.queue
  -- Own work is by now also what the due timers hold and what had yielded.
  refine ⟨allTasks_append.2 ⟨allTasks_append.2 ⟨allTasks_append.2 ⟨hown, ?_⟩, ?_⟩, hforeign⟩,
    allTasks_nil, ?_⟩
  · intro job hin task htask
    obtain ⟨timer, htimer, rfl⟩ := List.mem_map.1 hin
    rw [mem_foldr_insertByDue] at htimer
    rw [← Option.some.inj htask]
    exact h.timers timer (List.mem_filter.1 htimer).1
  · intro job hin
    exact h.yielded job (List.mem_reverse.1 hin)
  · intro timer hin
    exact h.timers timer (List.mem_filter.1 hin).1

theorem Holds.lookUp (h : Holds P r) : Holds P r.lookUp := by
  unfold Runner.lookUp
  split
  · exact ⟨allTasks_nil, allTasks_nil, nofun⟩
  · exact h.wake

/-- **What is handed out was waiting**, and so is what is left. -/
theorem Holds.take (h : Holds P r) (choice : Choice) :
    (∀ task, (r.take choice).1 = some task → P task) ∧ Holds P (r.take choice).2 := by
  rcases r.take_eq choice with ⟨side, job, s, hs, -, htake⟩ | ⟨-, htake⟩
  · have hleft : Holds P s :=
      ⟨fun other hin => h.queue other (hs.mem_queue.2 (.inr hin)), hs.yielded ▸ h.yielded,
        hs.timers ▸ h.timers⟩
    rw [htake]
    exact hleft.perform (h.queue job (hs.mem_queue.2 (.inl rfl)))
  · rw [htake]
    exact ⟨nofun, h.lookUp⟩

end ReadAhead.Runner
