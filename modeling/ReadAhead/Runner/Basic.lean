/-
A runner: one thread that works off tasks, as a value. Tasks come from outside
or from the task that is being run; the runner keeps a queue for each, in the
order of arrival. Which of them it turns to, and when it looks at the clock, is
up to its scheduler: every step is given its choice, and only where both queues
are empty there is none. A task may also yield, which puts the rest of it off
until the runner looks at the clock; whoever yielded last goes on first.

A delayed task waits in three stages. As an `arm` job it waits for the runner to
see it, and its delay counts from there. As a timer it waits for the clock. Once
due it becomes a `fire` job, when the runner looks at the clock. Until it has
run it can be cancelled; a cancelled one leaves a `discard` job behind, so that
it counts as finished as soon as the runner comes by, and not before.

A runner is asked to end, and ends when it looks at the clock the next time.
Until then it goes on as before; what it has not run by then it drops.

Nothing here runs a task: `take` hands out the next one, and who holds the
runner carries it out. The clock moves by `advance` alone.
-/

set_option autoImplicit false

namespace ReadAhead

/-- Number of a delayed task. -/
abbrev TimerId := Nat

/-- Where a call to a runner comes from. -/
inductive Runner.Side where
  /-- From the task the runner is running. -/
  | inside
  /-- From anywhere else. -/
  | outside
  deriving DecidableEq, Repr

/-- What a runner looks at first in a step. Its scheduler decides, by a count of
its own and by when it was woken up, so that any of them may come next. -/
inductive Runner.Choice where
  /-- The queue of what came from inside. -/
  | own
  /-- The queue of what came from outside. -/
  | foreign
  /-- The clock. -/
  | clock
  deriving DecidableEq, Repr

/-- What a runner has queued. -/
inductive Runner.Job (τ : Type) where
  | run (task : τ)
  | arm (timer : TimerId) (delay : Nat) (task : τ)
  | fire (timer : TimerId) (task : τ)
  | discard (timer : TimerId)
  deriving DecidableEq, Repr

/-- A delayed task that waits for the clock. -/
structure Runner.Timer (τ : Type) where
  id : TimerId
  due : Nat
  task : τ
  deriving DecidableEq, Repr

/-- A thread with its queues, timers and clock. -/
structure Runner (τ : Type) where
  own : List (Runner.Job τ)
  foreign : List (Runner.Job τ)
  yielded : List (Runner.Job τ)
  timers : List (Runner.Timer τ)
  now : Nat
  /-- Number of delayed tasks so far. -/
  issued : Nat
  /-- Delayed tasks that have neither run nor been dropped. -/
  unfinished : List TimerId
  held : Bool
  /-- The runner was asked to end. -/
  closing : Bool
  /-- The runner has ended. -/
  down : Bool
  deriving DecidableEq, Repr

namespace Runner

variable {τ : Type}

/-- A runner with nothing to do. -/
def idle : Runner τ :=
  { own := [], foreign := [], yielded := [], timers := [], now := 0, issued := 0
    unfinished := [], held := false, closing := false, down := false }

/-! ## Posting -/

/-- Queues a job, unless the runner is down. -/
def enqueue (r : Runner τ) (side : Side) (job : Job τ) : Runner τ :=
  if r.down then r
  else match side with
    | .inside => { r with own := r.own ++ [job] }
    | .outside => { r with foreign := r.foreign ++ [job] }

/-- Queues a task. -/
def post (r : Runner τ) (side : Side) (task : τ) : Runner τ := r.enqueue side (.run task)

/-- Puts the rest of the running task off until the runner looks at the clock. -/
def yield (r : Runner τ) (task : τ) : Runner τ :=
  if r.down then r else { r with yielded := r.yielded ++ [.run task] }

/-- Queues a task that runs once a delay has passed. -/
def postDelayed (r : Runner τ) (side : Side) (delay : Nat) (task : τ) : TimerId × Runner τ :=
  let counted := { r with
    issued := r.issued + 1
    unfinished := if r.down then r.unfinished else r.unfinished ++ [r.issued] }
  (r.issued, counted.enqueue side (.arm r.issued delay task))

/-! ## Cancelling -/

/-- The job is a stage of the delayed task. -/
def Job.belongsTo (timer : TimerId) : Job τ → Bool
  | run _ => false
  | arm id _ _ | fire id _ | discard id => id == timer

/-- What is left of a job when a delayed task is cancelled. -/
def Job.cancel (timer : TimerId) (job : Job τ) : Job τ :=
  if job.belongsTo timer then .discard timer else job

/-- Cancels a delayed task that has not begun to run. -/
def cancel (r : Runner τ) (side : Side) (timer : TimerId) : Runner τ :=
  if r.timers.any (·.id == timer) then
    -- The clock no longer matters, but only the runner itself can count the task as finished.
    { r with timers := r.timers.filter (·.id != timer) }.enqueue side (.discard timer)
  else
    { r with own := r.own.map (·.cancel timer), foreign := r.foreign.map (·.cancel timer) }

/-- The delayed task has run, or was dropped. -/
def isFinished (r : Runner τ) (timer : TimerId) : Bool := !r.unfinished.contains timer

/-! ## Running -/

/-- A delayed task is done with. -/
def retire (r : Runner τ) (timer : TimerId) : Runner τ :=
  { r with unfinished := r.unfinished.filter (· != timer) }

/-- Does a job that was taken off a queue; a task in it is handed out. -/
def perform (r : Runner τ) : Job τ → Option τ × Runner τ
  | .run task => (some task, r)
  | .arm id delay task => (none, { r with timers := r.timers ++ [⟨id, r.now + delay, task⟩] })
  | .fire id task => (some task, r.retire id)
  | .discard id => (none, r.retire id)

/-- The clock has passed the timer. -/
def Timer.isDue (now : Nat) (timer : Timer τ) : Bool := timer.due < now

/-- Puts a timer in front of those that are due later. -/
def insertByDue (timer : Timer τ) : List (Timer τ) → List (Timer τ)
  | [] => [timer]
  | other :: rest =>
    if timer.due ≤ other.due then timer :: other :: rest
    else other :: insertByDue timer rest

/-- Wakes up whoever waited for the clock: the timers that are due, in the order in
which they became so, and then what yielded, the last of it first. All of it goes
behind what came from inside. -/
def wake (r : Runner τ) : Runner τ :=
  let due := (r.timers.filter (·.isDue r.now)).foldr insertByDue []
  { r with
    own := r.own ++ due.map (fun timer => .fire timer.id timer.task) ++ r.yielded.reverse
    yielded := []
    timers := r.timers.filter (!·.isDue r.now) }

/-- Ends the runner. What has not run is dropped and counts as finished, and so
does everything posted later. A shutdown that waits for the runner returns when
this has happened. -/
def shutdown (r : Runner τ) : Runner τ :=
  { r with
    own := [], foreign := [], yielded := [], timers := [], unfinished := [], closing := true
    down := true }

/-- Looks at the clock: the runner ends if it was asked to, and otherwise wakes up
whoever is due. -/
def lookUp (r : Runner τ) : Runner τ := if r.closing then r.shutdown else r.wake

/-- Takes the first job off a queue. -/
def pop? (r : Runner τ) : Side → Option (Job τ × Runner τ)
  | .inside =>
    match r.own with
    | [] => none
    | job :: own => some (job, { r with own })
  | .outside =>
    match r.foreign with
    | [] => none
    | job :: foreign => some (job, { r with foreign })

/-- The job that comes next, if one does: where the queue that is looked at first is
empty, the other one has its turn. -/
def next? (r : Runner τ) : Choice → Option (Job τ × Runner τ)
  | .own => (r.pop? .inside).or (r.pop? .outside)
  | .foreign => (r.pop? .outside).or (r.pop? .inside)
  | .clock => none

/-- Takes the next step, which may be to run a task. Where no job comes next, the
runner looks at the clock. -/
def take (r : Runner τ) (choice : Choice) : Option τ × Runner τ :=
  match r.next? choice with
  | some (job, rest) => rest.perform job
  | none => (none, r.lookUp)

/-- There is something to do now. -/
def isBusy (r : Runner τ) : Bool :=
  !r.held && !r.down && (r.closing ||
    !(r.own.isEmpty && r.foreign.isEmpty && r.yielded.isEmpty && r.timers.all (!·.isDue r.now)))

/-- Number of jobs and timers, an estimate of what is left to do. -/
def load (r : Runner τ) : Nat :=
  r.own.length + r.foreign.length + r.yielded.length + r.timers.length

/-! ## Time and control -/

/-- Moves the clock. -/
def advance (r : Runner τ) (ms : Nat) : Runner τ := { r with now := r.now + ms }

/-- Blocks the runner: what is posted queues up. -/
def hold (r : Runner τ) : Runner τ := { r with held := true }

/-- Lets a blocked runner go on. -/
def release (r : Runner τ) : Runner τ := { r with held := false }

/-- Asks the runner to end, which is all that a shutdown in one of its own tasks does.
Until the runner looks at the clock, what is queued may still run and what is posted
is still queued. -/
def close (r : Runner τ) : Runner τ := { r with closing := true }

end Runner

end ReadAhead
