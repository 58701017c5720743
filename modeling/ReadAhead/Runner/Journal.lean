/-
A runner under observation. What its tasks do is left open: a task is a number, and while it
runs, as at any other time, anything may be asked of the runner. Calls from inside stand for
what the tasks do and calls from outside for everybody else, and any sequence of them, with
steps of the runner in between, is a history. What the runner looks at first in a step is part
of the history as well.

A shutdown asks the runner to end and leaves it at that. The runner ends in some step after it,
and that is when a shutdown returns that waits for it; whatever happens in between is part of
the history like everything else.

The journal notes what was posted and where, with which delay, what was cancelled, when the
runner saw a delayed task for the first time, and what has run and when. The runner moves
only where it is neither held nor idle.
-/
import ReadAhead.Runner.Basic

set_option autoImplicit false

namespace ReadAhead.Runner

/-- A task, by its number among those of its kind. -/
inductive Errand where
  /-- Posted without a delay. -/
  | plain (number : Nat)
  | delayed (timer : TimerId)
  deriving DecidableEq, Repr

/-- A runner with what has happened to it. -/
structure Journal where
  runner : Runner Errand
  /-- Where each task without a delay was posted, in order. -/
  posted : List Side
  /-- The delay of each delayed task, in order. -/
  delays : List Nat
  /-- The delayed tasks that were cancelled. -/
  cancelled : List TimerId
  /-- When the runner first saw each delayed task. -/
  seen : List (TimerId × Nat)
  /-- What has run, and when, in order. -/
  ran : List (Errand × Nat)
  deriving DecidableEq, Repr

/-- Everything that can happen to a runner. -/
inductive Move where
  | post (side : Side)
  | postDelayed (side : Side) (delay : Nat)
  | cancel (side : Side) (timer : TimerId)
  | advance (ms : Nat)
  | hold
  | release
  /-- The runner is asked to end. -/
  | shutdown
  /-- The runner does what comes next, if there is anything to do and it is not held. -/
  | step (choice : Choice)
  deriving DecidableEq, Repr

/-- The delayed task that a job lets the runner see for the first time. -/
def Job.unveiled? {τ : Type} : Job τ → Option TimerId
  | .arm timer _ _ => some timer
  | .run _ | .fire _ _ | .discard _ => none

namespace Errand

def plain? : Errand → Option Nat
  | plain number => some number
  | delayed _ => none

def delayed? : Errand → Option TimerId
  | plain _ => none
  | delayed timer => some timer

end Errand

namespace Journal

/-- An idle runner, before anything has happened. -/
def fresh : Journal :=
  { runner := .idle, posted := [], delays := [], cancelled := [], seen := [], ran := [] }

/-- Lets the runner take one step. -/
def step (j : Journal) (choice : Choice) : Journal :=
  if j.runner.isBusy then
    let (handed, runner) := j.runner.take choice
    let seen := (j.runner.next? choice).bind (·.1.unveiled?)
    { j with
      runner
      seen := j.seen ++ seen.toList.map (·, j.runner.now)
      ran := j.ran ++ handed.toList.map (·, j.runner.now) }
  else j

/-- One change. Only a task that was posted can be cancelled. -/
def move (j : Journal) : Move → Journal
  | .post side =>
    { j with
      runner := j.runner.post side (.plain j.posted.length)
      posted := j.posted ++ [side] }
  | .postDelayed side delay =>
    { j with
      runner := (j.runner.postDelayed side delay (.delayed j.runner.issued)).2
      delays := j.delays ++ [delay] }
  | .cancel side timer =>
    if timer < j.delays.length then
      { j with runner := j.runner.cancel side timer, cancelled := j.cancelled ++ [timer] }
    else j
  | .advance ms => { j with runner := j.runner.advance ms }
  | .hold => { j with runner := j.runner.hold }
  | .release => { j with runner := j.runner.release }
  | .shutdown => { j with runner := j.runner.close }
  | .step choice => j.step choice

/-- Changes one after another. -/
def play (j : Journal) (moves : List Move) : Journal := moves.foldl move j

/-- The tasks without a delay that have run, in order. -/
def done (j : Journal) : List Nat := j.ran.filterMap (·.1.plain?)

/-- The delayed tasks that have run, in order. -/
def fired (j : Journal) : List TimerId := j.ran.filterMap (·.1.delayed?)

/-- There is nothing to do for now, and nothing that keeps the runner from doing it. -/
def Rests (j : Journal) : Prop := j.runner.isBusy = false ∧ j.runner.held = false

instance (j : Journal) : Decidable j.Rests := inferInstanceAs (Decidable (_ ∧ _))

/-- The tasks without a delay that were posted on one side, in order. -/
def postedOn (j : Journal) (side : Side) : List Nat :=
  (List.range j.posted.length).filter (j.posted[·]? = some side)

/-- Those of them that have run, in order. -/
def doneOn (j : Journal) (side : Side) : List Nat := j.done.filter (j.posted[·]? = some side)

end Journal

end ReadAhead.Runner
