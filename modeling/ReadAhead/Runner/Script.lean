/-
Tasks with nothing in them but marks, to watch a runner by. A script is a
sequence of marks to leave, scripts to post and pauses; a workbench is a runner
of scripts together with the marks left so far.

`settle` runs until there is nothing to do. Its bound counts what every script
that is queued or waiting can still cause: each mark, post and pause of a script
costs the runner at most one step, and so does each job around it.
-/
import ReadAhead.Runner.Basic

set_option autoImplicit false

namespace ReadAhead

/-- What a task does. -/
inductive Script where
  | done
  /-- Leaves a mark. -/
  | mark (label : String) (rest : Script)
  /-- Posts a script to the same runner. -/
  | post (script : Script) (rest : Script)
  /-- Yields. -/
  | pause (rest : Script)
  deriving DecidableEq, Repr

namespace Script

/-- A task with a single mark. -/
def leaf (label : String) : Script := .mark label .done

/-- A task that posts another one between two marks. -/
def nested (label : String) : Script :=
  .mark (label ++ "/outer") (.post (leaf (label ++ "/inner")) (leaf (label ++ "/outer end")))

/-- A task with a pause between two marks. -/
def paused (label : String) : Script :=
  .mark (label ++ "/1") (.pause (leaf (label ++ "/2")))

/-- Number of steps that a script and what it posts can cause. -/
def weight : Script → Nat
  | done => 1
  | mark _ rest => rest.weight + 1
  | post script rest => script.weight + rest.weight + 1
  | pause rest => rest.weight + 1

end Script

/-- A runner of scripts and the marks they left. -/
structure Workbench where
  runner : Runner Script
  marks : List String
  deriving DecidableEq, Repr

namespace Workbench

/-- An idle runner and no marks. -/
def fresh : Workbench := { runner := .idle, marks := [] }

/-- Runs a script up to its next pause. -/
def run (w : Workbench) : Script → Workbench
  | .done => w
  | .mark label rest => { w with marks := w.marks ++ [label] }.run rest
  | .post script rest => { w with runner := w.runner.post .inside script }.run rest
  | .pause rest => { w with runner := w.runner.yield rest }

/-- Lets the runner take one step, what came from inside first. -/
def step (w : Workbench) : Workbench :=
  match w.runner.take .own with
  | (some script, runner) => { w with runner }.run script
  | (none, runner) => { w with runner }

/-- Steps until there is nothing to do, at most `fuel` times. -/
def settleWithin : Nat → Workbench → Workbench
  | 0, w => w
  | fuel + 1, w => if w.runner.isBusy then settleWithin fuel w.step else w

/-- Number of steps that a job can cause. -/
def jobWeight : Runner.Job Script → Nat
  | .run script | .fire _ script => script.weight + 1
  | .arm _ _ script => script.weight + 3
  | .discard _ => 1

/-- Number of steps that the runner can take before it is idle. -/
def work (r : Runner Script) : Nat :=
  (r.own ++ r.foreign ++ r.yielded).foldl (fun n job => n + jobWeight job) 0 +
    r.timers.foldl (fun n timer => n + timer.task.weight + 2) 0 + 1

/-- Steps until there is nothing to do. -/
def settle (w : Workbench) : Workbench := settleWithin (2 * work w.runner) w

end Workbench

end ReadAhead
