/-
One transfer, from the request to the end of the body. What happens on the
network comes in steps; the transfer turns each step into calls of its receiver,
every one with the number of the transfer. A transfer that could not be sent has
one call, its end. Any other has a head, the chunks of the body as they came, and
an end that says whether the body was complete; the status does not matter.

A transfer is a task that waits for the next step. Whoever started it holds it by
a handle, and to cancel it, or to drop the handle, is to take the task out of the
handle and abort it: a task that was aborted is not resumed. The receiver is not
held by the transfer. It can go away at any time, and the next call finds nobody.
-/
import ReadAhead.Fetch.Request

set_option autoImplicit false

namespace ReadAhead.Http

/-- What a transfer goes through. -/
inductive Step where
  /-- No answer came. -/
  | unanswered (reason : String)
  | head (head : Head)
  | chunk (bytes : Bytes)
  /-- The body is complete. -/
  | complete
  /-- The body broke off. -/
  | brokenOff (reason : String)
  /-- The transfer is cancelled through its handle. -/
  | cancel
  /-- The handle is dropped. -/
  | release
  /-- The receiver goes away. -/
  | deafen
  deriving DecidableEq, Repr

/-- A call of the receiver. -/
structure Callback where
  fetch : FetchId
  signal : Signal
  deriving DecidableEq, Repr

/-- How far a transfer is. -/
inductive Phase where
  | sent
  | streaming
  | over
  deriving DecidableEq, Repr

/-- A transfer. -/
structure Transfer where
  id : FetchId
  phase : Phase
  /-- There is a receiver. -/
  heard : Bool
  /-- The handle still holds the task. -/
  held : Bool
  /-- The task is not to be resumed. -/
  aborted : Bool
  deriving DecidableEq, Repr

namespace Transfer

/-- A transfer whose request is on its way. -/
def start (id : FetchId) : Transfer :=
  { id, phase := .sent, heard := true, held := true, aborted := false }

/-! ## The task -/

/-- The task is done. It says how the transfer ended, unless it was given up for
want of a receiver. -/
def finish (t : Transfer) (status : Option FetchStatus) : Transfer × List Callback :=
  ({ t with phase := .over },
    match status with
    | some status => if t.heard then [⟨t.id, .ended status⟩] else []
    | none => [])

/-- Hands a part of the answer on. Without a receiver the transfer is given up. -/
def hand (t : Transfer) (signal : Signal) : Transfer × List Callback :=
  if t.heard then ({ t with phase := .streaming }, [⟨t.id, signal⟩]) else t.finish none

/-- The task goes on with a step from the network. Steps that make no sense in a
phase change nothing. -/
def resume (t : Transfer) (step : Step) : Transfer × List Callback :=
  match step, t.phase with
  | .unanswered reason, .sent => t.finish (some (.failed reason))
  | .head head, .sent => t.hand (.head head)
  | .chunk bytes, .streaming => t.hand (.bytes bytes)
  | .complete, .streaming => t.finish (some .completed)
  | .brokenOff reason, .streaming => t.finish (some (.failed reason))
  | _, _ => (t, [])

/-! ## The handle -/

/-- Takes the task out of the handle and aborts it. A handle that holds no task any
more has nothing to abort. -/
def cancel (t : Transfer) : Transfer :=
  if t.held then { t with held := false, aborted := true } else t

/-! ## Runs -/

/-- Goes through one step. -/
def step (t : Transfer) (step : Step) : Transfer × List Callback :=
  match step with
  | .cancel | .release => (t.cancel, [])
  | .deafen => ({ t with heard := false }, [])
  | _ => if t.aborted then (t, []) else t.resume step

/-- All calls of the receiver in a sequence of steps. -/
def deliveries (t : Transfer) : List Step → List Callback
  | [] => []
  | step :: rest =>
    let (t, callbacks) := t.step step
    callbacks ++ t.deliveries rest

/-- All signals of a sequence of steps. -/
def run (t : Transfer) (steps : List Step) : List Signal := (t.deliveries steps).map Callback.signal

end Transfer

end ReadAhead.Http
