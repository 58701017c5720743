/-
A buffer at work: its I/O runner, and a client that may go away. Signals and
posted starts are tasks of the I/O runner; seeks, copies and stops happen at
once, wherever they are called. So a start can be overtaken by a seek, and a
signal by a stop. What the runner looks at first in a step makes no difference to
those that come from outside, as all of these do.

The log keeps every effect that reached somebody, in order.
-/
import ReadAhead.Buffer.Basic
import ReadAhead.Runner.Basic

set_option autoImplicit false

namespace ReadAhead.Buffer

/-- The effect is a message to the client. -/
def Effect.isNotice : Effect → Bool
  | start _ | cancel _ => false
  | initialized _ | ended => true

/-- A buffer with its runner, its client and what happened so far. A task of the
runner is a sequence of calls. -/
structure Session where
  buffer : Buffer
  io : Runner (List Call)
  clientAlive : Bool
  log : List Effect
  deriving DecidableEq, Repr

namespace Session

/-- A session before anything happened. -/
def start (buffer : Buffer) : Session :=
  { buffer, io := .idle, clientAlive := true, log := [] }

/-- Notes effects; a client that is gone gets no messages. -/
def record (s : Session) (effects : List Effect) : Session :=
  { s with log := s.log ++ effects.filter fun e => s.clientAlive || !e.isNotice }

/-- Makes calls at once. -/
def call (s : Session) (calls : List Call) : Session :=
  let (buffer, effects) := s.buffer.run calls
  { s with buffer }.record effects

/-- Makes calls on the I/O runner. -/
def post (s : Session) (calls : List Call) : Session :=
  { s with io := s.io.post .outside calls }

/-- Announces a read, and says whether another transfer was started for it. -/
def seek (s : Session) (position : Nat) : Bool × Session :=
  ((s.buffer.seek position).1, s.call [.seek position])

/-- The client goes away. -/
def dropClient (s : Session) : Session := { s with clientAlive := false }

/-- Lets the I/O runner take one step. -/
def step (s : Session) (choice : Runner.Choice) : Session :=
  match s.io.take choice with
  | (some calls, io) => { s with io }.call calls
  | (none, io) => { s with io }

/-- Steps until the I/O runner has nothing to do, at most `fuel` times. -/
def settleWithin : Nat → Session → Session
  | 0, s => s
  | fuel + 1, s => if s.io.isBusy then settleWithin fuel (s.step .own) else s

/-- Steps until the I/O runner has nothing to do. No call posts another task, so
one step for each task is enough. -/
def settle (s : Session) : Session := settleWithin s.io.load s

/-! ## Runs -/

/-- Everything that changes a session. -/
inductive Move where
  /-- A call is made at once. -/
  | call (call : Call)
  /-- Calls are left to the I/O runner. -/
  | post (calls : List Call)
  | step (choice : Runner.Choice)
  | dropClient
  deriving DecidableEq, Repr

/-- One change. -/
def move (s : Session) : Move → Session
  | .call call => s.call [call]
  | .post calls => s.post calls
  | .step choice => s.step choice
  | .dropClient => s.dropClient

/-- Changes one after another. -/
def play (s : Session) (moves : List Move) : Session := moves.foldl move s

end Session

end ReadAhead.Buffer
