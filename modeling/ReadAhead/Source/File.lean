/-
A data source over a local file. Opening happens at once and is answered by a
task of the render runner; the size of that moment is the size of the resource
from then on. A read is answered by its task, from whatever the file holds by
then: up to the known size it has to be there, and a file that shrank fails the
read.

A session is a source together with its runner, the disk, everything asked of it
and everything heard of it. Whoever calls the source, the runner, and whoever writes
to the disk change the session in moves that nothing interrupts; any sequence of
moves is a run, and what the runner looks at first in a step is part of it. In
`settle` that is what came from inside. Opening does not look at whether the source
is stopped, and its answer comes even if the source is gone by then.
-/
import ReadAhead.Source.Read
import ReadAhead.Source.Disk
import ReadAhead.Runner.Basic

set_option autoImplicit false

namespace ReadAhead

/-- A source over the file at a path. -/
structure FileSource where
  path : Bytes
  /-- What was opened last. -/
  handle : Option Disk.Node
  /-- Size of the file when it was opened. -/
  total : Option Nat
  stopped : Bool
  pending : Option Read
  deriving DecidableEq, Repr

namespace FileSource

/-- A source that is not opened. -/
def new (path : Bytes) : FileSource :=
  { path, handle := none, total := none, stopped := false, pending := none }

/-- Opens the file. If that fails, an earlier one stays open. -/
def openOn (s : FileSource) (disk : Disk) : Bool × FileSource :=
  match disk.find? s.path with
  | some node => (true, { s with handle := some node, total := some (disk.size node) })
  | none => (false, s)

/-- Why a read is turned away, if it is. -/
def refusal? (s : FileSource) (ask : Ask) : Option Failure :=
  if s.stopped then some .stopped
  else if ask.buffer.isEmpty then some (.invalidRead (.emptyBuffer ask.position))
  else if s.pending.isSome then some (.invalidRead (.overlappingAnother ask.position))
  else none

/-- Reads from the open file. Nothing is read at the end of the resource; up to
there, the file has to hold what it held when it was opened. -/
def readOn (s : FileSource) (disk : Disk) (read : Read) : Read.Result × Read :=
  match s.handle with
  | none => (.failed (.invalidRead .notOpen), read)
  | some node =>
    let want := min (s.total.getD 0 - read.position) read.size
    if want = 0 then (.done 0, read)
    else match node with
      | .folder => (.failed (.file .isDirectory), read)
      | .file id =>
        let found := ((disk.bytes id).drop read.position).take want
        if found.length = want then (.done want, read.write found)
        -- What there was has been copied by the time the end is met.
        else (.failed (.file .shortRead), read.write found)

/-- What the render runner does for a source. -/
inductive Task where
  /-- Answer the pending read. -/
  | look
  /-- Answer a request to open. -/
  | report (tag : Tag) (success : Bool)
  deriving DecidableEq, Repr

/-- A source with its runner and its disk, what was asked of it and what was heard
of it. -/
structure Session where
  source : Option FileSource
  render : Runner Task
  disk : Disk
  /-- Number of requests to open so far. -/
  opened : Nat
  /-- The reads asked for so far; a read's tag is its place among them. -/
  asked : List Ask
  log : List Event
  deriving DecidableEq, Repr

namespace Session

/-- A session before anything happened. -/
def start (source : FileSource) (disk : Disk) : Session :=
  { source := some source, render := .idle, disk, opened := 0, asked := [], log := [] }

/-- Notes an event. -/
def record (s : Session) (event : Event) : Session := { s with log := s.log ++ [event] }

/-- Queues a task of the render runner. -/
def post (s : Session) (place : Place) (task : Task) : Session :=
  let side := match place with
    | .render => Runner.Side.inside
    | .caller => Runner.Side.outside
  { s with render := s.render.post side task }

/-! ## Asking and answering -/

/-- Asks for reads. One that is turned away is answered at once, and what is asked
for inside its answer comes before the rest; one that is accepted waits for its
task. Nothing is asked of a source that is gone. -/
def ask (s : Session) (place : Place) : Plan → Session
  | .done => s
  | .ask first inside rest =>
    match s.source with
    | none => s
    | some source =>
      let read : Read :=
        { tag := s.asked.length, position := first.position, buffer := first.buffer
          followUps := inside }
      let s := { s with asked := s.asked ++ [first] }
      match source.refusal? first with
      | some failure =>
        ((s.record (read.answer (.failed failure) place)).ask place inside).ask place rest
      | none =>
        ({ s with source := some { source with pending := some read } }.post place .look).ask
          place rest

/-- Answers a read. -/
def answer (s : Session) (place : Place) (read : Read) (result : Read.Result) : Session :=
  (s.record (read.answer result place)).ask place read.followUps

/-- Answers the pending read, unless the source is stopped. -/
def look (s : Session) : Session :=
  match s.source with
  | none => s
  | some source =>
    if source.stopped then s
    else match source.pending with
      | none => s
      | some read =>
        let (result, read) := source.readOn s.disk read
        { s with source := some { source with pending := none } }.answer .render read result

/-- Carries out a task of the render runner. -/
def perform (s : Session) : Task → Session
  | .look => s.look
  | .report tag success => s.record (.opened tag success .render)

/-! ## Calls -/

/-- Asks for the file to be opened. -/
def requestOpen (s : Session) : Session :=
  match s.source with
  | none => s
  | some source =>
    let (success, source) := source.openOn s.disk
    { s with source := some source, opened := s.opened + 1 }.post .caller (.report s.opened success)

/-- Asks for a read, and for others inside its answer. -/
def read (s : Session) (first : Ask) (inside : Plan) : Session :=
  s.ask .caller (.ask first inside .done)

/-- Takes leave of a source, with `left` in its place: a pending read is told
that it will not get what it asked for. -/
def dismiss (s : Session) (source : FileSource) (left : Option FileSource) : Session :=
  match source.pending with
  | some read => { s with source := left }.answer .caller read (.failed .stopped)
  | none => { s with source := left }

/-- Stops the source for good. -/
def stop (s : Session) : Session :=
  match s.source with
  | none => s
  | some source => s.dismiss source (some { source with stopped := true, pending := none })

/-- Gives the source up. -/
def drop (s : Session) : Session :=
  match s.source with
  | none => s
  | some source => s.dismiss source none

/-- Size of the resource, if it was ever opened. -/
def size? (s : Session) : Option Nat := s.source.bind (·.total)

/-! ## Running -/

/-- Lets the render runner take one step. -/
def step (s : Session) (choice : Runner.Choice) : Session :=
  match s.render.take choice with
  | (some task, render) => { s with render }.perform task
  | (none, render) => { s with render }

/-- Steps until the runner has nothing to do, at most `fuel` times. -/
def settleWithin : Nat → Session → Session
  | 0, s => s
  | fuel + 1, s => if s.render.isBusy then settleWithin fuel (s.step .own) else s

/-- Number of steps after which the runner has nothing to do: one for each task,
and one for each read that the pending read's answer can bring about. -/
def work (s : Session) : Nat :=
  s.render.load + ((s.source.bind (·.pending)).map (·.followUps.count)).getD 0

/-- Steps until the runner has nothing to do. -/
def settle (s : Session) : Session := settleWithin s.work s

/-! ## Runs -/

/-- Everything that changes a session. -/
inductive Move where
  | requestOpen
  /-- Asks for reads, in the call of a user or in a task of the render runner. -/
  | ask (place : Place) (plan : Plan)
  /-- Stops the source, or aborts it, which is the same. -/
  | stop
  | drop
  | step (choice : Runner.Choice)
  /-- The files change. -/
  | alter (disk : Disk)
  deriving DecidableEq, Repr

/-- One change. -/
def move (s : Session) : Move → Session
  | .requestOpen => s.requestOpen
  | .ask place plan => s.ask place plan
  | .stop => s.stop
  | .drop => s.drop
  | .step choice => s.step choice
  | .alter disk => { s with disk }

/-- Changes one after another. -/
def play (s : Session) (moves : List Move) : Session := moves.foldl move s

end Session

end FileSource

end ReadAhead
