/-
A data source over a remote resource. Reads are answered by tasks of the render
runner. The task of a new read announces its position to the buffer and copies
what is cached there; if nothing is, the read stays pending, and a timer looks
again after a delay. The end of a transfer has the source look as well. Only the
first look of a read may move the transfer.

A session is a source together with both of its runners, everything asked of it
and everything heard of it. Whoever calls the source, and each runner, changes
the session in moves that nothing interrupts; any sequence of moves is a run, and
what a runner looks at first in a step is part of it. `settle` is the run in which
the I/O runner goes first, and each runner sees to what came from inside.

Every answer is one entry of the log, and what a reader asks on hearing it is
asked in the same place, right behind that entry.
-/
import ReadAhead.Source.Read
import ReadAhead.Runner.Basic

set_option autoImplicit false

namespace ReadAhead

/-- A source over a buffer. -/
structure RemoteSource where
  buffer : Buffer
  retryDelay : Nat
  stopped : Bool
  /-- The request to open that waits for an answer. -/
  opening : Option Tag
  /-- The read that waits for an answer. -/
  pending : Option Read
  /-- The timer that will look again. -/
  retry : Option TimerId
  deriving DecidableEq, Repr

namespace RemoteSource

/-- A source over a buffer, before anything was asked of it. -/
def fresh (retryDelay : Nat) (buffer : Buffer) : RemoteSource :=
  { buffer, retryDelay, stopped := false, opening := none, pending := none, retry := none }

/-- A source over an empty buffer, if the buffer's settings are usable. -/
def new (url : Url) (settings : Settings) : Except Failure RemoteSource :=
  (Buffer.new url settings.buffer).map (fresh settings.source.retryDelayMs)

/-- Why a read is turned away, if it is. -/
def refusal? (s : RemoteSource) (ask : Ask) : Option Failure :=
  if s.stopped then some .stopped
  else if ask.buffer.isEmpty then some (.invalidRead (.emptyBuffer ask.position))
  else s.pending.map fun other => .invalidRead (.overlapping ask.position other.position)

/-- The answer to a read as far as the cache goes: nothing copied at the end of
the resource, or the bytes that are cached, if there are any. -/
def look? (s : RemoteSource) (read : Read) : Option (Nat × Read) :=
  if s.buffer.window.isPastEnd read.position then some (0, read)
  else match s.buffer.fill read.position read.buffer with
    | (some count, buffer) => some (count, { read with buffer })
    | (none, _) => none

/-- What the render runner does for a source. -/
inductive Task where
  /-- Try to answer the pending read; a new read first announces its position. -/
  | look (seek : Bool)
  /-- Answer the request to open. -/
  | report (success : Bool)
  /-- Turn down a request to open that came after the stop. -/
  | refuse (tag : Tag)
  deriving DecidableEq, Repr

/-- A source with its runners, what was asked of it and what was heard of it. -/
structure Session where
  source : Option RemoteSource
  render : Runner Task
  io : Runner (List Buffer.Call)
  /-- Number of requests to open so far. -/
  opened : Nat
  /-- The reads asked for so far; a read's tag is its place among them. -/
  asked : List Ask
  log : List Event
  deriving DecidableEq, Repr

namespace Session

/-- A session before anything happened. -/
def start (source : RemoteSource) : Session :=
  { source := some source, render := .idle, io := .idle, opened := 0, asked := [], log := [] }

/-- Notes an event. -/
def record (s : Session) (event : Event) : Session := { s with log := s.log ++ [event] }

/-- The side of the render runner that a place is on. -/
def side : Place → Runner.Side
  | .render => .inside
  | .caller => .outside

/-- Queues a task of the render runner. -/
def post (s : Session) (place : Place) (task : Task) : Session :=
  { s with render := s.render.post (side place) task }

/-- Sees to an effect of the buffer. Transfers are started and given up at once;
the messages to the buffer's client become tasks of the render runner. -/
def absorb (s : Session) : Buffer.Effect → Session
  | .start request => s.record (.fetch request)
  | .cancel fetch => s.record (.cancel fetch)
  | .initialized success => s.post .caller (.report success)
  | .ended => s.post .caller (.look false)

/-! ## Asking and answering -/

/-- Asks for reads. One that is turned away is answered at once, and what is asked
for inside its answer comes before the rest; one that is accepted waits for its
task. Nothing is asked of a source that is gone. -/
def ask (s : Session) (place : Place) : Plan → Session
  | .done => s
  | .ask first inside rest =>
    match s.source with
    | none => s
    | some source =>
      let read : Read :=
        { tag := s.asked.length, position := first.position, buffer := first.buffer
          followUps := inside }
      let s := { s with asked := s.asked ++ [first] }
      match source.refusal? first with
      | some failure =>
        ((s.record (read.answer (.failed failure) place)).ask place inside).ask place rest
      | none =>
        ({ s with source := some { source with pending := some read } }.post place
          (.look true)).ask place rest

/-- Answers a read. -/
def answer (s : Session) (place : Place) (read : Read) (result : Read.Result) : Session :=
  (s.record (read.answer result place)).ask place read.followUps

/-! ## Looking -/

/-- Cancels a source's timer. -/
def cancelRetry (s : Session) (place : Place) (source : RemoteSource) : Session :=
  match source.retry with
  | none => { s with source := some source }
  | some timer =>
    { s with
      source := some { source with retry := none }
      render := s.render.cancel (side place) timer }

/-- Sets the timer for another look, in place of any earlier one. -/
def armRetry (s : Session) (source : RemoteSource) : Session :=
  let s := s.cancelRetry .render source
  let (timer, render) := s.render.postDelayed .inside source.retryDelay (.look false)
  { s with source := some { source with retry := some timer }, render }

/-- The source and its pending read, unless it is stopped or has none. -/
def waiting? (s : Session) : Option (RemoteSource × Read) :=
  match s.source with
  | none => none
  | some source => if source.stopped then none else source.pending.map (source, ·)

/-- Tries to answer the pending read. -/
def look (s : Session) (seek : Bool) : Session :=
  match s.waiting? with
  | none => s
  | some (source, read) =>
    let (buffer, effects) :=
      if seek then (source.buffer.seek read.position).2 else (source.buffer, [])
    let source := { source with buffer }
    let s := effects.foldl absorb s
    match source.look? read with
    -- The read keeps waiting, and nothing was written to its buffer.
    | none => s.armRetry source
    | some (count, read) =>
      (s.cancelRetry .render { source with pending := none }).answer .render read (.done count)

/-- Answers the request to open. -/
def report (s : Session) (success : Bool) : Session :=
  match s.source with
  | none => s
  | some source =>
    if source.stopped then s
    else match source.opening with
      | none => s
      | some tag =>
        { s with source := some { source with opening := none } }.record
          (.opened tag success .render)

/-- Carries out a task of the render runner. -/
def perform (s : Session) : Task → Session
  | .look seek => s.look seek
  | .report success => s.report success
  | .refuse tag => s.record (.opened tag false .render)

/-! ## Calls -/

/-- Asks for the source to be opened: the first transfer starts. A request that
was not answered yet gives way to the new one. -/
def requestOpen (s : Session) : Session :=
  match s.source with
  | none => s
  | some source =>
    let tag := s.opened
    let s := { s with opened := tag + 1 }
    if source.stopped then s.post .caller (.refuse tag)
    else
      { s with
        source := some { source with opening := some tag }
        io := s.io.post .outside [.begin] }

/-- Asks for a read, and for others inside its answer. -/
def read (s : Session) (first : Ask) (inside : Plan) : Session :=
  s.ask .caller (.ask first inside .done)

/-- Takes leave of a source, with `left` in its place: the timer is cancelled and
whatever waits for an answer is told that it will not get what it asked for. -/
def dismiss (s : Session) (source : RemoteSource) (left : Option RemoteSource) : Session :=
  let s := { s.cancelRetry .caller source with source := left }
  let s := match source.pending with
    | some read => s.answer .caller read (.failed .stopped)
    | none => s
  match source.opening with
  | some tag => s.record (.opened tag false .caller)
  | none => s

/-- Stops the source for good. -/
def stop (s : Session) : Session :=
  match s.source with
  | none => s
  | some source => s.dismiss source (some
      { source with
        buffer := source.buffer.stop, stopped := true, opening := none, pending := none
        retry := none })

/-- Gives the source up. -/
def drop (s : Session) : Session :=
  match s.source with
  | none => s
  | some source => s.dismiss source none

/-- Size of the resource, if it is known. -/
def size? (s : Session) : Option Nat := s.source.bind (·.buffer.size?)

/-! ## The other side -/

/-- Signals of a transfer arrive, by default of the last one. Before the first
transfer nothing can arrive. -/
def deliver (s : Session) (fetch : Option FetchId) (signals : List Signal) : Session :=
  match s.source with
  | none => s
  | some source =>
    let last := source.buffer.window.attempt
    if last = 0 then s
    else { s with io := s.io.post .outside (signals.map (.deliver (fetch.getD last))) }

/-- Makes calls of the I/O runner. -/
def call (s : Session) (calls : List Buffer.Call) : Session :=
  match s.source with
  | none => s
  | some source =>
    let (buffer, effects) := source.buffer.run calls
    effects.foldl absorb { s with source := some { source with buffer } }

/-! ## Running -/

/-- Lets the render runner take one step. -/
def stepRender (s : Session) (choice : Runner.Choice) : Session :=
  match s.render.take choice with
  | (some task, render) => { s with render }.perform task
  | (none, render) => { s with render }

/-- Lets the I/O runner take one step. -/
def stepIo (s : Session) (choice : Runner.Choice) : Session :=
  match s.io.take choice with
  | (some calls, io) => { s with io }.call calls
  | (none, io) => { s with io }

/-- Steps until neither runner has anything to do, at most `fuel` times. -/
def settleWithin : Nat → Session → Session
  | 0, s => s
  | fuel + 1, s =>
    if s.io.isBusy then settleWithin fuel (s.stepIo .own)
    else if s.render.isBusy then settleWithin fuel (s.stepRender .own)
    else s

/-- Number of calls in a job of the I/O runner. -/
def callsIn : Runner.Job (List Buffer.Call) → Nat
  | .run calls | .arm _ _ calls | .fire _ calls => calls.length
  | .discard _ => 0

/-- Number of reads that the pending read's answer can bring about. -/
def followUps (s : Session) : Nat :=
  ((s.source.bind (·.pending)).map (·.followUps.count)).getD 0

/-- Number of steps after which both runners have nothing to do. Each call posts
at most two tasks and each follow-up one; a task costs its own step, two for the
timer it sets in place of another, and those of that other timer. -/
def work (s : Session) : Nat :=
  let calls := (s.io.own ++ s.io.foreign ++ s.io.yielded).foldl (fun n job => n + callsIn job) 0
  s.io.load + 6 * (2 * calls + s.render.load + s.followUps + 1)

/-- Steps until neither runner has anything to do. -/
def settle (s : Session) : Session := settleWithin s.work s

/-- Moves the clock of both runners. -/
def advance (s : Session) (ms : Nat) : Session :=
  { s with render := s.render.advance ms, io := s.io.advance ms }

/-! ## Runs -/

/-- Everything that changes a session. -/
inductive Move where
  | requestOpen
  | read (first : Ask) (inside : Plan)
  /-- Stops the source, or aborts it, which is the same. -/
  | stop
  | drop
  | deliver (fetch : Option FetchId) (signals : List Signal)
  | stepRender (choice : Runner.Choice)
  | stepIo (choice : Runner.Choice)
  | advance (ms : Nat)
  deriving DecidableEq, Repr

/-- One change. -/
def move (s : Session) : Move → Session
  | .requestOpen => s.requestOpen
  | .read first inside => s.read first inside
  | .stop => s.stop
  | .drop => s.drop
  | .deliver fetch signals => s.deliver fetch signals
  | .stepRender choice => s.stepRender choice
  | .stepIo choice => s.stepIo choice
  | .advance ms => s.advance ms

/-- Changes one after another. -/
def play (s : Session) (moves : List Move) : Session := moves.foldl move s

end Session

end RemoteSource

end ReadAhead
