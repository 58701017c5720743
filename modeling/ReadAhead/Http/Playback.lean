/-
Playing a resource from a server: a session in which the signals of the current
transfer arrive one by one for as long as somebody waits for an answer. A new
transfer takes the place of the one before it, and what had not arrived of that
never does.

Whoever waits gives up when nothing is left to arrive and time has passed once
more. So every wait is bounded by the number of signals on their way.
-/
import ReadAhead.Http.Origin
import ReadAhead.Source.Remote

set_option autoImplicit false

namespace ReadAhead.Http

/-- A session and what is on its way to it. -/
structure Playback where
  session : RemoteSource.Session
  origin : Origin
  /-- What is still to arrive of the current transfer. -/
  incoming : List Signal
  /-- How much of the session's log was looked at. -/
  seen : Nat
  /-- The first request that the server saw. -/
  first : Option Request
  deriving DecidableEq, Repr

namespace Playback

/-- Sees to what was heard: a new transfer takes the place of the one before. -/
def attend (p : Playback) : Event → Playback
  | .fetch request =>
    { p with
      incoming := p.origin.signals request
      first := if p.origin.refuses then none else p.first <|> some request }
  | _ => p

/-- Lets the session come to rest. -/
def settle (p : Playback) : Playback :=
  let session := p.session.settle
  (session.log.drop p.seen).foldl attend { p with session, seen := session.log.length }

/-- A playback that asks for the resource to be opened. -/
def start (source : RemoteSource) (origin : Origin) : Playback :=
  settle
    { session := (RemoteSource.Session.start source).requestOpen
      origin, incoming := [], seen := 0, first := none }

/-- The next signal arrives. -/
def arrive (p : Playback) : Playback :=
  match p.incoming with
  | [] => p
  | signal :: rest => settle { p with session := p.session.deliver none [signal], incoming := rest }

/-- Time passes until a pending read looks again. -/
def wait (p : Playback) : Playback :=
  let delay := (p.session.source.map (·.retryDelay)).getD 0
  settle { p with session := p.session.advance (delay + 1) }

/-- Signals arrive until something was heard, at most `fuel` of them. -/
def await {α : Type} (heard : Event → Option α) : Nat → Playback → Option α × Playback
  | 0, p => (p.session.log.findSome? heard, p)
  | fuel + 1, p =>
    match p.session.log.findSome? heard with
    | some answer => (some answer, p)
    | none => await heard fuel p.arrive.wait

/-- The answer to the request to open. -/
def opening : Event → Option Bool
  | .opened _ success _ => some success
  | _ => none

/-- Waits until the source is open, and says whether it could be opened. -/
def awaitOpening (p : Playback) : Option Bool × Playback :=
  p.await opening (p.incoming.length + 1)

/-- The answer to a read: a failure, or the bytes read. -/
def reading (tag : Tag) : Event → Option (Except Failure Bytes)
  | .read other result buffer _ =>
    if other = tag then
      match result with
      | .done count => some (.ok (buffer.take count))
      | .failed failure => some (.error failure)
    else none
  | _ => none

/-- Reads once. -/
def readOnce (p : Playback) (position size : Nat) : Option (Except Failure Bytes) × Playback :=
  let tag := p.session.asked.length
  let asked := settle
    { p with session := p.session.read ⟨position, List.replicate size 0⟩ .done }
  asked.await (reading tag) (asked.incoming.length + 1)

/-- Reads on behind what was read already until there is as much as wanted, the
resource ends, or a read fails; in at most `fuel` reads. -/
def readWithin (position size : Nat) : Nat → Bytes → Playback → Except Failure Bytes × Playback
  | 0, sofar, p => (.ok sofar, p)
  | fuel + 1, sofar, p =>
    match p.readOnce (position + sofar.length) (size - sofar.length) with
    | (some (.ok (b :: bytes)), p) =>
      let sofar := sofar ++ b :: bytes
      if size ≤ sofar.length then (.ok sofar, p) else readWithin position size fuel sofar p
    | (some (.error failure), p) => (.error failure, p)
    | (_, p) => (.ok sofar, p)

/-- Reads until there is as much as wanted, the resource ends, or a read fails. -/
def readFully (p : Playback) (position size : Nat) : Except Failure Bytes × Playback :=
  readWithin position size (size + 1) [] p

/-- Stops the source. -/
def stop (p : Playback) : Playback := settle { p with session := p.session.stop }

end Playback

end ReadAhead.Http
