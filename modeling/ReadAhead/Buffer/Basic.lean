/-
The read-ahead buffer: a cache of one remote resource that is filled by one
transfer at a time. Bytes of the current transfer are stored at its frontier,
block by block. A reader first seeks, which starts another transfer if the
current one is not going to bring the position, and then copies what is cached.

The buffer neither transfers nor notifies anybody itself. Every operation gives
back the new state together with its effects, in order: transfers to start and
to cancel, and what the buffer's client is to be told.

One geometry is the cache's and decides where bytes go; the settings hold a
block shift of their own, which decides only what `blockId` answers.
-/
import ReadAhead.Config.Basic
import ReadAhead.Cache.Eviction
import ReadAhead.Cache.Span
import ReadAhead.Fetch.Request

set_option autoImplicit false

namespace ReadAhead

/-- What a buffer wants done. -/
inductive Buffer.Effect where
  /-- Start a transfer. -/
  | start (request : Request)
  /-- Give a transfer up. -/
  | cancel (fetch : FetchId)
  /-- Tell the client that the first answer is in, and whether it is a success. -/
  | initialized (success : Bool)
  /-- Tell the client that a transfer ended. -/
  | ended
  deriving DecidableEq, Repr

/-- A cache of one resource and the transfer that fills it. -/
structure Buffer where
  url : Url
  settings : BufferSettings
  cache : Cache
  window : FetchWindow
  /-- Head of the current transfer's answer. -/
  response : Option Head
  /-- Body bytes of the current transfer go into the cache. -/
  accepting : Bool
  /-- The transfer that would have to be cancelled. -/
  handle : Option FetchId
  /-- Block of the last seek, which eviction leaves alone with the ones behind it. -/
  readerBlock : Option BlockId
  initialized : Bool
  stopped : Bool
  deriving DecidableEq, Repr

namespace Buffer

/-! ## Construction -/

/-- A buffer around a cache. -/
def withCache (url : Url) (settings : BufferSettings) (cache : Cache) : Buffer :=
  { url, settings, cache, window := .fresh, response := none, accepting := false
    handle := none, readerBlock := none, initialized := false, stopped := false }

/-- A buffer with an empty cache of the geometry that the settings name. -/
def new (url : Url) (settings : BufferSettings) : Except Failure Buffer :=
  (Cache.new url.text settings.blockShift settings.maxCacheBytes).map (withCache url settings)

/-! ## Looking -/

/-- Size of the resource, once an answer told it. -/
def size? (b : Buffer) : Option Nat := b.window.total

/-- The block of a position by the settings' block shift. -/
def blockId (b : Buffer) (position : Nat) : BlockId := position >>> b.settings.blockShift

/-- Copies cached bytes from `position` on into a destination. Gives the number
of bytes copied, at least one, or nothing if none is cached there. -/
def fill (b : Buffer) (position : Nat) (destination : Bytes) : Option Nat × Bytes :=
  match b.cache.read position destination.length with
  | [] => (none, destination)
  | found => (some found.length, found ++ destination.drop found.length)

/-! ## Starting transfers -/

/-- Starts a transfer at `position` and then cancels the one before it. What is
known of the resource and every cached block stays. -/
def fetchFrom (b : Buffer) (position : Nat) : Buffer × List Effect :=
  let window := b.window.begin position
  -- The new transfer is on its way before the old one is given up.
  ({ b with window, response := none, accepting := false, handle := some window.attempt },
    .start (.rangeFrom window.attempt b.url position) :: b.handle.toList.map .cancel)

/-- Starts the first transfer, at byte 0. Nothing happens if there ever was one. -/
def begin (b : Buffer) : Buffer × List Effect :=
  if b.stopped || b.window.phase != .idle then (b, []) else b.fetchFrom 0

/-- The current transfer has passed the position, but the bytes are not cached:
their block was evicted, or was never completed up to the position. -/
def isMissing (b : Buffer) (position : Nat) : Bool :=
  b.window.isBehind position && !b.cache.covers position

/-- Whether a reader at `position` needs another transfer. -/
def needsRestart (b : Buffer) (position : Nat) : Bool :=
  b.window.phase == .idle || b.window.isStalledAt position ||
    b.window.isOutOfReach position b.settings.maxLookahead || b.isMissing position

/-- Announces a read at `position`. Says whether another transfer was started
for it, which then begins at the start of the position's block. -/
def seek (b : Buffer) (position : Nat) : Bool × Buffer × List Effect :=
  if b.stopped then (false, b, [])
  else
    let id := b.cache.geometry.blockOf position
    let b := { b with readerBlock := some id }
    if b.needsRestart position then (true, b.fetchFrom (b.cache.geometry.startOf id))
    else (false, b, [])

/-- Takes no further signals and starts no further transfer. The current
transfer is left to finish. -/
def stop (b : Buffer) : Buffer := { b with stopped := true }

/-! ## Signals -/

/-- The signal is not for the current transfer, or comes too late. -/
def ignores (b : Buffer) (fetch : FetchId) : Bool := b.stopped || !b.window.isCurrent fetch

/-- Notes the size of the resource if the head tells it. -/
def learnSize (b : Buffer) (head : Head) : Buffer :=
  match head.totalSize with
  | some total => { b with window := b.window.setTotal total }
  | none => b

/-- Decides from a head whether the body may be cached, and where. The body of a
partial answer has to begin where the transfer does. The body of any other
success begins at byte 0, so the bytes before the transfer's start are to be
dropped. The body of an error is not cached. -/
def accept (b : Buffer) (head : Head) : Buffer :=
  let b := { b with response := some head, accepting := false }
  if !head.isSuccess then b
  else
    let b := b.learnSize head
    if head.isPartial then
      match head.contentRange with
      -- The size was learned all the same.
      | some range => { b with accepting := range.first == b.window.start }
      | none => { b with accepting := true }
    else if 0 < b.window.start then
      { b with window := b.window.setDiscard b.window.start, accepting := true }
    else { b with accepting := true }

/-- The greatest block id. -/
def lastBlock : BlockId := UInt64.size - 1

/-- What eviction leaves alone: the frontier's block, and the reader's block
with those behind it. -/
def pinned (b : Buffer) : List IdRange :=
  let frontier := b.cache.geometry.blockOf b.window.frontier
  ⟨frontier, frontier⟩ :: b.readerBlock.toList.map fun reader =>
    ⟨reader, min (reader + b.settings.pinnedBlocks) lastBlock⟩

/-- Gives memory back if the cache is above its budget. -/
def trim (b : Buffer) : Buffer :=
  if b.cache.overBudget then { b with cache := (b.cache.evict b.pinned).2 } else b

/-- Stores bytes at the frontier. -/
def ingest (b : Buffer) (bytes : Bytes) : Buffer :=
  { b with
    cache := b.cache.ingest b.window.frontier bytes
    window := b.window.advance bytes.length }

/-- Stores a chunk of the body, except for the part of it that is to be dropped. -/
def store (b : Buffer) (bytes : Bytes) : Buffer :=
  let (skipped, window) := b.window.takeDiscard bytes.length
  { b with window }.ingest (bytes.drop skipped)

/-- The head of a transfer's answer arrived. The first one for a current
transfer is reported to the client. -/
def respond (b : Buffer) (fetch : FetchId) (head : Head) : Buffer × List Effect :=
  if b.ignores fetch then (b, [])
  else
    ({ b.accept head with initialized := true },
      if b.initialized then [] else [.initialized head.isSuccess])

/-- A chunk of the body arrived. -/
def receive (b : Buffer) (fetch : FetchId) (bytes : Bytes) : Buffer :=
  if b.ignores fetch || !b.accepting then b else (b.store bytes).trim

/-- A transfer ended. The client is told, and if nothing was reported before,
that there will be no answer. -/
def finish (b : Buffer) (fetch : FetchId) (status : FetchStatus) : Buffer × List Effect :=
  if b.ignores fetch then (b, [])
  else
    ({ b with window := b.window.finish status, initialized := true },
      if b.initialized then [.ended] else [.initialized false, .ended])

/-- Takes any signal. -/
def deliver (b : Buffer) (fetch : FetchId) : Signal → Buffer × List Effect
  | .head head => b.respond fetch head
  | .bytes bytes => (b.receive fetch bytes, [])
  | .ended status => b.finish fetch status

/-! ## Runs -/

/-- Everything that changes a buffer. -/
inductive Call where
  | begin
  | seek (position : Nat)
  | stop
  | deliver (fetch : FetchId) (signal : Signal)
  deriving DecidableEq, Repr

/-- One change. -/
def step (b : Buffer) : Call → Buffer × List Effect
  | .begin => b.begin
  | .seek position => (b.seek position).2
  | .stop => (b.stop, [])
  | .deliver fetch signal => b.deliver fetch signal

/-- Changes one after another, and their effects in order. -/
def run (b : Buffer) : List Call → Buffer × List Effect
  | [] => (b, [])
  | call :: rest =>
    let (b, effects) := b.step call
    let (b, later) := b.run rest
    (b, effects ++ later)

/-- What changes one after another make of a buffer. -/
def after (b : Buffer) (calls : List Call) : Buffer := (b.run calls).1

end Buffer

end ReadAhead
