/-
From a location to a data source. A location that reads as a URL is judged by
its scheme: the web's are remote, `file` is local if the file is on this host,
and any other is turned down. Everything else is a path.

The settings are checked first, so that an unusable configuration never opens
anything. A session behind a location answers the same calls whatever is behind
it; a local file has no transfers, so signals do not concern it.
-/
import ReadAhead.Text.Utf8
import ReadAhead.Url.Parser
import ReadAhead.Source.Remote
import ReadAhead.Source.File

set_option autoImplicit false

namespace ReadAhead

/-- What a location names. -/
inductive Location where
  | remote (url : Url)
  | file (path : Bytes)
  deriving DecidableEq, Repr

/-- What a text names. -/
def Location.ofString (text : String) : Except Failure Location :=
  match Url.ofString text with
  | .error _ => .ok (.file (Text.Utf8.encode text.toList))
  | .ok url =>
    if url.scheme = "http".toList ∨ url.scheme = "https".toList then .ok (.remote url)
    else if url.scheme = "file".toList then
      match url.filePath? with
      | some path => .ok (.file path)
      | none => .error (.config (.notLocal url.text))
    else .error (.config (.unsupportedScheme (String.ofList url.scheme) text))

/-- A session with a source of either kind. -/
inductive Session where
  | remote (session : RemoteSource.Session)
  | file (session : FileSource.Session)
  deriving DecidableEq, Repr

namespace Session

/-- A session with the source that a text names. -/
def openAt (settings : Settings) (disk : Disk) (text : String) : Except Failure Session := do
  let settings ← settings.validate
  match ← Location.ofString text with
  | .remote url => return .remote (.start (← RemoteSource.new url settings))
  | .file path => return .file (.start (.new path) disk)

/-- Asks for the source to be opened. -/
def requestOpen : Session → Session
  | remote s => remote s.requestOpen
  | file s => file s.requestOpen

/-- Asks for a read, and for others inside its answer. -/
def read (s : Session) (first : Ask) (inside : Plan) : Session :=
  match s with
  | remote s => remote (s.read first inside)
  | file s => file (s.read first inside)

/-- Stops the source for good. -/
def stop : Session → Session
  | remote s => remote s.stop
  | file s => file s.stop

/-- Gives the source up. -/
def drop : Session → Session
  | remote s => remote s.drop
  | file s => file s.drop

/-- Signals of a transfer arrive, by default of the last one. -/
def deliver (s : Session) (fetch : Option FetchId) (signals : List Signal) : Session :=
  match s with
  | remote s => remote (s.deliver fetch signals)
  | file s => file s

/-- Blocks the render runner. -/
def holdRender : Session → Session
  | remote s => remote { s with render := s.render.hold }
  | file s => file { s with render := s.render.hold }

/-- Lets the render runner go on. -/
def releaseRender : Session → Session
  | remote s => remote { s with render := s.render.release }
  | file s => file { s with render := s.render.release }

/-- Blocks the I/O runner. -/
def holdIo : Session → Session
  | remote s => remote { s with io := s.io.hold }
  | file s => file s

/-- Lets the I/O runner go on. -/
def releaseIo : Session → Session
  | remote s => remote { s with io := s.io.release }
  | file s => file s

/-- Moves the clock. -/
def advance (s : Session) (ms : Nat) : Session :=
  match s with
  | remote s => remote (s.advance ms)
  | file s => file { s with render := s.render.advance ms }

/-- Something happens to the files. -/
def onDisk (s : Session) (change : Disk → Disk) : Session :=
  match s with
  | remote s => remote s
  | file s => file { s with disk := change s.disk }

/-- Steps until there is nothing to do. -/
def settle : Session → Session
  | remote s => remote s.settle
  | file s => file s.settle

/-- Everything heard so far. -/
def log : Session → List Event
  | remote s => s.log
  | file s => s.log

/-- The source is still there. -/
def isAlive : Session → Bool
  | remote s => s.source.isSome
  | file s => s.source.isSome

/-- Size of the resource, if it is known. -/
def size? : Session → Option Nat
  | remote s => s.size?
  | file s => s.size?

end Session

end ReadAhead
