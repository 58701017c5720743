/-
What a server does with a connection, and what a client makes of it. A server
writes an answer and closes; whatever its fields hold goes out as it is. The
client sees nothing but the bytes, so a field that breaks its line is read as
what it has become.

An answer that cannot be read, or that ends before its body begins, is none.
-/
import ReadAhead.Http.Framing
import ReadAhead.Http.Transfer
import ReadAhead.Text.Utf8

set_option autoImplicit false

namespace ReadAhead.Http

/-- An answer as a server sends it. -/
structure Reply where
  status : Nat
  headers : List (String × String)
  body : Bytes
  /-- The server sends the body in the chunked coding. -/
  chunked : Bool
  deriving DecidableEq, Repr

/-- What a server does with a connection. -/
inductive Service where
  /-- It does not take it. -/
  | refuse
  /-- It takes the request and closes. -/
  | hangUp
  | reply (reply : Reply)
  deriving DecidableEq, Repr

namespace Reply

/-! ## What a server sends -/

/-- Bytes in a chunk of the chunked coding. -/
def chunkSize : Nat := 1000

/-- The bytes of the body. -/
def wireBody (r : Reply) : Bytes := if r.chunked then Chunked.encode chunkSize r.body else r.body

/-- The lines in front of the body. The server says that it will close. -/
def lines (r : Reply) : List String :=
  ("HTTP/1.1 " ++ toString r.status ++ " Answer") ::
    r.headers.map (fun (name, value) => name ++ ": " ++ value) ++ ["Connection: close", ""]

/-- Everything that is sent. -/
def wire (r : Reply) : Bytes :=
  r.lines.flatMap (fun line => Text.Utf8.encode line.toList ++ Reading.lineBreak) ++ r.wireBody

/-! ## What a client gets -/

/-- How a body ends when the server closes the connection in the middle. -/
def atClose : Framing → Step
  | .untilClose => .complete
  | .length _ | .chunked => .brokenOff "the connection was closed before the body was complete"

/-- Bytes that are handed over at once. -/
def stride : Nat := 65536

/-- What a client goes through behind the head. A server that stalls does not
close the connection behind the body. -/
def bodySteps (framing : Framing) (wire : Bytes) (stalls : Bool) : List Step :=
  let (body, ending) := framing.body wire
  ((body.pieces stride).filter (!·.isEmpty)).map .chunk ++
    match ending with
    | .complete => [.complete]
    | .spoiled => [.brokenOff "the body cannot be read"]
    | .short => if stalls then [] else [atClose framing]

/-- What a client goes through. -/
def steps (r : Reply) (stalls : Bool) : List Step :=
  match Preamble.readFinal r.wire with
  | .done p rest =>
    match p.framing? with
    | some framing => .head (p.head framing) :: bodySteps framing rest stalls
    | none => [.unanswered "the answer is not to be used"]
  | .short => if stalls then [] else [.unanswered "the connection was closed before an answer"]
  | .invalid => [.unanswered "the answer cannot be read"]

end Reply

/-- What a client goes through with a server. -/
def Service.steps (s : Service) (stalls : Bool) : List Step :=
  match s with
  | .refuse => [.unanswered "the connection was refused"]
  | .hangUp => [.unanswered "the connection was closed before an answer"]
  | .reply r => r.steps stalls

end ReadAhead.Http
