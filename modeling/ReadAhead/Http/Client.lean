/-
The client that carries requests to a server. Its name goes with every request,
so a name that cannot be a header's value makes the client unusable, and that
shows when it is made.
-/
import ReadAhead.Config.Basic
import ReadAhead.Http.Reply

set_option autoImplicit false

namespace ReadAhead.Http

/-- A client, by the name it gives itself. -/
structure Client where
  userAgent : String
  deriving DecidableEq, Repr

/-- A request as a server sees it. -/
structure Sighting where
  line : String
  range : Option String
  acceptEncoding : Option String
  userAgent : String
  deriving DecidableEq, Repr

namespace Client

/-- The name of a client that was given none. -/
def standardName : String := "media-multibuffer/0.1.0"

/-- A client with the name from the settings. -/
def new (settings : HttpSettings) : Except Failure Client :=
  let name := settings.userAgent.getD standardName
  if name.toList.all Field.isValueChar then .ok { userAgent := name } else .error .network

/-- What a server sees of a request. -/
def sighting (c : Client) (request : Request) : Sighting :=
  { line := "GET " ++ String.ofList request.url.requestTarget ++ " HTTP/1.1"
    range := request.header? "Range"
    acceptEncoding := request.header? "Accept-Encoding"
    userAgent := String.ofList (Field.strip c.userAgent.toList) }

end Client

end ReadAhead.Http
