/-
What a fetch asks for, and what comes back. A request is a plain GET of
everything from an offset on; it forbids content codings, so that offsets in the
body are offsets in the resource.

An answer comes in signals: the head once, the body in chunks, and how the
transfer ended. Each signal is delivered together with the number of its fetch,
so that a receiver can tell signals of transfers it has given up.
-/
import ReadAhead.Bytes
import ReadAhead.Text.Blank
import ReadAhead.Fetch.Head
import ReadAhead.Fetch.Window
import ReadAhead.Url.Basic

set_option autoImplicit false

namespace ReadAhead

/-- A GET request for a part of a resource. -/
structure Request where
  id : FetchId
  url : Url
  offset : Nat
  headers : List (String × String)
  deriving DecidableEq, Repr

namespace Request

/-- The value of the `Range` header that asks for everything from `offset` on. -/
def rangeValue (offset : Nat) : String := s!"bytes={offset}-"

/-- The value of the `Accept-Encoding` header that forbids every content coding. -/
def identityOnly : String := "identity;q=1, *;q=0"

/-- Asks for everything from `offset` to the end of the resource. -/
def rangeFrom (id : FetchId) (url : Url) (offset : Nat) : Request :=
  { id, url, offset
    headers := [("Range", rangeValue offset), ("Accept-Encoding", identityOnly)] }

/-- The value of the first header of a name; the case of ASCII letters does not matter. -/
def header? (r : Request) (name : String) : Option String :=
  (r.headers.find? fun header => Text.sameLetters header.1.toList name.toList).map (·.2)

end Request

/-- One step of an answer. -/
inductive Signal where
  | head (head : Head)
  | bytes (bytes : Bytes)
  | ended (status : FetchStatus)
  deriving DecidableEq, Repr

end ReadAhead
