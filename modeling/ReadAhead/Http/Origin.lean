/-
A file server for one resource. It sends the resource from the requested byte on
if it honours ranges and the byte is inside, and all of it otherwise; anywhere
else there is nothing.
-/
import ReadAhead.Http.Reply

set_option autoImplicit false

namespace ReadAhead.Http

/-- A server of one resource. -/
structure Origin where
  data : Bytes
  honorsRanges : Bool
  /-- It takes no connections. -/
  refuses : Bool
  deriving DecidableEq, Repr

namespace Origin

/-- Where the resource is. -/
def target : List Char := "/movie.mp4".toList

/-- An answer whose length is announced. -/
def sized (status : Nat) (headers : List (String × String)) (body : Bytes) : Reply :=
  { status, headers := ("Content-Length", toString body.length) :: headers, body, chunked := false }

/-- The answer to a request. -/
def reply (o : Origin) (request : Request) : Reply :=
  if request.url.requestTarget ≠ target then sized 404 [] []
  else if o.honorsRanges ∧ request.offset < o.data.length then
    let range : ContentRange :=
      { first := request.offset, last := o.data.length - 1, length := some o.data.length }
    sized 206 [("Content-Range", String.ofList range.print)] (o.data.drop request.offset)
  else sized 200 [] o.data

/-- What the server does with a request. -/
def serve (o : Origin) (request : Request) : Service :=
  if o.refuses then .refuse else .reply (o.reply request)

/-- All signals of a transfer. -/
def signals (o : Origin) (request : Request) : List Signal :=
  (Transfer.start request.id).run ((o.serve request).steps false)

end Origin

end ReadAhead.Http
