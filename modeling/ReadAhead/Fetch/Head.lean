/-
What is known of an answer once its status line and headers are in, before any
of its body: the status, the announced length of the body, and for a partial
answer where the body lies in the resource.
-/
import ReadAhead.Fetch.ContentRange

set_option autoImplicit false

namespace ReadAhead

/-- Head of an HTTP answer. -/
structure Head where
  status : Nat
  contentLength : Option Nat
  contentRange : Option ContentRange
  deriving DecidableEq, Repr

namespace Head

/-- The status of a partial answer. -/
def partialContent : Nat := 206

/-- The status is in the 200s. -/
def isSuccess (h : Head) : Bool := h.status / 100 == 2

/-- The body is a part of the resource. -/
def isPartial (h : Head) : Bool := h.status == partialContent

/-- Length of the whole resource, as far as the head tells: the length named in
the range of a partial answer, or the length of the body of any other success. -/
def totalSize (h : Head) : Option Nat :=
  if h.isSuccess then
    if h.isPartial then h.contentRange.bind ContentRange.length else h.contentLength
  else none

end Head

end ReadAhead
