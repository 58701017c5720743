/-
The fetch window: where the current attempt began, how far it got, how long the
resource is and how the attempt is doing. Attempts are numbered from 1 as they
begin; number 0 with the idle phase is a window that never began.

`frontier` is the position behind the last byte the attempt delivered. What a
reader can expect of the attempt is a comparison with the frontier: positions
behind it are delivered, positions a little ahead of it are on the way, and
everything else has to be asked for again.
-/

set_option autoImplicit false

namespace ReadAhead

/-- Number of a fetch attempt. -/
abbrev FetchId := Nat

/-- How a transfer ended. -/
inductive FetchStatus where
  | completed
  | failed (reason : String)
  deriving DecidableEq, Repr

/-- How an attempt is doing. -/
inductive FetchPhase where
  | idle
  | fetching
  | completed
  | failed
  deriving DecidableEq, Repr

/-- Progress of the current or most recent attempt. -/
structure FetchWindow where
  start : Nat
  offset : Nat
  total : Option Nat
  attempt : FetchId
  phase : FetchPhase
  discard : Nat
  deriving DecidableEq, Repr

namespace FetchWindow

/-- A window before the first attempt. -/
def fresh : FetchWindow :=
  { start := 0, offset := 0, total := none, attempt := 0, phase := .idle, discard := 0 }

/-- The position behind the last delivered byte. -/
def frontier (w : FetchWindow) : Nat := w.start + w.offset

/-- The fetch is the one the window describes. -/
def isCurrent (w : FetchWindow) (fetch : FetchId) : Bool :=
  w.phase != .idle && fetch == w.attempt

/-! ## Progress -/

/-- A new attempt from `position` on. The known size of the resource stays. -/
def begin (w : FetchWindow) (position : Nat) : FetchWindow :=
  { w with attempt := w.attempt + 1, start := position, offset := 0, discard := 0,
           phase := .fetching }

/-- The attempt ended. -/
def finish (w : FetchWindow) (status : FetchStatus) : FetchWindow :=
  { w with phase := match status with
      | .completed => .completed
      | .failed _ => .failed }

/-- `count` more bytes were delivered. -/
def advance (w : FetchWindow) (count : Nat) : FetchWindow := { w with offset := w.offset + count }

/-- The size of the resource became known. -/
def setTotal (w : FetchWindow) (total : Nat) : FetchWindow := { w with total := some total }

/-- The next `count` bytes of the body are to be dropped. -/
def setDiscard (w : FetchWindow) (count : Nat) : FetchWindow := { w with discard := count }

/-- Of `available` body bytes, how many are to be dropped. -/
def takeDiscard (w : FetchWindow) (available : Nat) : Nat × FetchWindow :=
  let dropped := min w.discard available
  (dropped, { w with discard := w.discard - dropped })

/-! ## What a reader can expect -/

/-- The attempt has delivered `position`. -/
def isBehind (w : FetchWindow) (position : Nat) : Bool := position < w.frontier

/-- The attempt will not come to `position` soon: it began behind it, or its
frontier is more than `lookahead` bytes short of it. -/
def isOutOfReach (w : FetchWindow) (position lookahead : Nat) : Bool :=
  position < w.start || lookahead < position - w.frontier

/-- The position lies at or past the known end of the resource. -/
def isPastEnd (w : FetchWindow) (position : Nat) : Bool :=
  match w.total with
  | some total => total ≤ position
  | none => false

/-- The attempt ended short of the known end of the resource, or failed. -/
def endedShort (w : FetchWindow) : Bool :=
  match w.phase with
  | .failed => true
  | .completed => match w.total with
    | some total => w.frontier < total
    | none => false
  | .idle | .fetching => false

/-- The attempt ended before `position`, which lies inside the resource as far
as its size is known. -/
def isStalledAt (w : FetchWindow) (position : Nat) : Bool :=
  !w.isBehind position && !w.isPastEnd position && w.endedShort

end FetchWindow

end ReadAhead
