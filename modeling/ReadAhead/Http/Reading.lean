/-
Reading from the front of what has arrived on a connection. A reader either has
what it looks for, and says where it ends, or it has seen too little, or it has
seen enough to know that nothing that could still arrive will help.

The difference between the last two matters while a connection is open: too
little means to wait, and a mistake is reported at once.
-/
import ReadAhead.Bytes

set_option autoImplicit false

namespace ReadAhead.Http

/-- What comes of reading. -/
inductive Reading (α : Type) where
  /-- It is there, and this follows. -/
  | done (value : α) (rest : Bytes)
  /-- The end of it is not there yet. -/
  | short
  /-- Whatever arrives, it will not be there. -/
  | invalid
  deriving DecidableEq, Repr

namespace Reading

variable {α β : Type}

/-- Reads on behind what was read. -/
def andThen (reading : Reading α) (next : α → Bytes → Reading β) : Reading β :=
  match reading with
  | done value rest => next value rest
  | short => short
  | invalid => invalid

/-- One byte, as what it stands for. -/
def one (value? : UInt8 → Option α) : Bytes → Reading α
  | [] => short
  | b :: rest =>
    match value? b with
    | some value => done value rest
    | none => invalid

/-- Exactly the bytes of a text. -/
def exactly : Bytes → Bytes → Reading Unit
  | [], wire => done () wire
  | _ :: _, [] => short
  | a :: text, b :: wire => if a = b then exactly text wire else invalid

/-! ## Lines -/

def carriageReturn : UInt8 := 13

def lineFeed : UInt8 := 10

/-- What a line ends with. -/
def lineBreak : Bytes := [carriageReturn, lineFeed]

/-- A line of the bytes that are allowed in it. It may end in a line feed alone. -/
def line (allowed : UInt8 → Bool) (wire : Bytes) : Reading Bytes :=
  let text := wire.takeWhile allowed
  match wire.drop text.length with
  | [] => short
  | b :: rest =>
    if b = lineFeed then done text rest
    else if b = carriageReturn then
      (exactly [lineFeed] rest).andThen fun _ rest => done text rest
    else invalid

/-- The end of a line. -/
def lineEnd (wire : Bytes) : Reading Unit :=
  (line (fun _ => false) wire).andThen fun _ rest => done () rest

/-- Empty lines, if there are any. Something has to follow them. -/
def emptyLines : Bytes → Reading Unit
  | [] => short
  | 10 :: rest => emptyLines rest
  | 13 :: 10 :: rest => emptyLines rest
  | [13] => short
  | 13 :: _ => invalid
  | wire => done () wire

end Reading

end ReadAhead.Http
