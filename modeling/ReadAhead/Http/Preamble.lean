/-
What stands in front of a body: the version of the protocol, a status and header
fields. A client reads forgivingly: empty lines in front do not count, a line
may end in a line feed alone, and nothing depends on the words behind the
status. It is strict about the fields: one bad line spoils them all, and there
is room for so many and no more.

A provisional preamble announces another one. What follows it is read as the
next, so there is always one that counts, or there is no answer.
-/
import ReadAhead.Http.Field

set_option autoImplicit false

namespace ReadAhead.Http

/-- What stands in front of a body. -/
structure Preamble where
  /-- The second number of the version, zero or one. -/
  minor : Nat
  status : Nat
  fields : List Field
  deriving DecidableEq, Repr

namespace Preamble

/-! ## Reading -/

/-- Number of fields that there is room for. -/
def maxFields : Nat := 100

/-- Length that a field's name stays below. -/
def nameLimit : Nat := 65536

/-- Length that a preamble stays below until it is complete. -/
def sizeLimit : Nat := 417792

/-- The bytes of an ASCII text. -/
def ascii (text : String) : Bytes := text.toList.map (·.toNat.toUInt8)

/-- The version, as its second number. -/
def version (wire : Bytes) : Reading Nat :=
  (Reading.exactly (ascii "HTTP/1.") wire).andThen fun _ rest =>
    Reading.one (fun b => if b = 48 then some 0 else if b = 49 then some 1 else none) rest

/-- One digit. -/
def digit (wire : Bytes) : Reading Nat :=
  Reading.one (fun b => if 48 ≤ b ∧ b ≤ 57 then some (b.toNat - 48) else none) wire

/-- The three digits of a status. -/
def statusCode (wire : Bytes) : Reading Nat :=
  (digit wire).andThen fun a rest => (digit rest).andThen fun b rest =>
    (digit rest).andThen fun c rest => .done (100 * a + 10 * b + c) rest

/-- The rest of the first line: nothing, or words behind a space. -/
def reason (wire : Bytes) : Reading Unit :=
  match wire with
  | 32 :: rest =>
    (Reading.line (Field.isValueChar ∘ Field.ofByte) rest).andThen fun _ rest => .done () rest
  | _ => Reading.lineEnd wire

/-- The line that comes is empty. -/
def atLineEnd (wire : Bytes) : Bool :=
  wire.head?.all fun b => b = Reading.carriageReturn || b = Reading.lineFeed

/-- The empty line behind the fields. -/
def noFields (wire : Bytes) : Reading (List Field) :=
  (Reading.lineEnd wire).andThen fun _ rest => .done [] rest

/-- Fields up to the empty line behind them. One more than there is `room` for
spoils them as soon as it is complete. -/
def fieldLines : Nat → Bytes → Reading (List Field)
  | 0, wire =>
    if atLineEnd wire then noFields wire else (Field.read wire).andThen fun _ _ => .invalid
  | room + 1, wire =>
    if atLineEnd wire then noFields wire
    else
      (Field.read wire).andThen fun field rest =>
        (fieldLines room rest).andThen fun fields rest => .done (field :: fields) rest

/-- A preamble can be used. -/
def isSound (p : Preamble) : Bool :=
  100 ≤ p.status && p.fields.all (·.name.length < nameLimit)

/-- A preamble. -/
def read (wire : Bytes) : Reading Preamble :=
  (Reading.emptyLines wire).andThen fun _ rest =>
  (version rest).andThen fun minor rest =>
  (Reading.exactly [32] rest).andThen fun _ rest =>
  (statusCode rest).andThen fun status rest =>
  (reason rest).andThen fun _ rest =>
  (fieldLines maxFields rest).andThen fun fields rest =>
    let p : Preamble := { minor, status, fields }
    if p.isSound then .done p rest else .invalid

/-- Another preamble follows. -/
def isProvisional (p : Preamble) : Bool := p.status < 200 && p.status ≠ 101

/-- The first preamble that is not provisional, behind at most `fuel` others. -/
def readFinalWithin : Nat → Bytes → Reading Preamble
  | 0, _ => .short
  | fuel + 1, wire =>
    match read wire with
    | .done p rest => if p.isProvisional then readFinalWithin fuel rest else .done p rest
    | .short => if sizeLimit ≤ wire.length then .invalid else .short
    | .invalid => .invalid

/-- The first preamble that is not provisional. -/
def readFinal (wire : Bytes) : Reading Preamble := readFinalWithin (wire.length + 1) wire

end Preamble

end ReadAhead.Http
