/-
Reads of a data source and what is heard of them. A read brings its buffer and
gets it back with the answer; the answer is the number of bytes copied, zero at
the end of the resource, or a failure. What the reader does on hearing the
answer is part of the read: it asks for further reads, which have answers of
their own.

A source is called from outside or from a task of the render runner, and its
answers are heard in the same place.
-/
import ReadAhead.Bytes
import ReadAhead.Buffer.Basic

set_option autoImplicit false

namespace ReadAhead

/-- Number of a read, or of a request to open. -/
abbrev Tag := Nat

/-- Where something happens. -/
inductive Place where
  /-- In a task of the render runner. -/
  | render
  /-- In the call of a source's user. -/
  | caller
  deriving DecidableEq, Repr

/-- What a read asks for: as many bytes at a position as the buffer holds. -/
structure Ask where
  position : Nat
  buffer : Bytes
  deriving DecidableEq, Repr

/-- What is asked for in one place: one read after another, and with each of
them what is asked for inside its answer. -/
inductive Plan where
  | done
  | ask (first : Ask) (inside rest : Plan)
  deriving DecidableEq, Repr

/-- Number of reads that a plan can bring about. -/
def Plan.count : Plan → Nat
  | done => 0
  | ask _ inside rest => inside.count + rest.count + 1

/-- A read that is not answered yet. Inside its answer `followUps` are asked for. -/
structure Read where
  tag : Tag
  position : Nat
  buffer : Bytes
  followUps : Plan
  deriving DecidableEq, Repr

/-- The answer to a read. -/
inductive Read.Result where
  /-- This many bytes were copied. -/
  | done (count : Nat)
  | failed (failure : Failure)
  deriving DecidableEq, Repr

/-- What can be heard of a source. -/
inductive Event where
  /-- A transfer is started. -/
  | fetch (request : Request)
  /-- A transfer is given up. -/
  | cancel (fetch : FetchId)
  /-- A request to open is answered. -/
  | opened (tag : Tag) (success : Bool) (place : Place)
  /-- A read is answered, and its buffer handed back. -/
  | read (tag : Tag) (result : Read.Result) (buffer : Bytes) (place : Place)
  deriving DecidableEq, Repr

namespace Read

/-- Number of bytes asked for. -/
def size (r : Read) : Nat := r.buffer.length

/-- Overwrites the head of the buffer; what does not fit is dropped. -/
def write (r : Read) (bytes : Bytes) : Read :=
  { r with buffer := bytes.take r.size ++ r.buffer.drop bytes.length }

/-- The end of a read: its one answer. -/
def answer (r : Read) (result : Result) (place : Place) : Event :=
  .read r.tag result r.buffer place

@[simp] theorem size_write (r : Read) (bytes : Bytes) : (r.write bytes).size = r.size := by
  simp only [write, size, List.length_append, List.length_take, List.length_drop]
  omega

end Read

end ReadAhead
