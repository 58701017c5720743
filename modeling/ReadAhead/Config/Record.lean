/-
Reading a record from JSON by a table of its fields. A record is an object whose
members may come in any order, or an array of the fields in theirs. A field that
is not given keeps its default; a name that the table does not know is passed
over, whatever its value; a name of the table may not be given twice, and an
array may not be longer than the table.
-/
import ReadAhead.Json.Basic

set_option autoImplicit false

namespace ReadAhead.Config

open Text (Utf8.Spots)

/-- A field: its name, and how its value changes the record. -/
structure Field (σ : Type) where
  name : String
  set : Json → σ → Option σ

namespace Field

variable {σ : Type}

/-- A field whose value is read on its own and put in its place. -/
def of {α : Type} (name : String) (read : Json → Option α) (put : α → σ → σ) : Field σ :=
  { name, set := fun value record => (read value).map (put · record) }

/-- The field of a name. -/
def find? (fields : List (Field σ)) (name : String) : Option (Field σ) :=
  fields.find? (·.name == name)

end Field

section

variable {σ : Type}

/-- One member of an object: the record so far, and the names of fields met so far. -/
def setMember (fields : List (Field σ)) (state : σ × List String)
    (member : Utf8.Spots × Json) : Option (σ × List String) := do
  let name ← Json.string? member.1
  match Field.find? fields name with
  | none => return state
  | some field =>
    if state.2.contains name then none
    let record ← field.set member.2 state.1
    return (record, name :: state.2)

/-- The fields of an array, in the order of the table. -/
def setItems : List (Field σ) → List Json → σ → Option σ
  | _, [], record => some record
  | [], _ :: _, _ => none
  | field :: fields, item :: items, record => do
    let record ← field.set item record
    setItems fields items record

/-- Reads a record, starting from its defaults. -/
def readRecord (fields : List (Field σ)) (defaults : σ) : Json → Option σ
  | .object members => (members.foldlM (setMember fields) (defaults, [])).map Prod.fst
  | .array items => setItems fields items defaults
  | _ => none

end

end ReadAhead.Config
