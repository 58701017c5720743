/-
The part of a file system that a local source can see: one folder with files in
it. A file is its contents under a number, and names point at numbers, so a file
that was opened can still be read after its name is gone, and what is written
under a name is seen by everybody who opened it.

Paths are resolved part by part, and every part but the last has to lead to a
folder. Relative paths start at a place about which nothing is known but that it
is a folder inside folders. A path that is too long leads nowhere, whatever it says.
-/
import ReadAhead.Bytes
import ReadAhead.Text.Parts

set_option autoImplicit false

namespace ReadAhead

/-- Number of a file. -/
abbrev FileId := Nat

/-- A folder with files. -/
structure Disk where
  /-- Names of the folders on the way to the folder, from the root. -/
  folder : List Bytes
  names : List (Bytes × FileId)
  /-- Contents of the files, by number. -/
  contents : List Bytes
  deriving DecidableEq, Repr

namespace Disk

/-- What a path leads to. -/
inductive Node where
  | folder
  | file (id : FileId)
  deriving DecidableEq, Repr

/-- A folder without files. -/
def new (folder : List Bytes) : Disk := { folder, names := [], contents := [] }

/-! ## Paths -/

/-- The path leads to the folder or to one around it. -/
def isFolder (d : Disk) (path : List Bytes) : Bool := path.isPrefixOf d.folder

/-- What stands at the end of a path without dots. -/
def node? (d : Disk) (path : List Bytes) : Option Node :=
  if d.isFolder path then some .folder
  else if path.dropLast = d.folder then
    (path.getLast?.bind (d.names.lookup ·)).map .file
  else none

/-- The part that stays where it is. -/
def dot : Bytes := [46]

/-- The part that goes back one folder. -/
def dotDot : Bytes := [46, 46]

/-- Follows the parts of a path from a place on. -/
def walk (d : Disk) (place : List Bytes) : List Bytes → Option Node
  | [] => d.node? place
  | part :: rest =>
    if !d.isFolder place then none
    else if part = [] ∨ part = dot then d.walk place rest
    else if part = dotDot then d.walk place.dropLast rest
    else d.walk (place ++ [part]) rest

/-- Slashes stand between the parts of a path. -/
def slash : UInt8 := 47

/-- Length that every path stays below. -/
def pathLimit : Nat := 4096

/-- What a path leads to. -/
def find? (d : Disk) (path : Bytes) : Option Node :=
  if path.contains 0 ∨ pathLimit ≤ path.length then none
  else match path with
    | [] => none
    | first :: rest =>
      if first = slash then d.walk [] (Text.splitOn (· == slash) rest)
      else
        let parts := Text.splitOn (· == slash) path
        if parts.all (fun part => part = [] ∨ part = dot ∨ part = dotDot) then some .folder
        else none

/-! ## Contents -/

/-- Contents of a file. -/
def bytes (d : Disk) (id : FileId) : Bytes := (d.contents[id]?).getD []

/-- The size that is reported of a folder. -/
def folderSize : Nat := 4096

/-- The size that is reported of a file or folder. -/
def size (d : Disk) : Node → Nat
  | .folder => folderSize
  | .file id => (d.bytes id).length

/-- Writes a file of the folder anew, in place if there is one of that name. -/
def write (d : Disk) (name bytes : Bytes) : Disk :=
  match d.names.lookup name with
  | some id => { d with contents := d.contents.set id bytes }
  | none =>
    { d with
      names := d.names ++ [(name, d.contents.length)]
      contents := d.contents ++ [bytes] }

/-- Cuts a file of the folder at a length, or extends it with zeros. -/
def truncate (d : Disk) (name : Bytes) (length : Nat) : Disk :=
  match d.names.lookup name with
  | some id =>
    let old := d.bytes id
    { d with
      contents := d.contents.set id (old.take length ++ List.replicate (length - old.length) 0) }
  | none => d

/-- Takes a name out of the folder. The file stays for those who opened it. -/
def delete (d : Disk) (name : Bytes) : Disk :=
  { d with names := d.names.filter (·.1 != name) }

end Disk

end ReadAhead
