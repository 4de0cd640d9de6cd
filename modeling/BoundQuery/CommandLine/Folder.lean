import BoundQuery.Dictionary
import BoundQuery.Text.Cut

/-!
# A folder of files

The files that a command can see may be given beforehand, by their paths from the folder where it
runs. A path is followed name by name: an empty name and a single dot stay in the folder, and two
dots leave it. Of what lies outside the folder nothing is known but that it is there.

## Main definitions

* `FileFault`, why a file cannot be read
* `Folder`, the files of a folder
* `Folder.read`, the content of the file at a path
-/

namespace BoundQuery

/-- Why a file cannot be read. -/
inductive FileFault where
  | missing
  | notFolder
  | isFolder
  | nameTooLong
  /-- No path holds the character with the code zero. -/
  | invalidName
  deriving DecidableEq

/-- The words for a fault. -/
def FileFault.message : FileFault → String
  | .missing => "No such file or directory (os error 2)"
  | .notFolder => "Not a directory (os error 20)"
  | .isFolder => "Is a directory (os error 21)"
  | .nameTooLong => "File name too long (os error 36)"
  | .invalidName => "file name contained an unexpected NUL byte"

/-- The names that a path consists of. -/
def pathNames (path : String) : List String :=
  Text.splitAll '/' path

/-- A name that stays in its folder. -/
def staysInPlace (name : String) : Bool :=
  name.isEmpty || name == "."

/-- The files of a folder, each with the names of its path and its content. -/
structure Folder where
  files : List (List String × String)

namespace Folder

/-- The folder with files of the given paths. -/
def ofDictionary (d : Dictionary String) : Folder :=
  ⟨d.entries.map fun (path, text) =>
    ((pathNames path).filter (fun n => !staysInPlace n), text)⟩

/-- Where a path leads. -/
inductive Place where
  /-- A folder inside, by the names that lead to it, the last one first. -/
  | inside (names : List String)
  /-- A folder around. -/
  | around
  | file (text : String)

/-- A name has 255 bytes at most. -/
def nameLimit : Nat := 255

/-- A path has 4095 bytes at most. -/
def pathLimit : Nat := 4095

/-- The place that a name leads to from a folder inside. -/
def enter (f : Folder) (names : List String) (name : String) : Except FileFault Place :=
  let path := (name :: names).reverse
  match f.files.find? fun e => e.1 == path with
  | some (_, text) => .ok (.file text)
  | none =>
    if f.files.any fun e => path.isPrefixOf e.1 then .ok (.inside (name :: names))
    else .error .missing

/-- One more name of a path. -/
def step (f : Folder) (place : Place) (name : String) : Except FileFault Place :=
  match place with
  | .file _ => .error .notFolder
  | .inside names =>
    if staysInPlace name then .ok place
    else if name == ".." then
      match names with
      | [] => .ok .around
      | _ :: outer => .ok (.inside outer)
    else if nameLimit < name.utf8ByteSize then .error .nameTooLong
    else f.enter names name
  | .around =>
    if staysInPlace name || name == ".." then .ok place
    else if nameLimit < name.utf8ByteSize then .error .nameTooLong
    else .error .missing

/-- The content of the file at a path. -/
def read (f : Folder) (path : String) : Except FileFault String := do
  if path.toList.any (·.toNat == 0) then throw .invalidName
  if path.isEmpty then throw .missing
  if pathLimit < path.utf8ByteSize then throw .nameTooLong
  let start : Place := if path.toList.head? == some '/' then .around else .inside []
  match ← (pathNames path).foldlM f.step start with
  | .file text => return text
  | _ => throw .isFolder

end Folder

end BoundQuery
