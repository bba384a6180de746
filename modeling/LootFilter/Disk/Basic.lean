import LootFilter.Disk.Path

/-!
# Disks

A tree of folders and text files, and the working folder in which relative paths
start. It answers what a file system would: a path is followed name by name, and
the first name that leads nowhere decides what is wrong with it.

The tree is kept as a list of its entries, each with the names that lead to it
from the root. The root itself is always there. Its files hold texts. A file whose
bytes are no text cannot be on such a disk, so `DiskError.notText` is left to the
file system of a machine.

A write puts the whole text in place, or it fails before anything is changed. There
are no rights and no limits of space, so once the place of a file is found it can be
read and written.

## Main definitions

* `DiskError`: Why a file cannot be read or written.
* `Disk`: A tree with a working folder.
* `Disk.locate`: Where a path leads.
* `Disk.read`: The text of a file.
* `Disk.write`: The disk after a file has been written.
-/

namespace LootFilter

/-- Why a file cannot be read or written. -/
inductive DiskError where
  | notFound
  | notFolder
  | isFolder
  | nameTooLong
  /-- A path cannot contain the character zero. -/
  | zeroInPath
  /-- The bytes of the file are no text. -/
  | notText
  /-- Anything else, as the system describes it. -/
  | other (description : String)
  deriving DecidableEq

namespace DiskError

/-- The wording of an error. -/
def message : DiskError → String
  | .notFound => "No such file or directory (os error 2)"
  | .notFolder => "Not a directory (os error 20)"
  | .isFolder => "Is a directory (os error 21)"
  | .nameTooLong => "File name too long (os error 36)"
  | .zeroInPath => "file name contained an unexpected NUL byte"
  | .notText => "stream did not contain valid UTF-8"
  | .other description => description

end DiskError

/-- What a path can lead to. -/
inductive Entry where
  | file (text : String)
  | folder
  deriving DecidableEq

/-- A tree of folders and files. -/
structure Disk where
  /-- The entries below the root, each with the names that lead to it. -/
  entries : List (List String × Entry)
  /-- The names that lead to the working folder. -/
  workingFolder : List String

/-- Where a path leads: to a folder that is there, or to a name in one. -/
inductive Location where
  | folder (names : List String)
  /-- The name may or may not be there. A slash behind it asks for a folder. -/
  | entry (names : List String) (name : String) (slash : Bool)
  deriving DecidableEq

namespace Disk

/-- What some names lead to from the root. -/
def entry? (d : Disk) : List String → Option Entry
  | [] => some .folder
  | names => (d.entries.find? (·.1 == names)).map Prod.snd

/-- The name is longer than a folder can hold. -/
def isTooLong (name : String) : Bool :=
  255 < name.utf8ByteSize

/-- Goes into a folder. -/
def enter (d : Disk) (names : List String) (name : String) : Except DiskError (List String) :=
  if isTooLong name then .error .nameTooLong
  else
    match d.entry? (names ++ [name]) with
    | some .folder => .ok (names ++ [name])
    | some (.file _) => .error .notFolder
    | none => .error .notFound

/-- Follows names from a folder. A dot stays, two dots go up, and at the root
    they stay as well. -/
def follow (d : Disk) (slash : Bool) : List String → List String → Except DiskError Location
  | folder, [] => .ok (.folder folder)
  | folder, "." :: rest => d.follow slash folder rest
  | folder, ".." :: rest => d.follow slash folder.dropLast rest
  | folder, [name] => .ok (.entry folder name slash)
  | folder, name :: rest => do
    let inner ← d.enter folder name
    d.follow slash inner rest

/-- Where a path leads. -/
def locate (d : Disk) (path : String) : Except DiskError Location :=
  if path.toList.contains '\x00' then .error .zeroInPath
  else if path.isEmpty then .error .notFound
  else if 4095 < path.utf8ByteSize then .error .nameTooLong
  else
    let start := if Path.isAbsolute path then [] else d.workingFolder
    d.follow (path.toList.getLast? = some '/') start (Path.names path)

/-- The text of a file. -/
def read (d : Disk) (path : String) : Except DiskError String := do
  match ← d.locate path with
  | .folder _ => throw .isFolder
  | .entry names name slash =>
    if isTooLong name then throw .nameTooLong
    match d.entry? (names ++ [name]) with
    | none => throw .notFound
    | some .folder => throw .isFolder
    | some (.file text) => if slash then throw .notFolder else return text

/-- The disk with an entry in place. -/
def put (d : Disk) (names : List String) (e : Entry) : Disk :=
  { d with entries := (names, e) :: d.entries.filter (·.1 != names) }

/-- The disk after a text has been written to a file, which need not be there
    yet. -/
def write (d : Disk) (path text : String) : Except DiskError Disk := do
  match ← d.locate path with
  | .folder _ => throw .isFolder
  | .entry names name slash =>
    if slash then throw .isFolder
    if isTooLong name then throw .nameTooLong
    match d.entry? (names ++ [name]) with
    | some .folder => throw .isFolder
    | _ => return d.put (names ++ [name]) (.file text)

/-! ## Building a disk -/

/-- A disk with nothing on it but the working folder. -/
def ofWorkingFolder (names : List String) : Disk :=
  ⟨(List.range names.length).map fun i => (names.take (i + 1), .folder), names⟩

/-- The disk with a folder and all folders above it. -/
def putFolder (d : Disk) (names : List String) : Disk :=
  (List.range names.length).foldl (fun d i => d.put (names.take (i + 1)) .folder) d

/-- The disk with a file, given by a path from the working folder, and with the
    folders that lead to it; without a text it is a folder. -/
def add (d : Disk) (path : String) (text? : Option String) : Disk :=
  let names := d.workingFolder ++ Path.names path
  match text? with
  | some text => (d.putFolder names.dropLast).put names (.file text)
  | none => d.putFolder names

end Disk

end LootFilter
