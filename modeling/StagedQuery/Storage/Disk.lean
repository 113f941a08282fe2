import StagedQuery.Storage.DiskPath

/-!
# Disks

The part of a file system that database files are kept in: folders and files by their place, which
is the list of names from the root on.

A path is looked up name by name, and that can be refused: a path or a name can be too long, and in
some folders it is not allowed to look up names. Left out are symbolic links, a file that may not be
read or written or a folder in which no file may be created, a disk that is full, and the failure of
a device.

## Main definitions

* `Disk` — the working folder, and what is at which place.
* `Disk.lookUp` — the place that a name leads to from a place.
* `Disk.locate` — the place that a path names, if all folders on the way are there.
* `Disk.find`, `Disk.write` — what is at a path, and the disk with a file written.
* `Disk.mount` — the disk with something put at a path and with folders on the way.
-/

namespace StagedQuery

/-- What can be at a place: a file with its bytes, a folder, or a sealed folder, in which it is not
allowed to look up names. -/
inductive DiskNode where
  | file (content : ByteArray)
  | folder
  | sealed

/-- A file system: the place of the working folder, and what is at which place. -/
structure Disk where
  workingFolder : List String
  entries : List (List String × DiskNode)

namespace Disk

/-- The number of bytes that a name may have. -/
def nameLimit : Nat := 255

/-- The number of bytes that the text of a path may have. -/
def pathLimit : Nat := 4095

/-- What is at a place; at the root there is a folder. -/
def at? (d : Disk) (place : List String) : Option DiskNode :=
  if place.isEmpty then some .folder else (d.entries.find? (·.1 == place)).map (·.2)

/-- Whether names are looked up at a place, which is refused in a sealed folder. -/
def admits (d : Disk) (place : List String) : Except PathRefusal Bool :=
  match d.at? place with
  | some .folder => .ok true
  | some .sealed => .error .denied
  | _ => .ok false

/-- Whether there is a folder at a place, sealed or not. -/
def isFolder (d : Disk) (place : List String) : Bool :=
  match d.admits place with
  | .ok admitted => admitted
  | .error _ => true

/-- The place that a name leads to; two dots lead back. -/
def enter (place : List String) (name : String) : List String :=
  if name = ".." then place.dropLast else place ++ [name]

/-- The place that a name leads to from a place, none if there is no folder to look it up in. -/
def lookUp (d : Disk) (place : List String) (name : String) :
    Except PathRefusal (Option (List String)) := do
  if ← d.admits place then
    if nameLimit < name.utf8ByteSize then throw .tooLong else return some (enter place name)
  else return none

/-- The place that names lead to, if every place that is left on the way is a folder. -/
def walk (d : Disk) (place : List String) :
    List String → Except PathRefusal (Option (List String))
  | [] => .ok (some place)
  | name :: rest => do
    match ← d.lookUp place name with
    | some next => walk d next rest
    | none => return none

/-- Whether a path has a null character, which no file system admits. -/
def hasNull (p : DiskPath) : Bool := p.parts.any fun part => part.toList.contains (Char.ofNat 0)

/-- The place that a path starts from. -/
def origin (d : Disk) (p : DiskPath) : List String := if p.isAbsolute then [] else d.workingFolder

/-- The place that a path names, if all folders on the way are there. -/
def locate (d : Disk) (p : DiskPath) : Except PathRefusal (Option (List String)) :=
  if pathLimit < p.text.utf8ByteSize then .error .tooLong else d.walk (d.origin p) p.parts

/-- What is at a path. -/
def find (d : Disk) (p : DiskPath) : Except PathRefusal (Option DiskNode) :=
  if hasNull p then .ok none else (d.locate p).map (·.bind d.at?)

/-- Entries with something put at a place: instead of what was there, else at the end. -/
def putEntry (place : List String) (node : DiskNode) :
    List (List String × DiskNode) → List (List String × DiskNode)
  | [] => [(place, node)]
  | (key, old) :: rest =>
    if key = place then (key, node) :: rest else (key, old) :: putEntry place node rest

/-- The disk with something put at a place. -/
def put (d : Disk) (place : List String) (node : DiskNode) : Disk :=
  ⟨d.workingFolder, putEntry place node d.entries⟩

/-- The disk with something put where names lead to from a place, and with folders on the way. -/
def mountFrom (d : Disk) (place : List String) (node : DiskNode) : List String → Disk
  | [] => d.put place node
  | name :: rest =>
    mountFrom (if d.isFolder place then d else d.put place .folder) (enter place name) node rest

/-- The disk with something put at a path, and with folders on the way. -/
def mount (d : Disk) (p : DiskPath) (node : DiskNode) : Disk :=
  d.mountFrom (d.origin p) node p.parts

/-- The disk with a file written at a path; none if the path names no place or a folder, or if it
is refused. -/
def write (d : Disk) (p : DiskPath) (content : ByteArray) : Option Disk :=
  match d.locate p with
  | .ok (some place) =>
    if d.isFolder place then none else some (d.put place (.file content))
  | _ => none

end Disk

end StagedQuery
