import StagedQuery.Error

/-!
# Paths

A path is read once into its parts. Empty parts and single dots are dropped; two dots stay, since a
folder may be reached in several ways. Exactly two slashes at the front are kept apart from one
slash, and three or more count as one.

## Main definitions

* `DiskPath` — a path as its root and its parts.
* `DiskPath.ofText`, `DiskPath.text` — the path that a text names, and its normal written form.
* `DiskPath.withSuffix`, `DiskPath.resolve` — the path of a database file.
-/

namespace StagedQuery

/-- Where a path starts: in the working folder, or at a root of one or two slashes. -/
inductive Root where
  | relative
  | single
  | double
deriving DecidableEq, Inhabited

/-- The written form of a root. -/
def Root.text : Root → String
  | relative => ""
  | single => "/"
  | double => "//"

/-- A path: its root, and the names from there on. -/
structure DiskPath where
  root : Root
  parts : List String
deriving DecidableEq, Inhabited

namespace DiskPath

/-- The root that a text begins with. -/
def rootOf (cs : List Char) : Root :=
  match (cs.takeWhile (· == '/')).length with
  | 0 => .relative
  | 2 => .double
  | _ => .single

/-- The path that a text names. -/
def ofText (s : String) : DiskPath :=
  ⟨rootOf s.toList,
    ((s.toList.splitOn '/').map String.ofList).filter fun part => part != "" && part != "."⟩

/-- The working folder. -/
def here : DiskPath := ⟨.relative, []⟩

/-- The normal written form of a path. -/
def text (p : DiskPath) : String :=
  if p.root = .relative ∧ p.parts = [] then "."
  else p.root.text ++ String.intercalate "/" p.parts

/-- Whether a path starts at a root. -/
def isAbsolute (p : DiskPath) : Bool := p.root != .relative

/-- The final name of a path. -/
def name? (p : DiskPath) : Option String := p.parts.getLast?

/-- A path taken from a folder: itself if it is absolute. -/
def under (p base : DiskPath) : DiskPath :=
  if p.isAbsolute then p else ⟨base.root, base.parts ++ p.parts⟩

/-! ## Database files -/

/-- The end of the name of every database file. -/
def fileSuffix : String := ".stagedb"

/-- Whether a name ends as those of database files do. -/
def hasSuffix (name : String) : Bool := fileSuffix.toList.isSuffixOf name.toList

/-- The path with the suffix of database files added to its final name if that lacks it. It is a
fault if there is no final name. -/
def withSuffix (p : DiskPath) : Except Fault DiskPath :=
  match p.name? with
  | none => .error (.namelessPath p.text)
  | some name =>
    if hasSuffix name then .ok p
    else .ok ⟨p.root, p.parts.dropLast ++ [name ++ fileSuffix]⟩

/-- The path of a database file, taken from a folder if one is given. -/
def resolve (p : DiskPath) (base : Option DiskPath) : Except Fault DiskPath :=
  p.withSuffix.map fun file =>
    match base with
    | some base => file.under base
    | none => file

end DiskPath

end StagedQuery
