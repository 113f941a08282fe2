import StagedQuery.Document.Reader
import StagedQuery.Storage.Disk
import StagedQuery.Storage.Snapshot

/-!
# Database files

A database file holds the snapshot of a store as indented text.

## Main definitions

* `Disk.save` — the disk with a store saved at a path, and the path of the file.
* `Disk.load` — the store that is saved at a path.
* `Disk.sizeText` — the size of the file at a path in kilobytes.
-/

namespace StagedQuery

/-- The layout of a database file. -/
def fileLayout : Document.Layout := .indented 2

/-- The text of the database file of a store. -/
def Store.fileText (s : Store) (created : String) : Except Failure String :=
  match s.toDocument created with
  | some d => .ok (d.write fileLayout)
  | none => .error (.fault .notStorable)

namespace Disk

/-- The disk with a store saved at a path, and the path of the file. -/
def save (d : Disk) (s : Store) (created : String) (p : DiskPath) :
    Except Failure (Disk × DiskPath) := do
  let file ← p.withSuffix.mapError .fault
  let text ← s.fileText created
  if hasNull file then throw (.fault .nullCharacter)
  match d.write file text.toUTF8 with
  | some after => return (after, file)
  | none => throw (.file (.unwritable file.text))

/-- What is at the path of a file; there is no message for a path that is refused, so that is a
fault. -/
def findFile (d : Disk) (file : DiskPath) : Except Failure (Option DiskNode) :=
  (d.find file).mapError fun why => .fault (.refused why file.text)

/-- The document in a file. -/
def readDocument (d : Disk) (file : DiskPath) : Except Failure Document := do
  match ← d.findFile file with
  | none => throw (.file (.notFound file.text))
  | some (.file content) =>
    match (String.fromUTF8? content).bind Document.read? with
    | some document => return document
    | none => throw (.file (.unreadable file.text))
  | some _ => throw (.file (.unreadable file.text))

/-- The store that is saved at a path. -/
def load (d : Disk) (p : DiskPath) : Except Failure Store := do
  let file ← p.withSuffix.mapError .fault
  let document ← d.readDocument file
  (Store.ofDocument document).mapError .file

/-! ## Sizes -/

/-- The number of bytes of the file at a path. -/
def size (d : Disk) (p : DiskPath) : Nat :=
  match d.find p with
  | .ok (some (.file content)) => content.size
  | _ => 0

/-- A number of bytes in kilobytes, to two places, a half going to the even neighbour; the second
place is left out where it is zero. -/
def kilobytes (bytes : Nat) : String :=
  let hundredths := Binary64.roundDiv (100 * bytes) 1024
  let place := hundredths % 100
  (hundredths / 100).repr ++ "." ++
    (if place % 10 = 0 then (place / 10).repr else (place / 10).repr ++ (place % 10).repr)

/-- The size of the file at a path in kilobytes. -/
def sizeText (d : Disk) (p : DiskPath) : String := kilobytes (d.size p) ++ " KB"

end Disk

end StagedQuery
