import StagedQuery.Document.Basic
import StagedQuery.Document.Writer
import StagedQuery.Store.Basic
import StagedQuery.Text.CaseMap

/-!
# Snapshots

A store as a document, and the store that a document describes. Fields that a document lacks have
defaults, and what a document has beyond the format is left out.

## Main definitions

* `Store.toDocument` — the snapshot of a store.
* `Store.ofDocument` — the store that a document describes, or why it describes none.
-/

namespace StagedQuery

/-- The version of the format. -/
def formatVersion : Int := 1

/-! ## Writing -/

namespace Snapshot

/-- A label as the key of a field: text as it is, every other scalar as a document. -/
def keyText? : Value → Option String
  | .text s => some s
  | .null => some (Document.null.write .oneLine)
  | .bool b => some ((Document.bool b).write .oneLine)
  | .int n => some ((Document.int n).write .oneLine)
  | .float x => some ((Document.float x).write .oneLine)
  | _ => none

/-- A column as a document. -/
def ofColumn (c : Column) : Option Document := do
  let label ← c.label.toDocument?
  let fallback ← c.defaultValue.toDocument?
  return .object [("name", label), ("type", .text c.typeName),
    ("primary_key", .bool c.presence.isPrimary), ("not_null", .bool c.presence.isRequired),
    ("default", fallback)]

/-- A cell with its label as a field. -/
def ofCell (cell : Value × Value) : Option (String × Document) := do
  let key ← keyText? cell.1
  let value ← cell.2.toDocument?
  return (key, value)

/-- A row as a document. -/
def ofRow (row : Row) : Option Document := do
  let fields ← row.mapM ofCell
  return .object fields

/-- A table with its name as a field. -/
def ofTable (t : Table) : Option (String × Document) := do
  let columns ← t.schema.columns.mapM ofColumn
  let rows ← t.rows.mapM ofRow
  return (t.schema.name, .object
    [("schema", .object [("name", .text t.schema.name), ("columns", .list columns)]),
      ("rows", .list rows)])

end Snapshot

/-- The snapshot of a store, with the time at which it was made; none if a value cannot be
stored. -/
def Store.toDocument (s : Store) (created : String) : Option Document := do
  let tables ← s.tables.mapM Snapshot.ofTable
  return .object [("version", .int formatVersion), ("created", .text created),
    ("tables", .object tables)]

/-! ## Reading -/

namespace Snapshot

/-- The name of the kind of a document. -/
def kindOf (d : Document) : String := d.toValue.kindName

/-- A field that must be there. -/
def requiredField (d : Document) (key : String) : Except ShapeMismatch Document :=
  match d with
  | .object fields =>
    match Document.field? fields key with
    | some value => .ok value
    | none => .error (.missingField key)
  | .list _ => .error .fieldOfList
  | .text _ => .error .fieldOfText
  | d => .error (.fieldOfScalar (kindOf d))

/-- The items of a document: of a list its items, of an object its keys, of a text its
characters. -/
def items (d : Document) : Except ShapeMismatch (List Document) :=
  match d with
  | .list items => .ok items
  | .object fields => .ok (fields.map fun field => .text field.1)
  | .text s => .ok (s.toList.map fun c => .text (String.singleton c))
  | d => .error (.noItems (kindOf d))

/-- A field of an object that need not be there. -/
def fieldOr (fields : List (String × Document)) (key : String) (fallback : Document) : Document :=
  (Document.field? fields key).getD fallback

/-- The column that a document describes. -/
def column (d : Document) : Except ShapeMismatch Column := do
  let label ← requiredField d "name"
  match d with
  | .object fields =>
    let flag := fun key => (fieldOr fields key (.bool false)).toValue.truthy
    return ⟨label.toValue, capitalize (fieldOr fields "type" (.text "TEXT")).toValue.display,
      .ofFlags (flag "primary_key") (flag "not_null"), (fieldOr fields "default" .null).toValue⟩
  | d => throw (.noMember (kindOf d) "get")

/-- The cell of a column in a row that a document describes. -/
def cell (d : Document) (c : Column) : Except ShapeMismatch (Value × Value) :=
  match d with
  | .object fields =>
    match c.label with
    | .text key => .ok (c.label, ((Document.field? fields key).map Document.toValue).getD .null)
    | label =>
      match label.unhashable? with
      | some kind => .error (.unhashable kind)
      | none => .ok (label, .null)
  | d => .error (.noMember (kindOf d) "get")

/-- The row that a document describes, in the order of the columns. -/
def row (columns : List Column) (d : Document) : Except ShapeMismatch Row :=
  (columns.mapM (cell d)).map Row.ofPairs

/-- The table that a document describes, under a name. -/
def table (name : String) (d : Document) : Except ShapeMismatch Table := do
  let schema ← requiredField d "schema"
  let columns ← (← items (← requiredField schema "columns")).mapM column
  match d with
  | .object fields =>
    let rows ← (← items (fieldOr fields "rows" (.list []))).mapM (row columns)
    return ⟨⟨name, columns⟩, rows⟩
  | d => throw (.noMember (kindOf d) "get")

/-- The store with the tables that fields describe put into it in turn. -/
def addTables (s : Store) : List (String × Document) → Except ShapeMismatch Store
  | [] => .ok s
  | (name, d) :: rest => do
    let t ← table name d
    addTables (s.put t) rest

/-- The store whose tables a document describes. -/
def tables (d : Document) : Except ShapeMismatch Store :=
  match d with
  | .object fields => addTables .empty fields
  | d => .error (.noMember (kindOf d) "items")

end Snapshot

/-- The store that a document describes, or why it describes none. -/
def Store.ofDocument (d : Document) : Except FileError Store :=
  match d with
  | .object fields =>
    if ((Snapshot.fieldOr fields "version" .null).toValue).same (.int formatVersion) then
      (Snapshot.tables (Snapshot.fieldOr fields "tables" (.object []))).mapError .malformed
    else .error .unknownVersion
  | _ => .error .unknownVersion

end StagedQuery
