import StagedQuery.Error
import StagedQuery.Predicate.Evaluate
import StagedQuery.Table.Schema

/-!
# Tables

A table is a schema with rows. A schema is checked once, when its table is created; every row is
completed and checked before it is stored.

## Main definitions

* `Schema.check` — the rules that a schema must keep.
* `Schema.complete`, `Schema.checkPresence` — a row with the defaults of the schema filled in, and
  the rule that required columns have values.
* `Table` — a schema with rows.
* `Table.insert`, `Table.update`, `Table.delete` — the table with a row added, and with the rows
  that meet a condition changed or left out.
-/

namespace StagedQuery

/-- The types that a column can have. -/
def columnTypes : List String := ["INTEGER", "TEXT", "REAL", "BLOB"]

namespace Schema

/-! ## Rules of a schema -/

/-- Checks columns in order, after columns whose labels are `seen`: first that the label is new,
then that the type is supported. -/
def checkColumns (table : String) (seen : List Value) : List Column → Except Failure Unit
  | [] => .ok ()
  | c :: rest =>
    match c.label.unhashable? with
    | some kind => .error (.fault (.unhashable kind))
    | none =>
      if seen.any (·.same c.label) then .error (.statement (.repeatedColumn c.label table))
      else if columnTypes.contains c.typeName then checkColumns table (c.label :: seen) rest
      else .error (.statement (.unsupportedType c.typeName))

/-- The rules of a schema: there is a column, labels differ, types are supported, and at most one
column is the primary key. -/
def check (s : Schema) : Except Failure Unit :=
  if s.columns.isEmpty then .error (.statement (.noColumns s.name))
  else match checkColumns s.name [] s.columns with
    | .error e => .error e
    | .ok () =>
      if 1 < (s.columns.filter (·.presence.isPrimary)).length then
        .error (.constraint .severalPrimaryKeys)
      else .ok ()

/-- The first label in a list that names no column is an error. -/
def require (s : Schema) (labels : List Value) : Except Failure Unit :=
  match labels.find? fun label => !s.has label with
  | some label => .error (.statement (.noSuchColumn label s.name))
  | none => .ok ()

/-! ## Rules of a row -/

/-- The value of a column in a new row: the value given, else the default. -/
def cell (given : Row) (c : Column) : Value := (given.find? c.label).getD c.defaultValue

/-- The full row of the values given, in the order of the schema. -/
def complete (s : Schema) (given : Row) : Except Failure Row :=
  match s.labels.findSome? Value.unhashable? with
  | some kind => .error (.fault (.unhashable kind))
  | none => .ok (Row.ofPairs (s.columns.map fun c => (c.label, cell given c)))

/-- Every column that requires a value has one. -/
def checkPresence (s : Schema) (row : Row) : Except Failure Unit :=
  match s.columns.find? fun c => c.presence.isRequired && (row.get c.label).isNull with
  | some c => .error (.constraint (.missingValue c.label))
  | none => .ok ()

end Schema

/-! ## Tables -/

/-- A schema with rows in the order of their insertion. -/
structure Table where
  schema : Schema
  rows : List Row

namespace Table

/-- Whether a row meets a condition; no condition is met by every row. -/
def meets (condition : Option Predicate) (row : Row) : Bool :=
  match condition with
  | some p => p.holds row
  | none => true

/-- The table with a row added, and that row as it is stored. -/
def insert (t : Table) (given : Row) : Except Failure (Table × Row) := do
  t.schema.require (given.map (·.1))
  let row ← t.schema.complete given
  t.schema.checkPresence row
  return (⟨t.schema, t.rows ++ [row]⟩, row)

/-- A row with changes made to it if it meets a condition. -/
def updateRow (s : Schema) (changes : Row) (condition : Option Predicate) (row : Row) :
    Except Failure Row :=
  if meets condition row then
    (s.checkPresence (row.override changes)).map fun _ => row.override changes
  else .ok row

/-- The table with changes made to the rows that meet a condition, and the number of these. -/
def update (t : Table) (changes : Row) (condition : Option Predicate) :
    Except Failure (Table × Nat) := do
  let rows ← t.rows.mapM (updateRow t.schema changes condition)
  return (⟨t.schema, rows⟩, t.rows.countP (meets condition))

/-- The table without the rows that meet a condition, and the number of these. -/
def delete (t : Table) (condition : Option Predicate) : Table × Nat :=
  (⟨t.schema, t.rows.filter (!meets condition ·)⟩, t.rows.countP (meets condition))

end Table

end StagedQuery
