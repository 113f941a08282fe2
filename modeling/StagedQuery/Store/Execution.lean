import StagedQuery.Store.Basic
import StagedQuery.Store.Message
import StagedQuery.Sql.Statement

/-!
# Execution of statements on a store

What the statements that define and change tables do. Each leaves a store, with a message or with
the failure that ended it. All but `INSERT` make their change as a whole; an `INSERT` stores its
rows one after the other, so a row that is refused would leave those before it in the table.

## Main definitions

* `Effect` — the store that a statement leaves, and its message or the failure.
* `Effect.ofChange` — the effect of a change that is made as a whole or not at all.
* `CreateTable.execute`, `DropTable.execute`, `Insert.execute`, `Update.execute`,
  `Delete.execute` — the statements.
* `Insert.rowsFor`, `Insert.prepare` — the rows that an `INSERT` adds to a table.
-/

namespace StagedQuery

/-- What a statement leaves: a store, and its message or the failure that ended it. -/
structure Effect where
  store : Store
  result : Except Failure String

/-- The effect of a change that is made as a whole, or not at all if it fails. -/
def Effect.ofChange (before : Store) (change : Except Failure (Store × String)) : Effect :=
  match change with
  | .ok (after, message) => ⟨after, .ok message⟩
  | .error e => ⟨before, .error e⟩

/-! ## Definition of tables -/

/-- `CREATE TABLE`. -/
def CreateTable.execute (s : CreateTable) (store : Store) : Effect :=
  if store.has s.table && s.ifNotExists then
    ⟨store, .ok ("Table '" ++ s.table ++ "' already exists (skipped)")⟩
  else .ofChange store ((store.create ⟨s.table, s.columns⟩).map fun after =>
    (after, "Table '" ++ s.table ++ "' created"))

/-- `DROP TABLE`. -/
def DropTable.execute (s : DropTable) (store : Store) : Effect :=
  if !store.has s.table && s.ifExists then
    ⟨store, .ok ("Table '" ++ s.table ++ "' does not exist (skipped)")⟩
  else .ofChange store ((store.drop s.table).map fun after =>
    (after, "Table '" ++ s.table ++ "' dropped"))

/-! ## Insertion -/

namespace Insert

/-- The names of a column list as labels. -/
def labels (names : List String) : List Value := names.map Value.text

/-- A column list names columns of the schema, each once. -/
def checkColumns (schema : Schema) (names : List String) : Except Failure Unit := do
  schema.require (labels names)
  if names.eraseDups.length = names.length then return ()
  else throw (.statement .repeatedInsertColumn)

/-- The error of a list of values whose length does not fit. -/
def lengthError (schema : Schema) (names : Option (List String)) (row : Option Nat)
    (values : Nat) : StatementError :=
  match names with
  | some names => .listLength row names.length values
  | none => .schemaLength row schema.name schema.columns.length values

/-- The labels that values are for: those of the column list, else those of the schema. -/
def targets (schema : Schema) (names : Option (List String)) : List Value :=
  match names with
  | some names => labels names
  | none => schema.labels

/-- The row of a list of values; `row` is its number where there are several. -/
def rowFor (schema : Schema) (names : Option (List String)) (row : Option Nat)
    (values : List Value) : Except Failure Row := do
  let targets := targets schema names
  if values.length ≠ targets.length then
    throw (.statement (lengthError schema names row values.length))
  let complete ← schema.complete (Row.ofPairs (targets.zip values))
  schema.checkPresence complete
  return complete

/-- The rows of several lists of values, which are numbered from `next` if `numbered`. -/
def rowsFrom (schema : Schema) (names : Option (List String)) (numbered : Bool) (next : Nat) :
    List (List Value) → Except Failure (List Row)
  | [] => .ok []
  | values :: rest => do
    let row ← rowFor schema names (if numbered then some next else none) values
    let rows ← rowsFrom schema names numbered (next + 1) rest
    return row :: rows

/-- The rows that an `INSERT` adds to a table. -/
def rowsFor (s : Insert) (schema : Schema) : Except Failure (List Row) := do
  match s.columns with
  | some names => checkColumns schema names
  | none => pure ()
  rowsFrom schema s.columns (1 < s.rows.length) 1 s.rows

/-- The rows that an `INSERT` adds to its table, built and checked. -/
def prepare (s : Insert) (store : Store) : Except Failure (List Row) := do
  let table ← store.get s.table
  s.rowsFor table.schema

/-- `INSERT`. All rows are built and checked before the first is stored; then they are stored one by
one, and the table checks each of them again. -/
def execute (s : Insert) (store : Store) : Effect :=
  match s.prepare store with
  | .error e => ⟨store, .error e⟩
  | .ok rows =>
    let (after, stored) := store.insertAll s.table rows
    ⟨after, stored.map fun _ => changeMessage rows.length "inserted" (some s.table)⟩

end Insert

/-! ## Update and deletion -/

/-- The changes of an `UPDATE`: one value per column, the last where a column is repeated. -/
def Update.changes (s : Update) : Row := Row.ofPairs (s.assignments.map fun a => (.text a.1, a.2))

/-- No change puts `null` where a value is required. -/
def Update.checkChanges (schema : Schema) (changes : Row) : Except Failure Unit :=
  match List.find? (fun change : Value × Value =>
      change.2.isNull && ((schema.column? change.1).map (·.presence.isRequired)).getD false)
      changes with
  | some change => .error (.constraint (.missingValue change.1))
  | none => .ok ()

/-- `UPDATE`. -/
def Update.execute (s : Update) (store : Store) : Effect := .ofChange store do
  let table ← store.get s.table
  table.schema.require (s.changes.map (·.1))
  table.schema.require ((Predicate.namedColumns s.condition).map .text)
  checkChanges table.schema s.changes
  let (after, count) ← store.update s.table s.changes s.condition
  return (after, changeMessage count "updated" none)

/-- `DELETE`. -/
def Delete.execute (s : Delete) (store : Store) : Effect := .ofChange store do
  let table ← store.get s.table
  table.schema.require ((Predicate.namedColumns s.condition).map .text)
  let (after, count) ← store.delete s.table s.condition
  return (after, changeMessage count "deleted" none)

end StagedQuery
