import StagedQuery.Query.Selection
import StagedQuery.Store.Basic

/-!
# Scans

The scan of a table for a `SELECT`. Every column that the statement names is checked here, before
any operator is applied.

## Main definitions

* `Select.check` — the checks on the columns of a statement.
* `Select.scan` — the selection of all rows of the table.
-/

namespace StagedQuery.Select

/-- The columns that a statement names exist: those to show, then those of the condition, then the
column of the order. -/
def check (s : Select) (schema : Schema) : Except Failure Unit := do
  schema.require (s.columns.map .text)
  schema.require ((Predicate.namedColumns s.condition).map .text)
  match s.orderBy with
  | some o =>
    if schema.has (.text o.column) then return ()
    else throw (.statement (.noSuchOrderColumn o.column))
  | none => return ()

/-- The labels of the columns to show. -/
def labels (s : Select) (schema : Schema) : List Value :=
  if s.selectsAll then schema.labels else s.columns.map .text

/-- The selection of all rows of the table. -/
def scan (s : Select) (store : Store) : Except Failure Selection := do
  let table ← store.get s.table
  s.check table.schema
  return ⟨table.rows, s.labels table.schema, s, .scanned⟩

end StagedQuery.Select
