import StagedQuery.Sql.Statement
import StagedQuery.Table.Basic

/-!
# Selections

A selection holds the rows of a `SELECT` while it is answered, and how far the answer has come.
Five operators may follow the scan of the table: filter, order, project, distinct and limit. An
operator takes a selection only if the statement asks for it and no operator of its own place or a
later one was applied before.

Values that compare in a circle, as the texts `9`, `10` and `1x` do, have no order. Rows with such
values stand as merging leaves them; which order that is, is a choice of this library.

## Main definitions

* `Phase` — how far the answer has come.
* `Selection` — the rows, the labels of the columns to show, the statement and the phase.
* `filterRows`, `sortRows`, `projectRows`, `distinctRows`, `pageRows` — the operators on rows.
* `Operator` — the operators; `Operator.accepts` says when one is next, `Operator.apply` applies it.
-/

namespace StagedQuery

/-! ## Phases -/

/-- How far the answer to a `SELECT` has come: the last operator that was applied. -/
inductive Phase where
  | scanned
  | filtered
  | ordered
  | projected
  | distinct
  | limited
deriving DecidableEq

namespace Phase

/-- The place of a phase in the order of operators. -/
def rank : Phase → Nat
  | scanned => 1
  | filtered => 2
  | ordered => 3
  | projected => 4
  | distinct => 5
  | limited => 6

/-- The name of a phase. -/
def name : Phase → String
  | scanned => "SCANNED"
  | filtered => "FILTERED"
  | ordered => "ORDERED"
  | projected => "PROJECTED"
  | distinct => "DISTINCT"
  | limited => "LIMITED"

/-- The name of a phase where selections are labelled. -/
def label : Phase → String
  | scanned => "scanned"
  | filtered => "filtered"
  | ordered => "ordered"
  | projected => "projected"
  | distinct => "distinct"
  | limited => "limited"

/-- The inspected form of a phase. -/
def inspect (p : Phase) : String := "<Phase." ++ p.name ++ ": " ++ p.rank.repr ++ ">"

end Phase

/-! ## Operators on rows -/

/-- The rows that meet a condition. -/
def filterRows (condition : Option Predicate) (rows : List Row) : List Row :=
  rows.filter (Table.meets condition)

/-- Whether a row may stand before another in the order of a column. -/
def rowLe (column : String) (descending : Bool) (a b : Row) : Bool :=
  let order := (a.get (.text column)).compare (b.get (.text column))
  if descending then order != .lt else order != .gt

/-- The rows in the order of a column. Rows with equal values keep their order, and rows without a
value come last, in both directions. -/
def sortRows (rows : List Row) (column : String) (descending : Bool) : List Row :=
  let lacks := fun row : Row => (row.get (.text column)).isNull
  (rows.filter (!lacks ·)).mergeSort (rowLe column descending) ++ rows.filter lacks

/-- The rows with the values of some columns only. -/
def projectRows (labels : List Value) (rows : List Row) : List Row :=
  rows.map fun row => Row.ofPairs (labels.map fun label => (label, row.get label))

/-- The values of a row in some columns. -/
def signature (labels : List Value) (row : Row) : List Value := labels.map row.get

/-- The rows whose signature is none of those `seen` and not that of an earlier row. -/
def distinctFrom (labels : List Value) (seen : List (List Value)) : List Row → List Row
  | [] => []
  | row :: rest =>
    let values := signature labels row
    if seen.any (Value.sameAll · values) then distinctFrom labels seen rest
    else row :: distinctFrom labels (values :: seen) rest

/-- The first row of each signature. It is a fault if a value in a signature cannot be a key. -/
def distinctRows (labels : List Value) (rows : List Row) : Except Fault (List Row) :=
  match rows.findSome? fun row => (signature labels row).findSome? Value.unhashable? with
  | some kind => .error (.unhashable kind)
  | none => .ok (distinctFrom labels [] rows)

/-- At most `limit` rows after the first `offset` rows. -/
def pageRows (offset limit : Option Nat) (rows : List Row) : List Row :=
  let rest := rows.drop (offset.getD 0)
  match limit with
  | some n => rest.take n
  | none => rest

/-! ## Selections -/

/-- The rows of a `SELECT` while it is answered. -/
structure Selection where
  rows : List Row
  labels : List Value
  select : Select
  phase : Phase

/-- The inspected form of a selection. -/
def Selection.inspect (s : Selection) : String :=
  Value.recordText "RowSet"
    [("rows", Value.parenthesized (s.rows.map Row.inspect)),
      ("columns", Value.parenthesized (s.labels.map Value.inspect)),
      ("select", s.select.inspect), ("phase", s.phase.inspect)]

/-- The operators that may follow a scan. -/
inductive Operator where
  | filter
  | order
  | project
  | distinct
  | limit
deriving DecidableEq

namespace Operator

/-- The operators in the order of their application. -/
def all : List Operator := [filter, order, project, distinct, limit]

/-- The phase that an operator leads to. -/
def phase : Operator → Phase
  | filter => .filtered
  | order => .ordered
  | project => .projected
  | distinct => .distinct
  | limit => .limited

/-- Whether a statement asks for an operator. -/
def asked (op : Operator) (s : Select) : Bool :=
  match op with
  | filter => s.condition.isSome
  | order => s.orderBy.isSome
  | project => !s.selectsAll
  | distinct => s.distinct
  | limit => s.limit.isSome || s.offset.isSome

/-- Whether an operator is still to be applied to a selection. -/
def accepts (op : Operator) (s : Selection) : Bool :=
  decide (s.phase.rank < op.phase.rank) && op.asked s.select

/-- The rows after an operator; a clause that the statement lacks changes nothing. -/
def rowsOf (op : Operator) (s : Selection) : Except Fault (List Row) :=
  match op with
  | filter => .ok (filterRows s.select.condition s.rows)
  | order =>
    match s.select.orderBy with
    | some o => .ok (sortRows s.rows o.column o.descending)
    | none => .ok s.rows
  | project => .ok (projectRows s.labels s.rows)
  | distinct => distinctRows s.labels s.rows
  | limit => .ok (pageRows s.select.offset s.select.limit s.rows)

/-- The selection after an operator. -/
def apply (op : Operator) (s : Selection) : Except Fault Selection :=
  (op.rowsOf s).map fun rows => ⟨rows, s.labels, s.select, op.phase⟩

end Operator

end StagedQuery
