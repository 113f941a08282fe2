import StagedQuery.Value.Compare

/-!
# Rows

A row gives each of its labels one value and keeps the order in which labels were first given. A
label is the name of a column: text in every table that a statement builds, any value in a table
read from a document.

## Main definitions

* `Row` — a row as a list of labelled values.
* `Row.find?`, `Row.get` — the value at a label; a label that is missing reads as `null`.
* `Row.put`, `Row.override`, `Row.ofPairs` — a row with one value or several values replaced, and
  the row of a list of labelled values, in which the last value of a label wins.
-/

namespace StagedQuery

/-- A row: labelled values in the order of their labels. -/
abbrev Row := List (Value × Value)

namespace Row

/-- The value at a label. -/
def find? (row : Row) (label : Value) : Option Value :=
  (List.find? (fun entry => entry.1.same label) row).map (·.2)

/-- The value at a label, `null` where the row lacks it. -/
def get (row : Row) (label : Value) : Value := (row.find? label).getD .null

/-- The row with a value at a label: in the place of the value that it replaces, else at the
end. -/
def put : Row → Value → Value → Row
  | [], label, value => [(label, value)]
  | (key, old) :: rest, label, value =>
    if key.same label then (key, value) :: rest else (key, old) :: put rest label value

/-- The row with the values of another row put into it in turn. -/
def override (row changes : Row) : Row :=
  changes.foldl (fun r entry => r.put entry.1 entry.2) row

/-- The row of a list of labelled values. -/
def ofPairs (pairs : List (Value × Value)) : Row := override [] pairs

/-- The inspected form of a row. -/
def inspect (row : Row) : String :=
  "\x7b" ++ Value.commaJoin (row.map fun e => e.1.inspect ++ ": " ++ e.2.inspect) ++ "\x7d"

end Row

end StagedQuery
