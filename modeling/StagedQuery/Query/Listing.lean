import StagedQuery.Error
import StagedQuery.Row
import StagedQuery.Store.Message

/-!
# Listings

The text of the answer to a `SELECT`: the number of rows, a blank line, the labels of the columns, a
rule, and one line per row, with tabs between columns.

## Main definitions

* `cellText` — the text of a value in a listing.
* `listing` — the text of rows under labels.
-/

namespace StagedQuery

/-- The text of a value in a listing. -/
def cellText (v : Value) : String := if v.isNull then "NULL" else v.display

/-- The text of a label in a listing; it is a fault if the label is not text. -/
def labelText : Value → Except Fault String
  | .text s => .ok s
  | label => .error (.labelNotText label)

/-- The line of a row. -/
def rowLine (labels : List Value) (row : Row) : String :=
  String.intercalate "\t" (labels.map fun label => cellText (row.get label))

/-- The rule under a header: three dashes per column more than the header is wide. -/
def ruleLine (header : String) (columns : Nat) : String :=
  String.ofList (List.replicate (header.length + 3 * columns) '-')

/-- The text of rows under labels. -/
def listing (labels : List Value) (rows : List Row) : Except Fault String :=
  if rows.isEmpty then .ok "0 rows returned"
  else do
    let header := String.intercalate "\t" (← labels.mapM labelText)
    return String.intercalate "\n"
      ((rowCount rows.length ++ " returned") :: "" :: header :: ruleLine header labels.length
        :: rows.map (rowLine labels))

end StagedQuery
