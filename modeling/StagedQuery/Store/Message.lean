import StagedQuery.Number.Decimal

/-!
# Messages about rows

## Main definitions

* `rowCount` — a number of rows.
* `changeMessage` — what was done to how many rows.
-/

namespace StagedQuery

/-- A number of rows. -/
def rowCount (n : Int) : String := intText n ++ (if n = 1 then " row" else " rows")

/-- What was done to how many rows, and into which table. -/
def changeMessage (n : Int) (verb : String) (table : Option String) : String :=
  rowCount n ++ " " ++ verb ++ (match table with
    | some table => " into '" ++ table ++ "'"
    | none => "")

end StagedQuery
