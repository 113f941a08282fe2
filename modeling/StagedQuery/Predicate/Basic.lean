import StagedQuery.Value.Compare

/-!
# Conditions on rows

The condition of a `WHERE` clause: a tree whose leaves each test one column, joined by `AND` and
`OR`.

## Main definitions

* `Relation` — the comparison signs.
* `Test` — what a leaf asks of the value in its column.
* `Predicate` — the trees.
* `Test.ofParts`, `Predicate.join` — a leaf from an operator name and an operand, and a branch
  from a combinator name; both refuse what has no meaning.
* `Predicate.text` — the written form; every branch is in parentheses.
* `Predicate.columns` — the columns that a condition refers to, in the order of first mention.
-/

namespace StagedQuery

/-- The comparison signs. There are two for "differs". -/
inductive Relation where
  | equal
  | differs
  | unequal
  | less
  | greater
  | atMost
  | atLeast
deriving DecidableEq

namespace Relation

/-- The sign as written. -/
def text : Relation → String
  | equal => "="
  | differs => "!="
  | unequal => "<>"
  | less => "<"
  | greater => ">"
  | atMost => "<="
  | atLeast => ">="

/-- All comparison signs. -/
def all : List Relation := [equal, differs, unequal, less, greater, atMost, atLeast]

/-- The comparison sign with a written form. -/
def ofText? (s : String) : Option Relation := all.find? (·.text == s)

end Relation

/-- What a leaf asks of the value in its column. The two tests for `null` take no operand; one
that was supplied all the same is kept and ignored. -/
inductive Test where
  | isNull (operand : Value)
  | isNotNull (operand : Value)
  | between (low high : Value)
  | oneOf (choices : List Value)
  | like (pattern : Value)
  | compare (relation : Relation) (operand : Value)
deriving Inhabited

/-- A condition on rows. -/
inductive Predicate where
  | leaf (column : String) (test : Test)
  | and (left right : Predicate)
  | or (left right : Predicate)
deriving Inhabited

/-- Why parts do not make up a condition. -/
inductive ShapeError where
  | unknownOperator (operator : String)
  | rangeRequired
  | tupleRequired
  | unknownCombinator (combinator : String)
deriving DecidableEq

/-- The message of a shape error. -/
def ShapeError.message : ShapeError → String
  | unknownOperator operator => "Unknown comparison operator: " ++ operator
  | rangeRequired => "BETWEEN requires a Range operand"
  | tupleRequired => "IN requires a tuple operand"
  | unknownCombinator combinator => "Unknown combinator: " ++ combinator

namespace Test

/-- The name of the operator. -/
def operator : Test → String
  | isNull _ => "IS NULL"
  | isNotNull _ => "IS NOT NULL"
  | between _ _ => "BETWEEN"
  | oneOf _ => "IN"
  | like _ => "LIKE"
  | compare relation _ => relation.text

/-- The operand as one value: a range for `BETWEEN`, a tuple for `IN`. -/
def operand : Test → Value
  | isNull operand => operand
  | isNotNull operand => operand
  | between low high => .range low high
  | oneOf choices => .tuple choices
  | like pattern => pattern
  | compare _ operand => operand

/-- The test of an operator name and an operand of the shape that the operator requires. -/
def ofParts (operator : String) (operand : Value) : Except ShapeError Test :=
  if operator = "IS NULL" then .ok (.isNull operand)
  else if operator = "IS NOT NULL" then .ok (.isNotNull operand)
  else if operator = "BETWEEN" then
    match operand with
    | .range low high => .ok (.between low high)
    | _ => .error .rangeRequired
  else if operator = "IN" then
    match operand with
    | .tuple choices => .ok (.oneOf choices)
    | _ => .error .tupleRequired
  else if operator = "LIKE" then .ok (.like operand)
  else match Relation.ofText? operator with
    | some relation => .ok (.compare relation operand)
    | none => .error (.unknownOperator operator)

/-- The written form of a test, after the column. -/
def text : Test → String
  | between low high => "BETWEEN " ++ low.literal ++ " AND " ++ high.literal
  | oneOf choices => "IN (" ++ Value.commaJoin (choices.map Value.literal) ++ ")"
  | like pattern => "LIKE " ++ pattern.literal
  | compare relation operand => relation.text ++ " " ++ operand.literal
  | isNull _ => "IS NULL"
  | isNotNull _ => "IS NOT NULL"

end Test

namespace Predicate

/-- The branch of a combinator name. -/
def join (combinator : String) (left right : Predicate) : Except ShapeError Predicate :=
  if combinator = "AND" then .ok (.and left right)
  else if combinator = "OR" then .ok (.or left right)
  else .error (.unknownCombinator combinator)

/-- The written form of a condition. -/
def text : Predicate → String
  | leaf column test => column ++ " " ++ test.text
  | and left right => "(" ++ left.text ++ " AND " ++ right.text ++ ")"
  | or left right => "(" ++ left.text ++ " OR " ++ right.text ++ ")"

/-- The columns of the leaves, from left to right. -/
def mentions : Predicate → List String
  | leaf column _ => [column]
  | and left right => left.mentions ++ right.mentions
  | or left right => left.mentions ++ right.mentions

/-- The columns that a condition refers to, in the order of first mention. -/
def columns (p : Predicate) : List String := p.mentions.eraseDups

/-- The inspected form of a condition. -/
def inspect : Predicate → String
  | leaf column test =>
    Value.recordText "Comparison" [("column", Quoted.encode column),
      ("op", Quoted.encode test.operator), ("operand", test.operand.inspect)]
  | and left right => branch left.inspect "AND" right.inspect
  | or left right => branch left.inspect "OR" right.inspect
where
  /-- The inspected form of a branch. -/
  branch (left combinator right : String) : String :=
    Value.recordText "Logical" [("left", left), ("combinator", Quoted.encode combinator),
      ("right", right)]

end Predicate

/-- The columns of a condition that may be absent. -/
def Predicate.namedColumns (p : Option Predicate) : List String :=
  match p with
  | some p => p.columns
  | none => []

end StagedQuery
