import StagedQuery.Predicate.Basic
import StagedQuery.Predicate.Wildcard
import StagedQuery.Row

/-!
# Evaluation of conditions

Whether a row meets a condition. A column that the row lacks reads as `null`; `null` is equal to
nothing but `null`, and no order, range or pattern holds of it.

## Main definitions

* `Test.holds` — whether a value passes a test.
* `Predicate.holds` — whether a row meets a condition.
-/

namespace StagedQuery

/-- Whether two values stand in a relation. -/
def Relation.holds (relation : Relation) (left right : Value) : Bool :=
  match relation with
  | equal => left.equal right
  | differs => !left.equal right
  | unequal => !left.equal right
  | less => !left.isNull && !right.isNull && left.compare right == .lt
  | greater => !left.isNull && !right.isNull && left.compare right == .gt
  | atMost => !left.isNull && !right.isNull && left.compare right != .gt
  | atLeast => !left.isNull && !right.isNull && left.compare right != .lt

/-- Whether a value passes a test. -/
def Test.holds (test : Test) (value : Value) : Bool :=
  match test with
  | isNull _ => value.isNull
  | isNotNull _ => !value.isNull
  | between low high =>
    if value.isNull then false
    else if low.isNull || high.isNull then false
    else value.compare low != .lt && value.compare high != .gt
  | oneOf choices => choices.any (value.equal ·)
  | like pattern =>
    !value.isNull && !pattern.isNull && Wildcard.covers pattern.display value.display
  | compare relation operand => relation.holds value operand

/-- Whether a row meets a condition. -/
def Predicate.holds : Predicate → Row → Bool
  | leaf column test, row => test.holds (row.get (.text column))
  | and left right, row => left.holds row && right.holds row
  | or left right, row => left.holds row || right.holds row

end StagedQuery
