import StagedQuery.Text.Blank
import StagedQuery.Value.Basic

/-!
# Values as numbers

Which values count as numbers: integers, finite floating-point numbers, and text in decimal
notation. Truth values do not.

## Main definitions

* `Number` — an integer or a finite floating-point number; `Number.toRat` is its exact value.
* `numberOfText?` — the number that a text in decimal notation denotes.
* `Value.number?` — the number that a value is or looks like.
-/

namespace StagedQuery

/-- An integer or a finite floating-point number. -/
inductive Number where
  | int (n : Int)
  | real (negative : Bool) (rank : Fin rankLimit)
deriving DecidableEq

namespace Number

/-- The exact value of a number. -/
def toRat : Number → Rat
  | int n => n
  | real negative rank =>
    let (num, den) := Binary64.magnitude rank
    mkRat (if negative then -(num : Int) else num) den

/-- A number as a value. -/
def toValue : Number → Value
  | int n => .int n
  | real negative rank => .float (.finite negative rank)

/-- A floating-point number, if it is finite. -/
def ofFloat? : Binary64 → Option Number
  | .finite negative rank => some (.real negative rank)
  | _ => none

end Number

/-- Whether the parts of a number in decimal notation hold a digit before the power: digits that
a point may follow, or a point with digits after it. -/
def Notation.hasDigits (n : Notation) : Bool :=
  !n.whole.isEmpty || !(n.fraction.getD []).isEmpty

/-- The number that a text in decimal notation denotes, blanks at its ends apart. A whole number
of at most `integerDigitLimit` digits is an integer; every other number is the nearest
floating-point number, if that is finite. -/
def numberOfText? (s : String) : Option Number :=
  let (negative, unsigned) := scanSign (stripBlanks s.toList)
  let (parts, rest) := Notation.scan unsigned
  if !rest.isEmpty || !parts.hasDigits then none
  else if parts.isWhole && decide (parts.whole.length ≤ integerDigitLimit) then
    let n : Int := natOfDigits parts.whole
    some (.int (if negative then -n else n))
  else Number.ofFloat? (Binary64.ofDecimal negative parts.value)

/-- The number that a value is or looks like. -/
def Value.number? : Value → Option Number
  | .int n => some (.int n)
  | .float x => Number.ofFloat? x
  | .text s => numberOfText? s
  | _ => none

end StagedQuery
