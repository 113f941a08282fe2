import StagedQuery.Number.Binary64

/-!
# The shortest decimal text of a floating-point number

A finite number is written with the fewest digits that read back as it; of two candidates with
that many digits the nearer one is taken, and of two equally near ones the even one.

## Main definitions

* `Shortest.digits` — the fewest digits of a magnitude, with their power of ten.
* `Shortest.Layout` — the decisions of a text format: which powers of ten are written positionally.
* `Binary64.text` — the text of a number.
-/

namespace StagedQuery

namespace Shortest

/-! ## The fewest digits -/

/-- The reals that round to a magnitude, in quarters of its unit: the value, the distance down and
the distance up, and whether the two ends belong to it. -/
structure Interval where
  value : Nat
  below : Nat
  above : Nat
  closed : Bool

/-- The interval around the magnitude of a rank. The gap below a power of two is half of the gap
above it. -/
def interval (rank : Nat) : Interval :=
  let m := Binary64.significand rank
  ⟨4 * m, if m = twoTo 52 ∧ twoTo 53 ≤ rank then 1 else 2, 2, m % 2 == 0⟩

/-- The number of decimal places of `num / den` before the point, which is negative where zeros
follow the point: `10 ^ (places - 1) ≤ num / den < 10 ^ places`. -/
def places (num den : Nat) : Int :=
  let guess : Int := ((digitsOf num).length : Int) - (digitsOf den).length
  let reaches := if 0 ≤ guess then den * tenTo guess.toNat ≤ num
    else den ≤ num * tenTo (-guess).toNat
  if reaches then guess + 1 else guess

/-- The distance of two naturals. -/
def distance (a b : Nat) : Nat := (a - b) + (b - a)

/-- The multiples of `10 ^ s` next to a value that lie in its interval, the better one first:
`num / den` is the value in quarters of the unit. -/
def candidate? (i : Interval) (num den : Nat) (s : Int) : Option Nat :=
  let (step, unit) := if 0 ≤ s then (den * tenTo s.toNat, 1) else (den, tenTo (-s).toNat)
  let target := num * unit
  let low := target / step
  let inside (k : Nat) : Bool :=
    let point := k * step * i.value
    let down := target * (i.value - i.below)
    let up := target * (i.value + i.above)
    if i.closed then decide (down ≤ point ∧ point ≤ up) else decide (down < point ∧ point < up)
  let lowFirst : Bool :=
    let a := distance (low * step) target
    let b := distance ((low + 1) * step) target
    decide (a < b) || (a == b && low % 2 == 0)
  if lowFirst then
    if inside low then some low else if inside (low + 1) then some (low + 1) else none
  else
    if inside (low + 1) then some (low + 1) else if inside low then some low else none

/-- The fewest digits of a positive magnitude, as a decimal whose coefficient does not end in
zero. Seventeen digits always suffice. -/
def digits (rank : Nat) : Decimal :=
  let (num, den) := Binary64.magnitude rank
  let p := places num den
  let found := (List.range 17).findSome? fun (n : Nat) =>
    let s : Int := p - (n + 1)
    (candidate? (interval rank) num den s).map fun k => (⟨k, s⟩ : Decimal)
  let d := found.getD ⟨0, 0⟩
  let trailing := ((digitsOf d.coefficient).reverse.takeWhile (· == '0')).length
  ⟨d.coefficient / tenTo trailing, d.exponent + trailing⟩

/-! ## Layout -/

/-- The decisions of a text format for numbers: the powers of ten of the leading digit from
`positionalFrom` on and below `positionalBelow` are written positionally, others with a power that
has at least `powerDigits` digits. -/
structure Layout where
  positionalFrom : Int
  positionalBelow : Int
  powerDigits : Nat

/-- Numbers are written positionally from `0.0001` on and below `10 ^ 16`; a power of ten has at
least two digits. -/
def layout : Layout := ⟨-4, 16, 2⟩

/-- The digits `ds` with the point after the first `place` of them, and at least one digit on both
sides of it. -/
def positional (ds : List Char) (place : Int) : List Char :=
  if place ≤ 0 then '0' :: '.' :: (List.replicate (-place).toNat '0' ++ ds)
  else
    let n := place.toNat
    if n < ds.length then ds.take n ++ '.' :: ds.drop n
    else ds ++ List.replicate (n - ds.length) '0' ++ ['.', '0']

/-- The digits `ds` with the point after the first one and a power of ten. -/
def scientific (powerDigits : Nat) (ds : List Char) (power : Int) : List Char :=
  let lead := match ds with
    | [] => []
    | [d] => [d]
    | d :: rest => d :: '.' :: rest
  let shown := digitsOf power.natAbs
  lead ++ 'e' :: (if power < 0 then '-' else '+')
    :: (List.replicate (powerDigits - shown.length) '0' ++ shown)

/-- The text of a decimal that is not zero. -/
def Layout.write (l : Layout) (d : Decimal) : List Char :=
  let ds := digitsOf d.coefficient
  let place : Int := ds.length + d.exponent
  if l.positionalFrom < place ∧ place ≤ l.positionalBelow then positional ds place
  else scientific l.powerDigits ds (place - 1)

end Shortest

/-- The text of a number: the fewest digits that read back as it. -/
def Binary64.text : Binary64 → String
  | .nan => "nan"
  | .infinite negative => if negative then "-inf" else "inf"
  | .finite negative rank =>
    let magnitude := if rank.val = 0 then "0.0"
      else String.ofList (Shortest.layout.write (Shortest.digits rank))
    if negative then "-" ++ magnitude else magnitude

end StagedQuery
