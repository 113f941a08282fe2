import StagedQuery.Number.Decimal

/-!
# Binary floating point with 64 bits

The floating-point numbers of the format binary64. A finite number is a sign and a *rank*: its
place among the magnitudes of the format in increasing order, counted from zero. The ranks below
`2 ^ 52` are the subnormal magnitudes `rank · 2 ^ -1074`; each further block of `2 ^ 52` ranks
holds the magnitudes between two powers of two.

## Main definitions

* `Binary64` — the numbers of the format.
* `Binary64.significand`, `Binary64.exponent` — the magnitude of a rank is
  `significand · 2 ^ exponent`.
* `Binary64.toRat?` — the exact value of a finite number.
* `Binary64.roundRank`, `Binary64.ofDecimal` — the nearest rank to a quotient, ties to even, and
  the number nearest to a decimal.
-/

namespace StagedQuery

/-- The number of finite magnitudes: 2047 blocks of `2 ^ 52` ranks. -/
def rankLimit : Nat := 2047 * twoTo 52

/-- A number of the format binary64. All values that are not numbers count as one. -/
inductive Binary64 where
  | nan
  | infinite (negative : Bool)
  | finite (negative : Bool) (rank : Fin rankLimit)
deriving DecidableEq

namespace Binary64

/-! ## Magnitudes -/

/-- The integer factor of the magnitude of a rank. -/
def significand (rank : Nat) : Nat :=
  if rank < twoTo 52 then rank else twoTo 52 + rank % twoTo 52

/-- The power of two in the magnitude of a rank. -/
def exponent (rank : Nat) : Int :=
  if rank < twoTo 52 then -1074 else (rank / twoTo 52 : Nat) - 1075

/-- `2 ^ e` times a number as a quotient of naturals. -/
def scaled (n : Nat) (e : Int) : Nat × Nat :=
  if 0 ≤ e then (n * twoTo e.toNat, 1) else (n, twoTo (-e).toNat)

/-- The magnitude of a rank as a quotient of naturals. -/
def magnitude (rank : Nat) : Nat × Nat := scaled (significand rank) (exponent rank)

/-- The exact value of a finite number. -/
def toRat? : Binary64 → Option Rat
  | nan => none
  | infinite _ => none
  | finite negative rank =>
    let (num, den) := magnitude rank
    some (mkRat (if negative then -(num : Int) else num) den)

/-- Whether a number is neither infinite nor `nan`. -/
def isFinite : Binary64 → Bool
  | finite _ _ => true
  | _ => false

/-- The number with the other sign. -/
def neg : Binary64 → Binary64
  | nan => nan
  | infinite negative => infinite !negative
  | finite negative rank => finite (!negative) rank

instance : Neg Binary64 := ⟨neg⟩

/-- Zero. -/
def zero (negative : Bool) : Binary64 := finite negative ⟨0, by decide⟩

/-- Whether a number is zero, of either sign. -/
def isZero : Binary64 → Bool
  | finite _ rank => rank.val == 0
  | _ => false

/-! ## Rounding -/

/-- The nearest natural to `num / den`; a half goes to the even neighbour. -/
def roundDiv (num den : Nat) : Nat :=
  let quotient := num / den
  let twice := 2 * (num % den)
  if den < twice ∨ (twice = den ∧ quotient % 2 = 1) then quotient + 1 else quotient

/-- The least power of two, from `2 ^ -1074` on, of which `num / den` holds fewer than `2 ^ 53`. -/
def unitExponent (num den : Nat) : Int :=
  let guess := max (-1074) ((num.log2 : Int) - den.log2 - 53)
  let (n, d) := scaled num (-guess)
  if twoTo 53 ≤ n / (d * den) then guess + 1 else guess

/-- The nearest rank to `num / den`, ties to even; from `rankLimit` on the magnitude overflows. -/
def roundRank (num den : Nat) : Nat :=
  let unit := unitExponent num den
  let (n, d) := scaled num (-unit)
  (unit + 1074).toNat * twoTo 52 + roundDiv n (d * den)

/-- The number of a sign and a rank, infinite where the rank is beyond the finite ones. -/
def ofRank (negative : Bool) (rank : Nat) : Binary64 :=
  if h : rank < rankLimit then finite negative ⟨rank, h⟩ else infinite negative

/-- The number nearest to a signed quotient. -/
def ofQuotient (negative : Bool) (num den : Nat) : Binary64 :=
  ofRank negative (roundRank num den)

/-- The number nearest to a signed decimal. A decimal whose leading digit stands far outside the
range of the format is decided by that place alone, so that no large power is ever computed. -/
def ofDecimal (negative : Bool) (d : Decimal) : Binary64 :=
  let places : Int := (digitsOf d.coefficient).length + d.exponent
  if d.coefficient = 0 then zero negative
  else if 310 < places then infinite negative
  else if places < -324 then zero negative
  else if 0 ≤ d.exponent then ofQuotient negative (d.coefficient * tenTo d.exponent.toNat) 1
  else ofQuotient negative d.coefficient (tenTo (-d.exponent).toNat)

end Binary64

end StagedQuery
