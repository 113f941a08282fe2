import StagedQuery.Text.Letters

/-!
# Decimal notation

Numbers written in decimal: digit sequences, and the notation with an optional fraction and an
optional power of ten.

## Main definitions

* `natOfDigits`, `digitsOf` — a digit sequence as a number, and the digits of a number.
* `twoTo`, `tenTo` — the powers of two and of ten.
* `Decimal` — a coefficient times a power of ten.
* `Notation.scan` — reads `digits[.[digits]][(e|E)[sign]digits]` from the front of a text.
-/

namespace StagedQuery

/-! ## Digit sequences -/

/-- The number that a sequence of digits denotes, most significant digit first. -/
def natOfDigits (cs : List Char) : Nat :=
  cs.foldl (fun n c => 10 * n + digitValue c) 0

/-- The digits of a number, most significant digit first. -/
def digitsOf (n : Nat) : List Char := n.repr.toList

/-- The text of an integer. -/
def intText (n : Int) : String :=
  if n < 0 then "-" ++ n.natAbs.repr else n.natAbs.repr

/-- The most digits that an integer may be written with where one is read from text. -/
def integerDigitLimit : Nat := 4300

/-! ## Powers -/

/-- The power of two with an exponent. -/
def twoTo (n : Nat) : Nat := Nat.pow 2 n

/-- The power of ten with an exponent. -/
def tenTo (n : Nat) : Nat := Nat.pow 10 n

/-! ## Coefficient and power of ten -/

/-- The number `coefficient · 10 ^ exponent`. -/
structure Decimal where
  coefficient : Nat
  exponent : Int
deriving DecidableEq

/-- A sign, if there is one: whether it is a minus, and what follows. -/
def scanSign : List Char → Bool × List Char
  | '-' :: rest => (true, rest)
  | '+' :: rest => (false, rest)
  | rest => (false, rest)

/-- The parts of a number in decimal notation, as written. -/
structure Notation where
  whole : List Char
  fraction : Option (List Char)
  power : Option (Bool × List Char)
deriving DecidableEq

namespace Notation

/-- The power of ten after the mark `e` or `E`, which is left alone if no digit follows it. -/
def scanPower : List Char → Option (Bool × List Char) × List Char
  | c :: rest =>
    if c = 'e' ∨ c = 'E' then
      let (negative, digits) := scanSign rest
      match digits.takeWhile isDigit with
      | [] => (none, c :: rest)
      | ds => (some (negative, ds), digits.dropWhile isDigit)
    else (none, c :: rest)
  | [] => (none, [])

/-- The digits after a point. -/
def scanFraction : List Char → Option (List Char) × List Char
  | '.' :: rest => (some (rest.takeWhile isDigit), rest.dropWhile isDigit)
  | rest => (none, rest)

/-- The number at the front of a text, and what follows it. -/
def scan (cs : List Char) : Notation × List Char :=
  let (fraction, afterFraction) := scanFraction (cs.dropWhile isDigit)
  let (power, rest) := scanPower afterFraction
  (⟨cs.takeWhile isDigit, fraction, power⟩, rest)

/-- A signed power of ten as a number. -/
def powerValue : Option (Bool × List Char) → Int
  | none => 0
  | some (true, ds) => -(natOfDigits ds : Int)
  | some (false, ds) => natOfDigits ds

/-- The number that the parts denote. -/
def value (n : Notation) : Decimal :=
  let fraction := n.fraction.getD []
  ⟨natOfDigits (n.whole ++ fraction), powerValue n.power - fraction.length⟩

/-- Whether only digits were written. -/
def isWhole (n : Notation) : Bool := n.fraction.isNone && n.power.isNone

end Notation

end StagedQuery
