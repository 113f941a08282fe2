import StagedQuery.Text.CharTable
import StagedQuery.Text.Letters.Table

/-!
# Letters, digits and word characters

The character classes that names are made of.

## Main definitions

* `isDigit` — the ten ASCII digits.
* `isLetter` — letters of any script.
* `isWordChar` — letters, numbers of any script and the underscore.
-/

namespace StagedQuery

/-- The ten ASCII digits; digits of other scripts are not meant. -/
def isDigit (c : Char) : Bool := decide ('0' ≤ c) && decide (c ≤ '9')

/-- ASCII letters. -/
def isAsciiLetter (c : Char) : Bool :=
  (decide ('a' ≤ c) && decide (c ≤ 'z')) || (decide ('A' ≤ c) && decide (c ≤ 'Z'))

/-- Letters of any script. -/
def isLetter (c : Char) : Bool :=
  if c.toNat < 128 then isAsciiLetter c else CharTable.mem Letters.letterRanges c.toNat

/-- Letters and characters with a numeric value, of any script. -/
def isAlphanumeric (c : Char) : Bool :=
  isLetter c ||
    if c.toNat < 128 then isDigit c else CharTable.mem Letters.numberRanges c.toNat

/-- The characters that a name may go on with. -/
def isWordChar (c : Char) : Bool := isAlphanumeric c || c == '_'

/-- The characters that a name may begin with. -/
def isNameStart (c : Char) : Bool := isLetter c || c == '_'

/-- The value of an ASCII digit. -/
def digitValue (c : Char) : Nat := c.toNat - '0'.toNat

/-- A name may go on with every character that it may begin with. -/
theorem isWordChar_of_isNameStart {c : Char} (h : isNameStart c = true) : isWordChar c = true := by
  simp only [isNameStart, isWordChar, isAlphanumeric, Bool.or_eq_true] at h ⊢
  exact h.imp .inl id

end StagedQuery
