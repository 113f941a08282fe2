/-!
# Blank characters

The white space that separates words: which characters are blank, text without its outer blanks,
and the words of a text.

## Main definitions

* `isBlank` — the blank characters.
* `strip`, `words`, `collapse` — text without outer blanks, its words, and its words joined by
  single spaces.
-/

namespace StagedQuery

/-- The blank characters: the separators of the bidirectional classes `WS`, `B` and `S`, and the
space separators. -/
def isBlank (c : Char) : Bool :=
  let n := c.toNat
  decide (9 ≤ n ∧ n ≤ 13) || decide (28 ≤ n ∧ n ≤ 32) || n == 0x85 || n == 0xA0 || n == 0x1680
    || decide (0x2000 ≤ n ∧ n ≤ 0x200A) || n == 0x2028 || n == 0x2029 || n == 0x202F
    || n == 0x205F || n == 0x3000

/-- A character sequence without the blanks at its two ends. -/
def stripBlanks (cs : List Char) : List Char :=
  ((cs.dropWhile isBlank).reverse.dropWhile isBlank).reverse

/-- Text without the blanks at its two ends. -/
def strip (s : String) : String := String.ofList (stripBlanks s.toList)

/-- The words of a text: its maximal runs of characters that are not blank. -/
def words (s : String) : List String :=
  ((s.toList.splitOnP isBlank).filter (!·.isEmpty)).map String.ofList

/-- Text with every run of blanks replaced by one space, and none at its ends. -/
def collapse (s : String) : String := String.intercalate " " (words s)

end StagedQuery
