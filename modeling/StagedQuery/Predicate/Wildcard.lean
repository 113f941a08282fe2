import StagedQuery.Text.CaseMap

/-!
# Patterns with wildcards

The patterns of `LIKE`: `%` stands for any sequence of characters, `_` for any one character, and
every other character for itself without regard to case.

A pattern is matched against a text from the end of the text to its front. At each place the
matcher holds one truth value per suffix of the pattern: whether that suffix matches the rest of
the text. The time is the product of the two lengths.

## Main definitions

* `Wildcard.covers` — whether a pattern matches the whole of a text.
-/

namespace StagedQuery.Wildcard

/-- The suffixes of a pattern that match the empty text, longest first: those that hold nothing
but `%`. -/
def emptyRow : List Char → List Bool
  | [] => [true]
  | p :: pattern =>
    let shorter := emptyRow pattern
    (p == '%' && shorter.headD false) :: shorter

/-- The suffixes of a pattern that match a text with `c` in front, from those that match the text
without it. -/
def nextRow (c : Char) : List Char → List Bool → List Bool
  | [], _ => [false]
  | p :: pattern, row =>
    let shorter := nextRow c pattern row.tail
    let one := row.tail.headD false
    let here :=
      if p = '%' then shorter.headD false || row.headD false
      else if p = '_' then one
      else sameLetter p c && one
    here :: shorter

/-- The suffixes of a pattern that match a text, longest first. -/
def row (pattern : List Char) (text : List Char) : List Bool :=
  text.foldr (fun c r => nextRow c pattern r) (emptyRow pattern)

/-- Whether a pattern matches the whole of a text. -/
def covers (pattern text : String) : Bool :=
  (row pattern.toList text.toList).headD false

end StagedQuery.Wildcard
