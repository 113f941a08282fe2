import StagedQuery.Text.Blank

/-!
# Scripts

A script is several statements with semicolons between them. A semicolon between quotes does not
count; a doubled quote closes and opens a quoted text, so it needs no rule of its own.

## Main definitions

* `statementTexts` — the statements of a script.
* `isComplete` — whether a text holds a semicolon outside quotes.
-/

namespace StagedQuery

/-- The quote that is open after a character, where `quote` was open before it. -/
def quoteAfter (quote : Option Char) (c : Char) : Option Char :=
  match quote with
  | some q => if c = q then none else some q
  | none => if c = '\x27' ∨ c = '\x22' then some c else none

/-- The pieces of a text between the semicolons outside quotes. -/
def piecesFrom (quote : Option Char) : List Char → List (List Char)
  | [] => [[]]
  | c :: rest =>
    if quote.isNone ∧ c = ';' then [] :: piecesFrom none rest
    else match piecesFrom (quoteAfter quote c) rest with
      | [] => [[c]]
      | piece :: pieces => (c :: piece) :: pieces

/-- The statements of a script without outer blanks; empty ones are left out. -/
def statementTexts (script : String) : List String :=
  (((piecesFrom none script.toList).map stripBlanks).filter (!·.isEmpty)).map String.ofList

/-- Whether a text has a semicolon outside quotes. -/
def completeFrom (quote : Option Char) : List Char → Bool
  | [] => false
  | c :: rest =>
    if quote.isNone ∧ c = ';' then true else completeFrom (quoteAfter quote c) rest

/-- Whether a text holds a complete statement. -/
def isComplete (text : String) : Bool := completeFrom none text.toList

end StagedQuery
