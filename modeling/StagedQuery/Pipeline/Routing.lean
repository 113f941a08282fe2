import StagedQuery.Sql.Statement
import StagedQuery.Text.Blank
import StagedQuery.Text.CaseMap
import StagedQuery.Text.Letters

/-!
# Routing of statement text

Which kind of statement a text begins, by its first words alone. Case does not matter, blanks may
stand before the words and must stand between them, and the last word must end where it is
expected to end.

## Main definitions

* `StatementKind.opening` — the words that a statement of a kind begins with.
* `StatementKind.opens` — whether a text begins with these words.
-/

namespace StagedQuery

/-- What follows a word at the front of a text, without regard to case. -/
def afterWord : List Char → List Char → Option (List Char)
  | [], cs => some cs
  | _ :: _, [] => none
  | w :: word, c :: cs => if sameLetter w c then afterWord word cs else none

/-- What follows words at the front of a text, with blanks before each word. -/
def afterBlankWords : List String → List Char → Option (List Char)
  | [], cs => some cs
  | _ :: _, [] => none
  | word :: words, c :: cs =>
    if isBlank c then
      match afterWord word.toList (cs.dropWhile isBlank) with
      | some rest => afterBlankWords words rest
      | none => none
    else none

/-- What follows words at the front of a text; there may be blanks before the first word, and there
must be blanks before every other. -/
def afterWords (words : List String) (cs : List Char) : Option (List Char) :=
  match words with
  | [] => some cs
  | word :: words =>
    match afterWord word.toList (cs.dropWhile isBlank) with
    | some rest => afterBlankWords words rest
    | none => none

/-- Whether a word that stood before a text ends there. -/
def wordEnds : List Char → Bool
  | [] => true
  | c :: _ => !isWordChar c

namespace StatementKind

/-- The words that a statement of a kind begins with. -/
def opening : StatementKind → List String
  | createTable => ["CREATE", "TABLE"]
  | dropTable => ["DROP", "TABLE"]
  | insert => ["INSERT", "INTO"]
  | select => ["SELECT"]
  | update => ["UPDATE"]
  | delete => ["DELETE", "FROM"]
  | save => ["SAVE", "DATABASE"]
  | load => ["LOAD", "DATABASE"]

/-- Whether a text begins with the words of a kind. -/
def opens (kind : StatementKind) (text : String) : Bool :=
  match afterWords kind.opening text.toList with
  | some rest => wordEnds rest
  | none => false

end StatementKind

end StagedQuery
