import StagedQuery.Sql.Statement

/-!
# Errors in statement text

## Main definitions

* `Position` — a place in a text, by line and column.
* `SyntaxFault` — what is wrong.
* `SyntaxError` — what is wrong, where, with the offending text and the grammar of the statement.
* `ReadError` — a syntax error, or a number with too many digits.
-/

namespace StagedQuery

/-- A place in a text; both counts start at one. -/
structure Position where
  line : Nat
  column : Nat
deriving DecidableEq, Inhabited

/-- What is wrong with a text. -/
inductive SyntaxFault where
  | unexpectedCharacter (c : Char)
  | unterminatedLiteral
  | expected (what : String)
  | severalTypes (column : String)
  | unknownWord (column : String)
  | unexpectedInput
  | emptyCondition
  | trailingInput
  | inCondition (fault : SyntaxFault)
  | inStatement (kind : StatementKind) (fault : SyntaxFault)
deriving DecidableEq

/-- The message of a fault. -/
def SyntaxFault.message : SyntaxFault → String
  | unexpectedCharacter c => "Unexpected character " ++ Quoted.encode (String.singleton c)
  | unterminatedLiteral => "Unterminated string literal"
  | expected what => "Expected " ++ what
  | severalTypes column => "Multiple types specified for column '" ++ column ++ "'"
  | unknownWord column => "Unknown keyword in column '" ++ column ++ "'"
  | unexpectedInput => "Unexpected input"
  | emptyCondition => "Empty WHERE condition"
  | trailingInput => "Invalid WHERE condition (unexpected input)"
  | inCondition fault => "Invalid WHERE condition (" ++ fault.message ++ ")"
  | inStatement kind fault => "Invalid " ++ kind.label ++ " syntax: " ++ fault.message

/-- A fault with its place, the offending text, and the statement whose grammar helps. -/
structure SyntaxError where
  fault : SyntaxFault
  position : Option Position
  fragment : Option String
  grammarOf : Option StatementKind
deriving DecidableEq

namespace SyntaxError

/-- The full message: what is wrong, where, the offending text and the grammar. -/
def message (e : SyntaxError) : String :=
  let place := match e.position with
    | some p => " (line " ++ p.line.repr ++ ", col " ++ p.column.repr ++ ")"
    | none => ""
  let fragment := match e.fragment with
    | some text => ": " ++ text
    | none => ""
  let grammar := match e.grammarOf with
    | some kind => "\nExpected: " ++ kind.grammar
    | none => ""
  e.fault.message ++ place ++ fragment ++ grammar

/-- The error inside a statement of a kind. -/
def inStatement (kind : StatementKind) (e : SyntaxError) : SyntaxError :=
  ⟨.inStatement kind e.fault, e.position, e.fragment, some kind⟩

end SyntaxError

/-- Why a text cannot be read: it is malformed, or an integer in it has more digits than
`integerDigitLimit`. -/
inductive ReadError where
  | malformed (e : SyntaxError)
  | tooManyDigits (digits : Nat)
deriving DecidableEq

end StagedQuery
