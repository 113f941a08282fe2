import StagedQuery.Sql.Token

/-!
# Reading from a sequence of tokens

A parser takes tokens from the front of a sequence and leaves the rest, or fails with an error at
the first token that does not fit. It never takes the token that ends the sequence: every step
that takes a token has seen that it is of another kind.

Repetition is bounded by the number of tokens that are left, of which each round takes at least
one.

## Main definitions

* `Parser` — parsers.
* `Parser.accept`, `Parser.expect`, `Parser.name` — the steps that take one token.
* `Parser.following`, `Parser.separated` — repeated items behind a separator.
* `Parser.finish` — an optional semicolon and the end of the text.
-/

namespace StagedQuery

/-- A parser: it takes tokens from the front of a sequence, or fails. -/
abbrev Parser := StateT (List Token) (Except SyntaxError)

/-- A token that ends a text. -/
def Token.finish : Token := ⟨.finish, "", Cursor.start⟩

/-- Whether a token can be the name of a table or a column. Keywords can. -/
def TokenKind.isName : TokenKind → Bool
  | name => true
  | keyword _ => true
  | _ => false

namespace Parser

/-- The next token, which is left in place. -/
def peek : Parser Token := do
  return (← get).headD Token.finish

/-- Takes the next token. -/
def advance : Parser Unit := modify List.tail

/-- Fails at a token. -/
def fail {α : Type} (t : Token) (fault : SyntaxFault) : Parser α :=
  throw (t.mismatch fault)

/-- Takes the next token if it is of a kind, and tells whether it was. -/
def accept (kind : TokenKind) : Parser Bool := do
  if (← peek).kind = kind then
    advance
    return true
  else
    return false

/-- Takes the next token, which must be of a kind. -/
def expect (kind : TokenKind) (what : String) : Parser Unit := do
  let t ← peek
  if t.kind = kind then advance else fail t (.expected what)

/-- Takes a keyword. -/
def keyword (k : Keyword) (what : String) : Parser Unit := expect (.keyword k) what

/-- Takes a mark. -/
def mark (m : Mark) (what : String) : Parser Unit := expect (.mark m) what

/-- Takes the name of a table or a column. -/
def name (what : String) : Parser String := do
  let t ← peek
  if t.kind.isName then
    advance
    return t.lexeme
  else
    fail t (.expected what)

/-- Takes an unsigned integer. -/
def natural (what : String) : Parser Nat := do
  let t ← peek
  match t.kind with
  | .integer n =>
    advance
    return n
  | _ => fail t (.expected what)

/-- Takes a quoted text. -/
def quoted (what : String) : Parser String := do
  let t ← peek
  match t.kind with
  | .quoted s =>
    advance
    return s
  | _ => fail t (.expected what)

/-! ## Repetition -/

/-- At most `bound` items, each behind a separator. -/
def followingUpTo {α : Type} (separator : TokenKind) (item : Parser α) : Nat → Parser (List α)
  | 0 => return []
  | bound + 1 => do
    if ← accept separator then
      let x ← item
      let xs ← followingUpTo separator item bound
      return x :: xs
    else
      return []

/-- The items behind separators, as long as there is a separator. -/
def following {α : Type} (separator : TokenKind) (item : Parser α) : Parser (List α) := do
  followingUpTo separator item (← get).length

/-- One or more items with commas between them. -/
def separated {α : Type} (item : Parser α) : Parser (List α) := do
  let first ← item
  let rest ← following (.mark .comma) item
  return first :: rest

/-- One or more names of columns with commas between them. -/
def nameList : Parser (List String) := do
  let first ← name "column name"
  let rest ← following (.mark .comma) (name "column name after ','")
  return first :: rest

/-! ## Values -/

/-- A number behind a sign. -/
def signed (sign : Token) (negative : Bool) : Parser Value := do
  let t ← peek
  match t.kind with
  | .integer n =>
    advance
    return .int (if negative then -(n : Int) else n)
  | .decimal x =>
    advance
    return .float (if negative then -x else x)
  | _ => fail t (.expected ("number after '" ++ sign.lexeme ++ "'"))

/-- A value: `NULL`, a number with or without a sign, quoted text, or a bare word, which stands for
itself as text. -/
def literal : Parser Value := do
  let t ← peek
  match t.kind with
  | .mark .minus =>
    advance
    signed t true
  | .mark .plus =>
    advance
    signed t false
  | .integer n =>
    advance
    return .int n
  | .decimal x =>
    advance
    return .float x
  | .quoted s =>
    advance
    return .text s
  | .null =>
    advance
    return .null
  | .name =>
    advance
    return .text t.lexeme
  | _ => fail t (.expected "a value")

/-! ## The end -/

/-- The text from one place to another without outer blanks. -/
def excerpt (source : List Char) (first last : Nat) : String :=
  String.ofList (stripBlanks ((source.drop first).take (last - first)))

/-- Takes one optional semicolon; then the text must end. -/
def finish (source : List Char) : Parser Unit := do
  let _ ← accept (.mark .semicolon)
  let t ← peek
  if t.kind = .finish then return ()
  else
    let rest := excerpt source t.place.offset source.length
    throw ⟨.unexpectedInput, some t.place.position,
      some (if rest.isEmpty then t.lexeme else rest), none⟩

end Parser

end StagedQuery
