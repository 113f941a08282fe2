import StagedQuery.Sql.Parser.Basic

/-!
# Reading conditions

The grammar of conditions, in which `OR` binds looser than `AND` and both associate to the right:

    or_expr   := and_expr [OR or_expr]
    and_expr  := condition [AND and_expr]
    condition := '(' or_expr ')'
               | name IS [NOT] NULL
               | name BETWEEN value AND value
               | name IN '(' value {',' value} ')'
               | name LIKE value
               | name relation value

A chain of conditions is read as a list and then joined from the right. The depth of nested
parentheses is bounded by the number of tokens.

## Main definitions

* `Parser.orExpr` — a condition.
* `Parser.clause` — the condition of a statement; an error in it shows the clause.
* `readPredicate` — the condition that a whole text holds.
-/

namespace StagedQuery

/-- Conditions joined from the right. -/
def joinRight (join : Predicate → Predicate → Predicate) : Predicate → List Predicate → Predicate
  | p, [] => p
  | p, q :: rest => join p (joinRight join q rest)

namespace Parser

/-- Items with a keyword between them, joined from the right. -/
def chain (k : Keyword) (join : Predicate → Predicate → Predicate) (item : Parser Predicate) :
    Parser Predicate := do
  let first ← item
  let rest ← following (.keyword k) item
  return joinRight join first rest

/-- A test of a column. -/
def test (column : String) : Parser Test := do
  if ← accept (.keyword .IS) then
    if ← accept (.keyword .NOT) then
      expect .null "NULL after IS NOT"
      return .isNotNull .null
    else
      expect .null "NULL after IS"
      return .isNull .null
  else if ← accept (.keyword .BETWEEN) then
    let low ← literal
    keyword .AND "AND between BETWEEN bounds"
    let high ← literal
    return .between low high
  else if ← accept (.keyword .IN) then
    mark .openParen "'(' after IN"
    let choices ← separated literal
    mark .closeParen "')' after IN list"
    return .oneOf choices
  else if ← accept (.keyword .LIKE) then
    return .like (← literal)
  else
    let t ← peek
    match t.kind with
    | .relation r =>
      advance
      return .compare r (← literal)
    | _ => fail t (.expected ("operator after '" ++ column ++ "'"))

/-- A column and its test. -/
def leaf : Parser Predicate := do
  let column ← name "column name"
  return .leaf column (← test column)

/-- Conditions joined by `AND` and `OR`. -/
def alternatives (condition : Parser Predicate) : Parser Predicate :=
  chain .OR .or (chain .AND .and condition)

/-- A condition with at most `depth` nested groups. -/
def condition : (depth : Nat) → Parser Predicate
  | 0 => leaf
  | depth + 1 => do
    if ← accept (.mark .openParen) then
      let inner ← alternatives (condition depth)
      mark .closeParen "')' to close group"
      return inner
    else
      leaf

/-- A condition with any number of nested groups. -/
def orExpr : Parser Predicate := do
  alternatives (condition (← get).length)

/-! ## Clauses -/

/-- Whether a token ends the condition of a statement. -/
def endsClause (t : Token) : Bool :=
  t.kind == .keyword .ORDER || t.kind == .keyword .LIMIT || t.kind == .mark .semicolon
    || t.kind == .finish

/-- The text of the clause at the front of a token sequence. -/
def clauseText (source : List Char) (tokens : List Token) : String :=
  let first := tokens.headD Token.finish
  let last := (tokens.find? endsClause).getD (tokens.getLastD Token.finish)
  excerpt source first.place.offset last.place.offset

/-- The condition of a statement. An error in it shows the whole clause. -/
def clause (source : List Char) : Parser Predicate := fun tokens =>
  match orExpr tokens with
  | .ok result => .ok result
  | .error e =>
    .error ⟨.inCondition e.fault, e.position, some (clauseText source tokens), none⟩

/-- The condition behind `WHERE`, if there is one. -/
def optionalClause (source : List Char) : Parser (Option Predicate) := do
  if ← accept (.keyword .WHERE) then return some (← clause source) else return none

/-- A condition that takes up a whole text. -/
def wholeCondition (source : List Char) : Parser Predicate := do
  if (← peek).kind = .finish then
    throw ⟨.emptyCondition, some ⟨1, 1⟩, none, none⟩
  let p ← clause source
  let t ← peek
  if t.kind = .finish then return p
  else throw ⟨.trailingInput, some t.place.position,
    some (excerpt source 0 source.length), none⟩

end Parser

/-- The condition that a whole text holds. -/
def readPredicate (text : String) : Except ReadError Predicate := do
  let tokens ← tokenize text
  match (Parser.wholeCondition text.toList).run' tokens with
  | .ok p => .ok p
  | .error e => .error (.malformed e)

end StagedQuery
