import StagedQuery.Predicate.Basic
import StagedQuery.Text.CaseMap

/-!
# Keywords and marks

## Main definitions

* `Keyword` — the reserved words of statements; a name may be spelled like one all the same.
* `Mark` — the punctuation and the signs of numbers.
-/

namespace StagedQuery

/-- The reserved words. -/
inductive Keyword where
  | CREATE | DROP | TABLE | IF | EXISTS | INSERT | INTO | VALUES | SELECT | DISTINCT | FROM | WHERE
  | ORDER | BY | ASC | DESC | LIMIT | OFFSET | UPDATE | SET | DELETE | PRIMARY | KEY | NOT | DEFAULT
  | AND | OR | IS | IN | LIKE | BETWEEN | SAVE | LOAD | DATABASE
deriving DecidableEq

namespace Keyword

/-- The word in capitals. -/
def text : Keyword → String
  | CREATE => "CREATE" | DROP => "DROP" | TABLE => "TABLE" | IF => "IF" | EXISTS => "EXISTS"
  | INSERT => "INSERT" | INTO => "INTO" | VALUES => "VALUES" | SELECT => "SELECT"
  | DISTINCT => "DISTINCT" | FROM => "FROM" | WHERE => "WHERE" | ORDER => "ORDER" | BY => "BY"
  | ASC => "ASC" | DESC => "DESC" | LIMIT => "LIMIT" | OFFSET => "OFFSET" | UPDATE => "UPDATE"
  | SET => "SET" | DELETE => "DELETE" | PRIMARY => "PRIMARY" | KEY => "KEY" | NOT => "NOT"
  | DEFAULT => "DEFAULT" | AND => "AND" | OR => "OR" | IS => "IS" | IN => "IN" | LIKE => "LIKE"
  | BETWEEN => "BETWEEN" | SAVE => "SAVE" | LOAD => "LOAD" | DATABASE => "DATABASE"

/-- All reserved words. -/
def all : List Keyword :=
  [CREATE, DROP, TABLE, IF, EXISTS, INSERT, INTO, VALUES, SELECT, DISTINCT, FROM, WHERE, ORDER, BY,
    ASC, DESC, LIMIT, OFFSET, UPDATE, SET, DELETE, PRIMARY, KEY, NOT, DEFAULT, AND, OR, IS, IN,
    LIKE, BETWEEN, SAVE, LOAD, DATABASE]

/-- The reserved word with a text in capitals. -/
def ofText? (s : String) : Option Keyword := all.find? (·.text == s)

end Keyword

/-- The punctuation and the signs of numbers. -/
inductive Mark where
  | openParen
  | closeParen
  | comma
  | semicolon
  | star
  | minus
  | plus
deriving DecidableEq

namespace Mark

/-- The character of a mark. -/
def char : Mark → Char
  | openParen => '('
  | closeParen => ')'
  | comma => ','
  | semicolon => ';'
  | star => '*'
  | minus => '-'
  | plus => '+'

/-- All marks. -/
def all : List Mark := [openParen, closeParen, comma, semicolon, star, minus, plus]

/-- The mark of a character. -/
def ofChar? (c : Char) : Option Mark := all.find? (·.char == c)

end Mark

end StagedQuery
