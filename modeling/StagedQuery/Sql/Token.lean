import StagedQuery.Sql.Keyword
import StagedQuery.Sql.SyntaxError
import StagedQuery.Text.Blank
import StagedQuery.Value.Numeric

/-!
# Tokens

Statement text as a sequence of tokens. At each place that is neither blank nor inside a token the
longest token of the first class that fits is taken: comparison signs, marks, quoted text, numbers,
then names. The sequence ends with one token that stands for the end of the text.

## Main definitions

* `TokenKind`, `Token` — a token with its kind, its text and its place.
* `TokenKind.scan` — the token at the front of a text.
* `tokenize` — the tokens of a text.
-/

namespace StagedQuery

/-! ## Kinds of tokens -/

/-- What a token is, with the value that it denotes. -/
inductive TokenKind where
  | finish
  | name
  | integer (n : Nat)
  | decimal (x : Binary64)
  | quoted (s : String)
  | null
  | mark (m : Mark)
  | relation (r : Relation)
  | keyword (k : Keyword)
deriving DecidableEq, Inhabited

/-- A place in a text: its line and column, and the number of characters before it. -/
structure Cursor where
  position : Position
  offset : Nat
deriving DecidableEq, Inhabited

namespace Cursor

/-- The front of a text. -/
def start : Cursor := ⟨⟨1, 1⟩, 0⟩

/-- The place after a character. -/
def past (p : Cursor) (c : Char) : Cursor :=
  if c = '\n' then ⟨⟨p.position.line + 1, 1⟩, p.offset + 1⟩
  else ⟨⟨p.position.line, p.position.column + 1⟩, p.offset + 1⟩

end Cursor

/-- A token: its kind, its text as written and the place of its first character. -/
structure Token where
  kind : TokenKind
  lexeme : String
  place : Cursor
deriving DecidableEq, Inhabited

namespace Token

/-- What an error shows of a token. -/
def describe (t : Token) : String :=
  if t.kind = .finish then "end of input" else t.lexeme

/-- The error that something else was expected in place of a token. -/
def mismatch (t : Token) (fault : SyntaxFault) : SyntaxError :=
  ⟨fault, some t.place.position, some t.describe, none⟩

end Token

/-! ## One token -/

/-- Why no token can be read. -/
inductive ScanFault where
  | unterminated
  | unexpected (c : Char)
  | tooManyDigits (digits : Nat)
deriving DecidableEq

/-- The comparison sign at the front of a text, with the number of its further characters. -/
def scanRelation (c : Char) (rest : List Char) : Option (Relation × Nat) :=
  match c, rest with
  | '!', '=' :: _ => some (.differs, 1)
  | '<', '>' :: _ => some (.unequal, 1)
  | '<', '=' :: _ => some (.atMost, 1)
  | '>', '=' :: _ => some (.atLeast, 1)
  | '=', _ => some (.equal, 0)
  | '<', _ => some (.less, 0)
  | '>', _ => some (.greater, 0)
  | _, _ => none

/-- The text up to a closing quote, in which a doubled quote stands for one, and the number of
characters through the closing quote. -/
def scanQuoted (quote : Char) : List Char → Option (List Char × Nat)
  | [] => none
  | [c] => if c = quote then some ([], 1) else none
  | c :: d :: rest =>
    if c = quote then
      if d = quote then (scanQuoted quote rest).map fun r => (quote :: r.1, r.2 + 2)
      else some ([], 1)
    else (scanQuoted quote (d :: rest)).map fun r => (c :: r.1, r.2 + 1)

/-- The number at the front of a text that begins with a digit, with the number of its further
characters. A point belongs to it only before a digit. -/
def scanNumber (c : Char) (rest : List Char) : Except ScanFault (TokenKind × Nat) :=
  let digits := rest.takeWhile isDigit
  let whole := c :: digits
  match rest.dropWhile isDigit with
  | '.' :: d :: more =>
    if isDigit d then
      let fraction := d :: more.takeWhile isDigit
      let value : Decimal := ⟨natOfDigits (whole ++ fraction), -(fraction.length : Int)⟩
      .ok (.decimal (Binary64.ofDecimal false value), digits.length + 1 + fraction.length)
    else integer whole
  | _ => integer whole
where
  /-- The integer of a digit sequence that is not too long. -/
  integer (whole : List Char) : Except ScanFault (TokenKind × Nat) :=
    if integerDigitLimit < whole.length then .error (.tooManyDigits whole.length)
    else .ok (.integer (natOfDigits whole), whole.length - 1)

/-- The kind of a word: `NULL` or a keyword in any case, else a name. -/
def TokenKind.ofWord (word : String) : TokenKind :=
  let upper := capitalize word
  if upper = "NULL" then .null
  else match Keyword.ofText? upper with
    | some k => .keyword k
    | none => .name

/-- The token at the front of a text, with the number of its further characters. -/
def TokenKind.scan (c : Char) (rest : List Char) : Except ScanFault (TokenKind × Nat) :=
  match scanRelation c rest with
  | some (r, more) => .ok (.relation r, more)
  | none =>
    match Mark.ofChar? c with
    | some m => .ok (.mark m, 0)
    | none =>
      if c = '\x27' ∨ c = '\x22' then
        match scanQuoted c rest with
        | some (content, more) => .ok (.quoted (String.ofList content), more)
        | none => .error .unterminated
      else if isDigit c then scanNumber c rest
      else if isNameStart c then
        let word := rest.takeWhile isWordChar
        .ok (.ofWord (String.ofList (c :: word)), word.length)
      else .error (.unexpected c)

/-! ## All tokens -/

/-- The error of a fault at a place, where `text` is the rest of the text. -/
def ScanFault.toError (fault : ScanFault) (place : Cursor) (text : List Char) : ReadError :=
  match fault with
  | unterminated =>
    .malformed ⟨.unterminatedLiteral, some place.position, some (String.ofList text), none⟩
  | unexpected c => .malformed ⟨.unexpectedCharacter c, some place.position, none, none⟩
  | tooManyDigits digits => .tooManyDigits digits

/-- The tokens of a text from a place on, after `skip` characters that belong to the token
before. -/
def tokensFrom (skip : Nat) (place : Cursor) : List Char → Except ReadError (List Token)
  | [] => .ok [⟨.finish, "", place⟩]
  | c :: rest =>
    match skip with
    | more + 1 => tokensFrom more (place.past c) rest
    | 0 =>
      if isBlank c then tokensFrom 0 (place.past c) rest
      else match TokenKind.scan c rest with
        | .error fault => .error (fault.toError place (c :: rest))
        | .ok (kind, more) =>
          (tokensFrom more (place.past c) rest).map
            (⟨kind, String.ofList (c :: rest.take more), place⟩ :: ·)

/-- The tokens of a text, the last of which stands for its end. -/
def tokenize (text : String) : Except ReadError (List Token) :=
  tokensFrom 0 Cursor.start text.toList

end StagedQuery
