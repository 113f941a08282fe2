import StagedQuery.Document.Basic
import StagedQuery.Number.Decimal

/-!
# Reading documents

Documents from text. Besides the standard notation the words `NaN`, `Infinity` and `-Infinity` are
read. Where a key occurs twice in an object, the first occurrence gives the place and the last one
the content. An integer of more than `integerDigitLimit` digits is refused. Text consists of
characters here, so a surrogate that stands alone is read as the replacement character, and a
document may be nested to any depth.

## Main definitions

* `Document.read?` — the document that a text holds.
-/

namespace StagedQuery.Document

/-! ## Text -/

/-- The value of a hexadecimal digit. -/
def hexValue? (c : Char) : Option Nat :=
  if isDigit c then some (digitValue c)
  else if 'a' ≤ c ∧ c ≤ 'f' then some (c.toNat - 'a'.toNat + 10)
  else if 'A' ≤ c ∧ c ≤ 'F' then some (c.toNat - 'A'.toNat + 10)
  else none

/-- The number of four hexadecimal digits. -/
def hexUnit? (a b c d : Char) : Option Nat := do
  let a ← hexValue? a
  let b ← hexValue? b
  let c ← hexValue? c
  let d ← hexValue? d
  return ((a * 16 + b) * 16 + c) * 16 + d

/-- The character of an escape with one letter. -/
def shortEscape? (c : Char) : Option Nat :=
  if c = '\x22' ∨ c = '\\' ∨ c = '/' then some c.toNat
  else if c = 'b' then some 8
  else if c = 'f' then some 12
  else if c = 'n' then some 10
  else if c = 'r' then some 13
  else if c = 't' then some 9
  else none

/-- The code units up to a closing quote, and what follows it. Control characters are refused. -/
def scanUnits : List Char → Option (List Nat × List Char)
  | '\\' :: 'u' :: a :: b :: c :: d :: rest => do
    let unit ← hexUnit? a b c d
    let (units, after) ← scanUnits rest
    return (unit :: units, after)
  | '\\' :: c :: rest => do
    let unit ← shortEscape? c
    let (units, after) ← scanUnits rest
    return (unit :: units, after)
  | c :: rest =>
    if c = '\x22' then some ([], rest)
    else if c = '\\' ∨ c.toNat < 32 then none
    else do
      let (units, after) ← scanUnits rest
      return (c.toNat :: units, after)
  | [] => none

/-- Characters from code units: a high surrogate joins the low surrogate behind it. A surrogate
that stands alone denotes no character and is replaced by `U+FFFD`. -/
def joinUnits : List Nat → List Char
  | [] => []
  | [n] => [if 0xD800 ≤ n ∧ n < 0xE000 then Char.ofNat 0xFFFD else Char.ofNat n]
  | high :: low :: rest =>
    if 0xD800 ≤ high ∧ high < 0xDC00 ∧ 0xDC00 ≤ low ∧ low < 0xE000 then
      Char.ofNat (0x10000 + (high - 0xD800) * 0x400 + (low - 0xDC00)) :: joinUnits rest
    else
      (if 0xD800 ≤ high ∧ high < 0xE000 then Char.ofNat 0xFFFD else Char.ofNat high)
        :: joinUnits (low :: rest)

/-- The text up to a closing quote, and what follows it. -/
def scanText (cs : List Char) : Option (String × List Char) :=
  (scanUnits cs).map fun r => (String.ofList (joinUnits r.1), r.2)

/-! ## Numbers -/

/-- What follows a word at the front of a text. -/
def after? (word : String) (cs : List Char) : Option (List Char) :=
  if word.toList.isPrefixOf cs then some (cs.drop word.length) else none

/-- The digits before the point: a zero alone, or digits that do not begin with zero. -/
def scanWhole : List Char → Option (List Char × List Char)
  | c :: rest =>
    if c = '0' then some (['0'], rest)
    else if isDigit c then some (c :: rest.takeWhile isDigit, rest.dropWhile isDigit)
    else none
  | [] => none

/-- The digits after a point, which belongs to the number only if a digit follows it. -/
def scanFraction : List Char → Option (List Char) × List Char
  | '.' :: d :: rest =>
    if isDigit d then (some (d :: rest.takeWhile isDigit), rest.dropWhile isDigit)
    else (none, '.' :: d :: rest)
  | rest => (none, rest)

/-- A number without its sign, and what follows it. -/
def scanUnsigned (negative : Bool) (cs : List Char) : Option (Document × List Char) := do
  let (whole, rest) ← scanWhole cs
  let (fraction, rest) := scanFraction rest
  let (power, rest) := Notation.scanPower rest
  let parts : Notation := ⟨whole, fraction, power⟩
  if parts.isWhole then
    if integerDigitLimit < whole.length then none
    else
      let n : Int := natOfDigits whole
      some (.int (if negative then -n else n), rest)
  else some (.float (Binary64.ofDecimal negative parts.value), rest)

/-- A number or one of the words for a constant, and what follows it. -/
def scanAtom (cs : List Char) : Option (Document × List Char) :=
  match after? "null" cs, after? "true" cs, after? "false" cs with
  | some rest, _, _ => some (null, rest)
  | _, some rest, _ => some (bool true, rest)
  | _, _, some rest => some (bool false, rest)
  | _, _, _ =>
    match after? "NaN" cs, after? "Infinity" cs, after? "-Infinity" cs with
    | some rest, _, _ => some (float .nan, rest)
    | _, some rest, _ => some (float (.infinite false), rest)
    | _, _, some rest => some (float (.infinite true), rest)
    | _, _, _ =>
      match cs with
      | '-' :: rest => scanUnsigned true rest
      | cs => scanUnsigned false cs

/-! ## Structure -/

/-- The characters that may stand between the parts of a document. -/
def isSpace (c : Char) : Bool := c == ' ' || c == '\t' || c == '\n' || c == '\r'

/-- A text without the spaces at its front. -/
def skipSpace (cs : List Char) : List Char := cs.dropWhile isSpace

mutual

/-- A document and what follows it. Each step of the recursion takes one unit of `fuel`; twice
the number of characters is enough, since no two steps in a row take no character. -/
def scan : (fuel : Nat) → List Char → Option (Document × List Char)
  | 0, _ => none
  | fuel + 1, cs =>
    match cs with
    | '\x22' :: rest => (scanText rest).map fun r => (text r.1, r.2)
    | '[' :: rest =>
      match skipSpace rest with
      | ']' :: rest => some (list [], rest)
      | rest => (scanItems fuel rest).map fun r => (list r.1, r.2)
    | '\x7b' :: rest =>
      match skipSpace rest with
      | '\x7d' :: rest => some (object [], rest)
      | rest => (scanFields fuel [] rest).map fun r => (object r.1, r.2)
    | cs => scanAtom cs

/-- The items of a list through its closing bracket, and what follows it. -/
def scanItems : (fuel : Nat) → List Char → Option (List Document × List Char)
  | 0, _ => none
  | fuel + 1, cs =>
    match scan fuel cs with
    | none => none
    | some (item, rest) =>
      match skipSpace rest with
      | ',' :: rest => (scanItems fuel (skipSpace rest)).map fun r => (item :: r.1, r.2)
      | ']' :: rest => some ([item], rest)
      | _ => none

/-- The fields of an object through its closing brace, and what follows it; `before` holds the
fields that were read already. -/
def scanFields : (fuel : Nat) → List (String × Document) → List Char →
    Option (List (String × Document) × List Char)
  | 0, _, _ => none
  | fuel + 1, before, cs =>
    match cs with
    | '\x22' :: rest =>
      match scanText rest with
      | none => none
      | some (key, rest) =>
        match skipSpace rest with
        | ':' :: rest =>
          match scan fuel (skipSpace rest) with
          | none => none
          | some (d, rest) =>
            let fields := putField before key d
            match skipSpace rest with
            | ',' :: rest => scanFields fuel fields (skipSpace rest)
            | '\x7d' :: rest => some (fields, rest)
            | _ => none
        | _ => none
    | _ => none

end

/-- The document that a text holds, spaces around it apart. -/
def read? (s : String) : Option Document :=
  let cs := s.toList
  match scan (2 * cs.length + 2) (skipSpace cs) with
  | some (d, rest) => if (skipSpace rest).isEmpty then some d else none
  | none => none

end StagedQuery.Document
