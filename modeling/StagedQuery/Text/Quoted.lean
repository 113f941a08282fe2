import StagedQuery.Text.CharTable
import StagedQuery.Text.Quoted.Table

/-!
# Quoted text

The quoted form of a text for diagnostics: single quotes, or double quotes around a text that has
a single quote and no double quote, with escapes for the quote in use, the backslash and every
character without a printed form.

## Main definitions

* `Quoted.encode` — the quoted form of a text.
-/

namespace StagedQuery.Quoted

/-- Whether a character has a printed form. -/
def isPrinted (c : Char) : Bool :=
  if c.toNat < 128 then decide (32 ≤ c.toNat) && decide (c.toNat < 127)
  else !CharTable.mem hiddenRanges c.toNat

/-- One hexadecimal digit in small letters. -/
def hexDigit (n : Nat) : Char := (Nat.digitChar (n % 16))

/-- The `width` last hexadecimal digits of a number. -/
def hex : (width : Nat) → Nat → List Char
  | 0, _ => []
  | width + 1, n => hex width (n / 16) ++ [hexDigit n]

/-- The escape of a character by its code point, in the shortest of three widths. -/
def escapeCode (n : Nat) : List Char :=
  if n < 0x100 then '\\' :: 'x' :: hex 2 n
  else if n < 0x10000 then '\\' :: 'u' :: hex 4 n
  else '\\' :: 'U' :: hex 8 n

/-- A character inside the quotes `quote`. -/
def encodeChar (quote c : Char) : List Char :=
  if c = quote ∨ c = '\\' then ['\\', c]
  else if c = '\t' then ['\\', 't']
  else if c = '\n' then ['\\', 'n']
  else if c = '\r' then ['\\', 'r']
  else if isPrinted c then [c]
  else escapeCode c.toNat

/-- The quote that surrounds a text. -/
def quoteFor (cs : List Char) : Char :=
  if cs.contains '\x27' && !cs.contains '\x22' then '\x22' else '\x27'

/-- The quoted form of a text. -/
def encode (s : String) : String :=
  let quote := quoteFor s.toList
  String.ofList (quote :: (s.toList.flatMap (encodeChar quote) ++ [quote]))

end StagedQuery.Quoted
