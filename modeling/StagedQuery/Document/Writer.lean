import StagedQuery.Document.Basic

/-!
# Document text

Documents as text in ASCII: every character from `U+007F` on is written by its UTF-16 code units.
A document is written on one line, or with one item a line and an indentation.

## Main definitions

* `Document.quoted` — text between double quotes.
* `Document.Layout` — on one line, or indented.
* `Document.write` — the text of a document.
-/

namespace StagedQuery.Document

/-! ## Text -/

/-- An escape by code unit. -/
def unitEscape (unit : Nat) : List Char := '\\' :: 'u' :: Quoted.hex 4 unit

/-- A character between double quotes. -/
def escapeChar (c : Char) : List Char :=
  if c = '\x22' then ['\\', '\x22']
  else if c = '\\' then ['\\', '\\']
  else if c = '\n' then ['\\', 'n']
  else if c = '\r' then ['\\', 'r']
  else if c = '\t' then ['\\', 't']
  else if c.toNat = 8 then ['\\', 'b']
  else if c.toNat = 12 then ['\\', 'f']
  else if 32 ≤ c.toNat ∧ c.toNat < 127 then [c]
  else if c.toNat < 0x10000 then unitEscape c.toNat
  else
    let n := c.toNat - 0x10000
    unitEscape (0xD800 + n / 0x400) ++ unitEscape (0xDC00 + n % 0x400)

/-- Text between double quotes. -/
def quoted (s : String) : String :=
  String.ofList ('\x22' :: (s.toList.flatMap escapeChar ++ ['\x22']))

/-- The text of a floating-point number. -/
def floatText : Binary64 → String
  | .nan => "NaN"
  | .infinite negative => if negative then "-Infinity" else "Infinity"
  | x => x.text

/-- The text of a truth value. -/
def boolText (b : Bool) : String := if b then "true" else "false"

/-! ## Layout -/

/-- On one line, or with an indentation per level. -/
inductive Layout where
  | oneLine
  | indented (width : Nat)
deriving DecidableEq

namespace Layout

/-- A new line at a level, nothing on one line. -/
def newLine (layout : Layout) (level : Nat) : String :=
  match layout with
  | oneLine => ""
  | indented width => String.ofList ('\n' :: List.replicate (width * level) ' ')

/-- What stands between two items. -/
def separator (layout : Layout) (level : Nat) : String :=
  match layout with
  | oneLine => ", "
  | indented _ => "," ++ layout.newLine level

/-- Items between brackets; brackets without items stay on one line. -/
def bracket (layout : Layout) (level : Nat) (left right : String) (items : List String) :
    String :=
  if items.isEmpty then left ++ right
  else left ++ layout.newLine (level + 1)
    ++ String.intercalate (layout.separator (level + 1)) items
    ++ layout.newLine level ++ right

end Layout

mutual

/-- The text of a document at a level. -/
def writeAt (layout : Layout) (level : Nat) : Document → String
  | null => "null"
  | bool b => boolText b
  | int n => intText n
  | float x => floatText x
  | text s => quoted s
  | list items => layout.bracket level "[" "]" (writeItems layout (level + 1) items)
  | object fields => layout.bracket level "\x7b" "\x7d" (writeFields layout (level + 1) fields)

/-- The texts of several documents at a level. -/
def writeItems (layout : Layout) (level : Nat) : List Document → List String
  | [] => []
  | d :: ds => writeAt layout level d :: writeItems layout level ds

/-- The texts of the fields of an object at a level. -/
def writeFields (layout : Layout) (level : Nat) : List (String × Document) → List String
  | [] => []
  | (key, d) :: fields =>
    (quoted key ++ ": " ++ writeAt layout level d) :: writeFields layout level fields

end

/-- The text of a document. -/
def write (layout : Layout) (d : Document) : String := writeAt layout 0 d

end StagedQuery.Document
