import StagedQuery.Number.Shortest
import StagedQuery.Text.Quoted

/-!
# Values

The values that cells, literals and documents hold, and their two text forms: the *display* form,
in which text stands for itself, and the *inspected* form, in which text is quoted.

## Main definitions

* `Value` — the values. Statements produce `null`, integers, floating-point numbers and text;
  documents add truth values, lists and objects; conditions add ranges and tuples.
* `Value.inspect`, `Value.display` — the two text forms.
* `Value.literal` — the form of a value inside a condition or a column definition.
-/

namespace StagedQuery

/-- A value of a cell, a literal, a document or the operand of a condition. -/
inductive Value where
  | null
  | bool (b : Bool)
  | int (n : Int)
  | float (x : Binary64)
  | text (s : String)
  | list (items : List Value)
  | object (fields : List (String × Value))
  | range (low high : Value)
  | tuple (items : List Value)
deriving Inhabited

namespace Value

/-- Whether a value is `null`. -/
def isNull : Value → Bool
  | null => true
  | _ => false

/-! ## Text forms -/

/-- Texts joined by commas. -/
def commaJoin (items : List String) : String := String.intercalate ", " items

/-- A sequence in parentheses; a single item is followed by a comma. -/
def parenthesized (items : List String) : String :=
  match items with
  | [item] => "(" ++ item ++ ",)"
  | items => "(" ++ commaJoin items ++ ")"

/-- A named record with its fields. -/
def recordText (name : String) (fields : List (String × String)) : String :=
  name ++ "(" ++ commaJoin (fields.map fun f => f.1 ++ "=" ++ f.2) ++ ")"

/-- The text of a truth value. -/
def boolText (b : Bool) : String := if b then "True" else "False"

mutual

/-- The inspected form of a value. -/
def inspect : Value → String
  | null => "None"
  | bool b => boolText b
  | int n => intText n
  | float x => x.text
  | text s => Quoted.encode s
  | list items => "[" ++ commaJoin (inspectAll items) ++ "]"
  | object fields => "\x7b" ++ commaJoin (inspectFields fields) ++ "\x7d"
  | range low high => recordText "Range" [("low", low.inspect), ("high", high.inspect)]
  | tuple items => parenthesized (inspectAll items)

/-- The inspected forms of several values. -/
def inspectAll : List Value → List String
  | [] => []
  | v :: vs => v.inspect :: inspectAll vs

/-- The inspected forms of the fields of an object. -/
def inspectFields : List (String × Value) → List String
  | [] => []
  | (key, v) :: fields => (Quoted.encode key ++ ": " ++ v.inspect) :: inspectFields fields

end

/-- The display form of a value. -/
def display : Value → String
  | text s => s
  | v => v.inspect

/-- Text between single quotes, with every single quote inside written twice. -/
def quotedLiteral (s : String) : String :=
  "'" ++ String.ofList (s.toList.flatMap fun c => if c = '\x27' then ['\x27', '\x27'] else [c]) ++ "'"

/-- The form of a value inside a condition or a column definition. -/
def literal : Value → String
  | null => "NULL"
  | text s => quotedLiteral s
  | v => v.inspect

/-! ## Kinds -/

/-- The name of the kind of a value. -/
def kindName : Value → String
  | null => "NoneType"
  | bool _ => "bool"
  | int _ => "int"
  | float _ => "float"
  | text _ => "str"
  | list _ => "list"
  | object _ => "dict"
  | range _ _ => "Range"
  | tuple _ => "tuple"

/-- Whether a value counts as true where a document gives a flag: `null`, zero and everything
empty count as false. -/
def truthy : Value → Bool
  | null => false
  | bool b => b
  | int n => n != 0
  | float x => !x.isZero
  | text s => !s.isEmpty
  | list items => !items.isEmpty
  | object fields => !fields.isEmpty
  | range _ _ => true
  | tuple items => !items.isEmpty

end Value

end StagedQuery
