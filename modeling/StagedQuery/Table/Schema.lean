import StagedQuery.Row

/-!
# Columns and schemas

## Main definitions

* `Presence` — whether a column must have a value, and whether it is the primary key.
* `Column` — a column with its label, its type, its presence and its default.
* `Schema` — the name of a table and its columns in order.
* `Column.text`, `Schema.text` — the written forms.
-/

namespace StagedQuery

/-- What a column asks of its values: nothing, a value in every row, or a value in every row as
the primary key. -/
inductive Presence where
  | optional
  | required
  | primary
deriving DecidableEq, Inhabited

namespace Presence

/-- The presence of two flags; a primary key is required whether or not that is said. -/
def ofFlags (primaryKey notNull : Bool) : Presence :=
  if primaryKey then primary else if notNull then required else optional

/-- Whether the column is the primary key. -/
def isPrimary (p : Presence) : Bool := p == primary

/-- Whether every row needs a value. -/
def isRequired (p : Presence) : Bool := p != optional

end Presence

/-- A column of a table. Its label is text except in tables read from a document. -/
structure Column where
  label : Value
  typeName : String
  presence : Presence
  defaultValue : Value
deriving Inhabited

namespace Column

/-- The written form of a column. -/
def text (c : Column) : String :=
  let rule := match c.presence with
    | .primary => " PRIMARY KEY"
    | .required => " NOT NULL"
    | .optional => ""
  let fallback := if c.defaultValue.isNull then "" else " DEFAULT " ++ c.defaultValue.literal
  c.label.display ++ " " ++ c.typeName ++ rule ++ fallback

/-- The inspected form of a column. -/
def inspect (c : Column) : String :=
  Value.recordText "ColumnDef"
    [("name", c.label.inspect), ("typ", Quoted.encode c.typeName),
      ("primary_key", Value.boolText c.presence.isPrimary),
      ("not_null", Value.boolText c.presence.isRequired), ("default", c.defaultValue.inspect)]

end Column

/-- The name of a table and its columns. -/
structure Schema where
  name : String
  columns : List Column
deriving Inhabited

namespace Schema

/-- The labels of the columns. -/
def labels (s : Schema) : List Value := s.columns.map Column.label

/-- The column with a label. A label that is not a number is equal to none. -/
def column? (s : Schema) (label : Value) : Option Column :=
  match label with
  | .float .nan => none
  | label => s.columns.find? (·.label.same label)

/-- Whether there is a column with a label. -/
def has (s : Schema) (label : Value) : Bool := (s.column? label).isSome

/-- The label of the primary key. -/
def primaryKey? (s : Schema) : Option Value :=
  (s.columns.find? (·.presence.isPrimary)).map Column.label

/-- The written form of a schema. -/
def text (s : Schema) : String :=
  s.name ++ " (" ++ Value.commaJoin (s.columns.map Column.text) ++ ")"

end Schema

end StagedQuery
