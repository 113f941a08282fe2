import StagedQuery.Table.Schema
import StagedQuery.Predicate.Basic

/-!
# Statements

What a statement asks for, once its text is read.

## Main definitions

* `StatementKind` — the eight kinds, each with its label and its grammar.
* `CreateTable`, `DropTable`, `Insert`, `Select`, `Update`, `Delete` — the statements with parts.
* `Statement` — any statement.
* `Statement.inspect` — the inspected form, with all parts in the order of their declaration.
-/

namespace StagedQuery

/-! ## Kinds -/

/-- The kinds of statements. -/
inductive StatementKind where
  | createTable
  | dropTable
  | insert
  | select
  | update
  | delete
  | save
  | load
deriving DecidableEq

namespace StatementKind

/-- The words that name a kind. -/
def label : StatementKind → String
  | createTable => "CREATE TABLE"
  | dropTable => "DROP TABLE"
  | insert => "INSERT"
  | select => "SELECT"
  | update => "UPDATE"
  | delete => "DELETE"
  | save => "SAVE DATABASE"
  | load => "LOAD DATABASE"

/-- The grammar of a kind, as shown with an error. -/
def grammar : StatementKind → String
  | createTable =>
    "CREATE TABLE [IF NOT EXISTS] name (column [TYPE] [PRIMARY KEY] [NOT NULL] [DEFAULT value], ...)"
  | dropTable => "DROP TABLE [IF EXISTS] name"
  | insert => "INSERT INTO name [(column, ...)] VALUES (value, ...) [, (value, ...) ...]"
  | select => "SELECT [DISTINCT] columns|* FROM name [WHERE condition] "
      ++ "[ORDER BY column [ASC|DESC]] [LIMIT n [OFFSET m]]"
  | update => "UPDATE name SET column = value [, ...] [WHERE condition]"
  | delete => "DELETE FROM name [WHERE condition]"
  | save => "SAVE DATABASE 'path'"
  | load => "LOAD DATABASE 'path'"

/-- The name of a statement of a kind, in inspected forms and where units are labelled. -/
def name : StatementKind → String
  | createTable => "CreateTable"
  | dropTable => "DropTable"
  | insert => "Insert"
  | select => "Select"
  | update => "Update"
  | delete => "Delete"
  | save => "SaveDatabase"
  | load => "LoadDatabase"

end StatementKind

/-! ## Statements -/

/-- `CREATE TABLE`. -/
structure CreateTable where
  table : String
  columns : List Column
  ifNotExists : Bool

/-- `DROP TABLE`. -/
structure DropTable where
  table : String
  ifExists : Bool

/-- `INSERT`, with one list of values per row; without a column list each row gives all
columns. -/
structure Insert where
  table : String
  columns : Option (List String)
  rows : List (List Value)

/-- `ORDER BY` one column. -/
structure OrderBy where
  column : String
  descending : Bool
deriving DecidableEq

/-- `SELECT`. An empty list of columns asks for all of them. -/
structure Select where
  table : String
  columns : List String
  condition : Option Predicate
  orderBy : Option OrderBy
  limit : Option Nat
  offset : Option Nat
  distinct : Bool
deriving Inhabited

/-- Whether a `SELECT` asks for all columns. -/
def Select.selectsAll (s : Select) : Bool := s.columns.isEmpty

/-- `UPDATE`, with its assignments in order. -/
structure Update where
  table : String
  assignments : List (String × Value)
  condition : Option Predicate

/-- `DELETE`. -/
structure Delete where
  table : String
  condition : Option Predicate

/-- A statement. -/
inductive Statement where
  | createTable (s : CreateTable)
  | dropTable (s : DropTable)
  | insert (s : Insert)
  | select (s : Select)
  | update (s : Update)
  | delete (s : Delete)
  | save (path : String)
  | load (path : String)

/-! ## Inspected forms -/

/-- The inspected form of a part that may be absent. -/
def inspectOption {α : Type} (inspect : α → String) : Option α → String
  | some a => inspect a
  | none => "None"

/-- The inspected form of a list of names. -/
def inspectNames (names : List String) : String :=
  Value.parenthesized (names.map Quoted.encode)

/-- The inspected form of an order. -/
def OrderBy.inspect (o : OrderBy) : String :=
  Value.recordText "OrderBy"
    [("column", Quoted.encode o.column), ("descending", Value.boolText o.descending)]

/-- The inspected form of a `SELECT`. -/
def Select.inspect (s : Select) : String :=
  Value.recordText "Select"
    [("table_name", Quoted.encode s.table), ("columns", inspectNames s.columns),
      ("where", inspectOption Predicate.inspect s.condition),
      ("order_by", inspectOption OrderBy.inspect s.orderBy),
      ("limit", inspectOption Nat.repr s.limit), ("offset", inspectOption Nat.repr s.offset),
      ("distinct", Value.boolText s.distinct)]

namespace Statement

/-- The kind of a statement. -/
def kind : Statement → StatementKind
  | createTable _ => .createTable
  | dropTable _ => .dropTable
  | insert _ => .insert
  | select _ => .select
  | update _ => .update
  | delete _ => .delete
  | save _ => .save
  | load _ => .load

/-- The inspected form of a statement. -/
def inspect : Statement → String
  | createTable s =>
    Value.recordText "CreateTable"
      [("table_name", Quoted.encode s.table),
        ("columns", Value.parenthesized (s.columns.map Column.inspect)),
        ("if_not_exists", Value.boolText s.ifNotExists)]
  | dropTable s =>
    Value.recordText "DropTable"
      [("table_name", Quoted.encode s.table), ("if_exists", Value.boolText s.ifExists)]
  | insert s =>
    Value.recordText "Insert"
      [("table_name", Quoted.encode s.table), ("columns", inspectOption inspectNames s.columns),
        ("rows", Value.parenthesized
          (s.rows.map fun values => Value.parenthesized (values.map Value.inspect)))]
  | select s => s.inspect
  | update s =>
    Value.recordText "Update"
      [("table_name", Quoted.encode s.table),
        ("assignments", Value.parenthesized
          (s.assignments.map fun a => Value.parenthesized [Quoted.encode a.1, a.2.inspect])),
        ("where", inspectOption Predicate.inspect s.condition)]
  | delete s =>
    Value.recordText "Delete"
      [("table_name", Quoted.encode s.table),
        ("where", inspectOption Predicate.inspect s.condition)]
  | save path => Value.recordText "SaveDatabase" [("path", Quoted.encode path)]
  | load path => Value.recordText "LoadDatabase" [("path", Quoted.encode path)]

end Statement

end StagedQuery
