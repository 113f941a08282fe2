import StagedQuery.Sql.Parser.Condition

/-!
# Reading statements

One production per kind of statement. Each reads a whole text: one statement, at most one
semicolon, and nothing else. Every error carries the grammar of the statement.

## Main definitions

* `readCreateTable`, `readDropTable`, `readInsert`, `readSelect`, `readUpdate`,
  `readDelete`, `readSave`, `readLoad` — the statement of each kind that a text holds.
* `readStatement` — the statement of a given kind.
-/

namespace StagedQuery

namespace Parser

/-! ## Tables -/

/-- The names of the column types. -/
def typeNames : List String := ["INTEGER", "TEXT", "REAL", "BLOB"]

/-- What has been read of a column. -/
structure ColumnDraft where
  typeName : Option String
  primaryKey : Bool
  notNull : Bool
  defaultValue : Value

/-- The type that a token names. -/
def columnType? (t : Token) : Option String :=
  if t.kind = .name then typeNames.find? (· == capitalize t.lexeme) else none

/-- At most `bound` parts of a column in any order: the type, `PRIMARY KEY`, `NOT NULL` and
`DEFAULT` with a value, the last of which counts. -/
def columnParts (column : String) : (bound : Nat) → ColumnDraft → Parser ColumnDraft
  | 0, draft => return draft
  | bound + 1, draft => do
    let t ← peek
    match columnType? t with
    | some typeName =>
      if draft.typeName.isSome then
        throw ⟨.severalTypes column, some t.place.position, some t.lexeme, none⟩
      else
        advance
        columnParts column bound ⟨some typeName, draft.primaryKey, draft.notNull,
          draft.defaultValue⟩
    | none =>
      if ← accept (.keyword .PRIMARY) then
        keyword .KEY ("KEY after PRIMARY in column '" ++ column ++ "'")
        columnParts column bound ⟨draft.typeName, true, draft.notNull, draft.defaultValue⟩
      else if ← accept (.keyword .NOT) then
        expect .null ("NULL after NOT in column '" ++ column ++ "'")
        columnParts column bound ⟨draft.typeName, draft.primaryKey, true, draft.defaultValue⟩
      else if ← accept (.keyword .DEFAULT) then
        let value ← literal
        columnParts column bound ⟨draft.typeName, draft.primaryKey, draft.notNull, value⟩
      else if t.kind = .mark .comma ∨ t.kind = .mark .closeParen then
        return draft
      else
        fail t (.unknownWord column)

/-- A column of a new table; its type is `TEXT` where none is named. -/
def column : Parser Column := do
  let columnName ← name "column name"
  let draft ← columnParts columnName (← get).length ⟨none, false, false, .null⟩
  return ⟨.text columnName, draft.typeName.getD "TEXT",
    Presence.ofFlags draft.primaryKey draft.notNull, draft.defaultValue⟩

/-- `CREATE TABLE`. -/
def createTable : Parser CreateTable := do
  keyword .CREATE "CREATE"
  keyword .TABLE "TABLE after CREATE"
  let ifNotExists ← accept (.keyword .IF)
  if ifNotExists then
    keyword .NOT "NOT after IF"
    keyword .EXISTS "EXISTS after IF NOT"
  let table ← name "table name"
  mark .openParen "'(' after table name"
  let columns ← separated column
  mark .closeParen "')' after column definitions"
  return ⟨table, columns, ifNotExists⟩

/-- `DROP TABLE`. -/
def dropTable : Parser DropTable := do
  keyword .DROP "DROP"
  keyword .TABLE "TABLE after DROP"
  let ifExists ← accept (.keyword .IF)
  if ifExists then
    keyword .EXISTS "EXISTS after IF"
  let table ← name "table name"
  return ⟨table, ifExists⟩

/-! ## Rows -/

/-- The values of one row. -/
def valueTuple : Parser (List Value) := do
  mark .openParen "'(' before values"
  let values ← separated literal
  mark .closeParen "')' after values"
  return values

/-- `INSERT`. -/
def insert : Parser Insert := do
  keyword .INSERT "INSERT"
  keyword .INTO "INTO after INSERT"
  let table ← name "table name"
  let columns ← if ← accept (.mark .openParen) then
      let names ← nameList
      mark .closeParen "')' after column list"
      pure (some names)
    else
      pure none
  keyword .VALUES "VALUES"
  let rows ← separated valueTuple
  return ⟨table, columns, rows⟩

/-- The order behind `ORDER BY`, if there is one. -/
def order : Parser (Option OrderBy) := do
  if ← accept (.keyword .ORDER) then
    keyword .BY "BY after ORDER"
    let column ← name "column name after ORDER BY"
    if ← accept (.keyword .DESC) then
      return some ⟨column, true⟩
    else
      let _ ← accept (.keyword .ASC)
      return some ⟨column, false⟩
  else
    return none

/-- The limit and the offset, if there are any. -/
def paging : Parser (Option Nat × Option Nat) := do
  if ← accept (.keyword .LIMIT) then
    let limit ← natural "integer after LIMIT"
    if ← accept (.keyword .OFFSET) then
      let offset ← natural "integer after OFFSET"
      return (some limit, some offset)
    else
      return (some limit, none)
  else
    return (none, none)

/-- `SELECT`. -/
def select (source : List Char) : Parser Select := do
  keyword .SELECT "SELECT"
  let distinct ← accept (.keyword .DISTINCT)
  let columns ← if ← accept (.mark .star) then pure [] else nameList
  keyword .FROM "FROM"
  let table ← name "table name"
  let condition ← optionalClause source
  let orderBy ← order
  let (limit, offset) ← paging
  return ⟨table, columns, condition, orderBy, limit, offset, distinct⟩

/-- One assignment of `UPDATE`. -/
def assignment : Parser (String × Value) := do
  let column ← name "column name in SET"
  expect (.relation .equal) ("'=' after '" ++ column ++ "' in SET")
  return (column, ← literal)

/-- `UPDATE`. -/
def update (source : List Char) : Parser Update := do
  keyword .UPDATE "UPDATE"
  let table ← name "table name"
  keyword .SET "SET"
  let assignments ← separated assignment
  let condition ← optionalClause source
  return ⟨table, assignments, condition⟩

/-- `DELETE`. -/
def delete (source : List Char) : Parser Delete := do
  keyword .DELETE "DELETE"
  keyword .FROM "FROM after DELETE"
  let table ← name "table name"
  let condition ← optionalClause source
  return ⟨table, condition⟩

/-! ## Files -/

/-- `SAVE DATABASE`. -/
def save : Parser String := do
  keyword .SAVE "SAVE"
  keyword .DATABASE "DATABASE after SAVE"
  quoted "quoted file name"

/-- `LOAD DATABASE`. -/
def load : Parser String := do
  keyword .LOAD "LOAD"
  keyword .DATABASE "DATABASE after LOAD"
  quoted "quoted file name"

/-- A production followed by the end of the text. -/
def whole {α : Type} (source : List Char) (production : Parser α) : Parser α := do
  let result ← production
  finish source
  return result

end Parser

/-! ## Whole texts -/

/-- Reads a whole text with the production of a kind of statement. -/
def readWith {α : Type} (kind : StatementKind) (production : List Char → Parser α)
    (text : String) : Except ReadError α :=
  match tokenize text with
  | .error (.malformed e) => .error (.malformed (e.inStatement kind))
  | .error (.tooManyDigits digits) => .error (.tooManyDigits digits)
  | .ok tokens =>
    match (Parser.whole text.toList (production text.toList)).run' tokens with
    | .ok result => .ok result
    | .error e => .error (.malformed (e.inStatement kind))

/-- The `CREATE TABLE` that a text holds. -/
def readCreateTable : String → Except ReadError CreateTable :=
  readWith .createTable fun _ => Parser.createTable

/-- The `DROP TABLE` that a text holds. -/
def readDropTable : String → Except ReadError DropTable :=
  readWith .dropTable fun _ => Parser.dropTable

/-- The `INSERT` that a text holds. -/
def readInsert : String → Except ReadError Insert := readWith .insert fun _ => Parser.insert

/-- The `SELECT` that a text holds. -/
def readSelect : String → Except ReadError Select := readWith .select Parser.select

/-- The `UPDATE` that a text holds. -/
def readUpdate : String → Except ReadError Update := readWith .update Parser.update

/-- The `DELETE` that a text holds. -/
def readDelete : String → Except ReadError Delete := readWith .delete Parser.delete

/-- The path of the `SAVE DATABASE` that a text holds. -/
def readSave : String → Except ReadError String := readWith .save fun _ => Parser.save

/-- The path of the `LOAD DATABASE` that a text holds. -/
def readLoad : String → Except ReadError String := readWith .load fun _ => Parser.load

/-- The statement of a kind that a text holds. -/
def readStatement (kind : StatementKind) (text : String) : Except ReadError Statement :=
  match kind with
  | .createTable => (readCreateTable text).map .createTable
  | .dropTable => (readDropTable text).map .dropTable
  | .insert => (readInsert text).map .insert
  | .select => (readSelect text).map .select
  | .update => (readUpdate text).map .update
  | .delete => (readDelete text).map .delete
  | .save => (readSave text).map .save
  | .load => (readLoad text).map .load

end StagedQuery
