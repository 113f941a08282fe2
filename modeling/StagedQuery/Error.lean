import StagedQuery.Sql.SyntaxError

/-!
# Errors and failures

A statement can fail in two ways. An *error* is about the statement, the tables or the files, and
has a message for whoever wrote the statement. A *fault* is a limit of the engine that no message
is written for: it ends the run in which it arises.

## Main definitions

* `StatementError`, `ConstraintError`, `FileError` — errors in executing a statement, in the
  rules of a table, and about database files.
* `EngineError` — all errors; `EngineError.message` is their text.
* `PathRefusal` — why the system refuses to look up a path.
* `Fault` — the faults; `Fault.message` describes them.
* `Failure` — an error or a fault.
-/

namespace StagedQuery

/-! ## Errors -/

/-- A statement that cannot be executed. -/
inductive StatementError where
  | noSuchTable (table : String)
  | tableExists (table : String)
  | noSuchColumn (label : Value) (table : String)
  | noSuchOrderColumn (column : String)
  | noColumns (table : String)
  | repeatedColumn (label : Value) (table : String)
  | unsupportedType (typeName : String)
  | repeatedInsertColumn
  | schemaLength (row : Option Nat) (table : String) (columns values : Nat)
  | listLength (row : Option Nat) (columns values : Nat)

namespace StatementError

/-- The place of a row among several, by its number. -/
def rowPlace : Option Nat → String
  | some n => " (row " ++ n.repr ++ ")"
  | none => ""

/-- The message of a statement error. -/
def message : StatementError → String
  | noSuchTable table => "Table '" ++ table ++ "' does not exist"
  | tableExists table => "Table '" ++ table ++ "' already exists"
  | noSuchColumn label table =>
    "Column '" ++ label.display ++ "' does not exist in table '" ++ table ++ "'"
  | noSuchOrderColumn column => "ORDER BY column '" ++ column ++ "' does not exist"
  | noColumns table => "Table '" ++ table ++ "' must have at least one column"
  | repeatedColumn label table =>
    "Duplicate column name '" ++ label.display ++ "' in table '" ++ table ++ "'"
  | unsupportedType typeName => "Unsupported type: " ++ typeName
  | repeatedInsertColumn => "Duplicate column in INSERT column list"
  | schemaLength row table columns values =>
    "Column count mismatch" ++ rowPlace row ++ ". Table '" ++ table ++ "' has " ++ columns.repr
      ++ " columns, but INSERT provides " ++ values.repr ++ " values"
  | listLength row columns values =>
    "Column count mismatch" ++ rowPlace row ++ ". " ++ columns.repr ++ " columns named, but "
      ++ values.repr ++ " values given"

end StatementError

/-- A rule of a table that is not kept. -/
inductive ConstraintError where
  | severalPrimaryKeys
  | missingValue (label : Value)

/-- The message of a constraint error. -/
def ConstraintError.message : ConstraintError → String
  | severalPrimaryKeys => "Table can have only one PRIMARY KEY"
  | missingValue label => "Column '" ++ label.display ++ "' cannot be NULL"

/-- Why a document does not describe tables. -/
inductive ShapeMismatch where
  | missingField (field : String)
  | fieldOfScalar (kind : String)
  | fieldOfText
  | fieldOfList
  | noItems (kind : String)
  | noMember (kind memberName : String)
  | unhashable (kind : String)
deriving DecidableEq

/-- The message of a mismatch. -/
def ShapeMismatch.message : ShapeMismatch → String
  | missingField field => Quoted.encode field
  | fieldOfScalar kind => "'" ++ kind ++ "' object is not subscriptable"
  | fieldOfText => "string indices must be integers, not 'str'"
  | fieldOfList => "list indices must be integers or slices, not str"
  | noItems kind => "'" ++ kind ++ "' object is not iterable"
  | noMember kind memberName => "'" ++ kind ++ "' object has no attribute '" ++ memberName ++ "'"
  | unhashable kind => "unhashable type: '" ++ kind ++ "'"

/-- A database file that cannot be written, read or understood. -/
inductive FileError where
  | unwritable (path : String)
  | notFound (path : String)
  | unreadable (path : String)
  | unknownVersion
  | malformed (mismatch : ShapeMismatch)
deriving DecidableEq

/-- The message of a file error. -/
def FileError.message : FileError → String
  | unwritable path => "Failed to write to file: " ++ path
  | notFound path => "Database file not found: " ++ path
  | unreadable path => "Failed to parse database file: " ++ path
  | unknownVersion => "Incompatible database format version"
  | malformed mismatch => "Malformed database file: " ++ mismatch.message

/-- An error with a message for whoever wrote the statement. -/
inductive EngineError where
  | malformed (e : SyntaxError)
  | statement (e : StatementError)
  | constraint (e : ConstraintError)
  | file (e : FileError)

/-- The message of an error. -/
def EngineError.message : EngineError → String
  | malformed e => e.message
  | statement e => e.message
  | constraint e => e.message
  | file e => e.message

/-! ## Faults -/

/-- Why the system refuses to look up a path: the path or a name in it is too long, or it is not
allowed to look up names in a folder on the way. -/
inductive PathRefusal where
  | tooLong
  | denied
deriving DecidableEq

/-- The message of a refusal. -/
def PathRefusal.message : PathRefusal → String
  | tooLong => "File name too long"
  | denied => "Permission denied"

/-- A limit of the engine: an integer with too many digits, a path without a final name, a path
with a null character, a path that the system refuses to look up, a label or a distinct value that
cannot be a key, a header whose labels are not all text, and a value that a file cannot hold. -/
inductive Fault where
  | tooManyDigits (digits : Nat)
  | namelessPath (path : String)
  | nullCharacter
  | refused (why : PathRefusal) (path : String)
  | unhashable (kind : String)
  | labelNotText (label : Value)
  | notStorable

/-- The message of a fault. -/
def Fault.message : Fault → String
  | tooManyDigits digits => "an integer of " ++ digits.repr ++ " digits is too long"
  | namelessPath path => "the path '" ++ path ++ "' has no final name"
  | nullCharacter => "a path holds a null character"
  | refused why path => "the path '" ++ path ++ "' is refused: " ++ why.message
  | unhashable kind => "a value of kind '" ++ kind ++ "' cannot be a key"
  | labelNotText label => "the label " ++ label.inspect ++ " is not text"
  | notStorable => "a value cannot be stored in a file"

/-- An error or a fault. -/
inductive Failure where
  | error (e : EngineError)
  | fault (f : Fault)

namespace Failure

/-- The failure of a text that cannot be read. -/
def ofReadError : ReadError → Failure
  | .malformed e => error (.malformed e)
  | .tooManyDigits digits => fault (.tooManyDigits digits)

/-- The failure of a statement that cannot be executed. -/
def statement (e : StatementError) : Failure := error (.statement e)

/-- The failure of a statement that breaks a rule of a table. -/
def constraint (e : ConstraintError) : Failure := error (.constraint e)

/-- The failure about a database file. -/
def file (e : FileError) : Failure := error (.file e)

end Failure

end StagedQuery
