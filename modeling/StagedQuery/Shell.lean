import StagedQuery.Database

/-!
# The shell

The shell reads lines. A line that begins with a point is a command of the shell, unless a
statement is pending; all other lines are collected until they hold a semicolon outside quotes, and
then run.

## Main definitions

* `Shell` — a database, the pending text, and whether reports are shown.
* `Shell.feed` — what the shell prints for a line, and how it goes on.
* `Shell.filesOf` — the database files that the statements of a line read or write.
* `Shell.start` — the shell with the database of the file that is named at its start.
-/

namespace StagedQuery

/-- A database, the pending text, and whether the report on each run is shown. -/
structure Shell where
  database : Database
  pending : String
  tracing : Bool

/-- How the shell goes on: with the next line, not at all, or not at all because of a fault. -/
inductive Course where
  | more
  | leave
  | crashed (fault : Fault)

/-- What the shell prints, the shell after it, and how it goes on. -/
structure Turn where
  output : String
  shell : Shell
  course : Course

namespace Shell

/-- Lines, each with its end. -/
def lines (ls : List String) : String := String.join (ls.map (· ++ "\n"))

/-! ## Commands -/

/-- What the help command prints. -/
def helpText : String := lines
  ["Meta commands:",
    "  .help              show this help",
    "  .tables            list tables",
    "  .schema <table>    show table schema",
    "  .trace             toggle the dispatch report",
    "  .exit / .quit      exit",
    "",
    "SQL statements end with ';'. Example:",
    "  CREATE TABLE users (id INTEGER PRIMARY KEY, name TEXT NOT NULL, age INTEGER);",
    "  INSERT INTO users VALUES (1, 'Alice', 30), (2, 'Bob', NULL);",
    "  SELECT name FROM users WHERE age BETWEEN 25 AND 35 ORDER BY name;",
    "  SAVE DATABASE 'users';"]

/-- The names and sizes of the tables, in alphabetical order. -/
def tablesText (s : Store) : String :=
  let sorted := s.tables.mergeSort fun a b =>
    Value.compareText a.schema.name b.schema.name != .gt
  if sorted.isEmpty then lines ["(no tables)"]
  else lines (sorted.map fun t => t.schema.name ++ " (" ++ t.rows.length.repr ++ " rows)")

/-- The columns of a table. -/
def schemaText (s : Store) (table : String) : String :=
  match s.find? table with
  | none => lines ["Table '" ++ table ++ "' does not exist"]
  | some t => lines (("TABLE " ++ t.schema.name) :: t.schema.columns.map ("  - " ++ ·.text))

/-- What a command does; `parts` are the words of the line. -/
def command (s : Shell) (parts : List String) : Turn :=
  let name := lowercase (parts.headD "")
  if name = ".exit" ∨ name = ".quit" then ⟨"", s, .leave⟩
  else if name = ".help" then ⟨helpText, s, .more⟩
  else if name = ".tables" then ⟨tablesText s.database.store, s, .more⟩
  else if name = ".schema" then
    match parts with
    | [_, table] => ⟨schemaText s.database.store table, s, .more⟩
    | _ => ⟨lines ["Usage: .schema <table>"], s, .more⟩
  else if name = ".trace" then
    ⟨lines [if s.tracing then "trace off" else "trace on"],
      ⟨s.database, s.pending, !s.tracing⟩, .more⟩
  else ⟨lines ["Unknown command: " ++ name ++ ". Type .help"], s, .more⟩

/-! ## Statements -/

/-- What the shell prints for a report. -/
def reportText (tracing : Bool) (r : Report) : String :=
  lines ([r.text] ++ (if tracing then [r.summary []] else []) ++ [""])

/-- Runs statements in turn, after `printed` was printed. -/
def runAll (now printed : String) (s : Shell) : List String → Turn
  | [] => ⟨printed, s, .more⟩
  | sql :: rest =>
    match s.database.run now sql with
    | (.ok r, after) =>
      runAll now (printed ++ reportText s.tracing r) ⟨after, s.pending, s.tracing⟩ rest
    | (.error (.overrun limit), after) =>
      runAll now (printed ++ lines ["ERROR: " ++ overrunMessage limit])
        ⟨after, s.pending, s.tracing⟩ rest
    | (.error (.crashed fault), after) =>
      ⟨printed, ⟨after, s.pending, s.tracing⟩, .crashed fault⟩

/-- The text that is pending with a line added. -/
def pendingWith (s : Shell) (line : String) : String := s.pending ++ line ++ "\n"

/-- Whether a line is a command of the shell. -/
def isCommand (s : Shell) (line : String) : Bool :=
  s.pending.isEmpty && (stripBlanks line.toList).head? == some '.'

/-- What the shell prints for a line, and how it goes on. -/
def feed (now : String) (s : Shell) (line : String) : Turn :=
  if s.isCommand line then s.command (words line)
  else
    let text := s.pendingWith line
    if isComplete text then runAll now "" ⟨s.database, "", s.tracing⟩ (statementTexts text)
    else ⟨"", ⟨s.database, text, s.tracing⟩, .more⟩

/-- The database files that the statements of a line read or write. -/
def filesOf (s : Shell) (line : String) : List DiskPath :=
  if s.isCommand line || !isComplete (s.pendingWith line) then []
  else (statementTexts (s.pendingWith line)).filterMap s.database.fileOf?

/-! ## Sessions -/

/-- What the shell prints before a line. -/
def prompt (s : Shell) : String := if s.pending.isEmpty then "stagedb> " else "....> "

/-- What the shell prints at its start; the label says where its database is from. -/
def banner (label : String) : String :=
  lines ["StageDB REPL (" ++ label ++ ")", "Type .help for commands. End SQL with ';'."]

/-- What the shell prints when there are no more lines. -/
def farewell : String := lines [""]

/-- The shell on a database. -/
def on (db : Database) : Shell := ⟨db, "", false⟩

/-- The shell with the database of the file that is named at its start, if one is, and the label of
that database. -/
def start (disk : Disk) (settings : Settings) (file : Option String) :
    Except Failure (Shell × String) :=
  match file with
  | none => .ok (on (.empty disk settings), "memory")
  | some file => (Database.ofFile disk settings (.ofText file)).map fun db => (on db, file)

/-- Feeds lines to the shell, after `printed` was printed. -/
def feedAll (now printed : String) (s : Shell) : List String → Turn
  | [] => ⟨printed ++ s.prompt ++ farewell, s, .leave⟩
  | line :: rest =>
    let turn := s.feed now line
    let printed := printed ++ s.prompt ++ turn.output
    match turn.course with
    | .more => feedAll now printed turn.shell rest
    | course => ⟨printed, turn.shell, course⟩

end Shell

end StagedQuery
