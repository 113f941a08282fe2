import StagedQuery.Pipeline.Standard
import StagedQuery.Settings
import StagedQuery.Sql.Script

/-!
# Databases

A database is a store with the disk that it is saved to, under settings. Each statement runs in the
standard pipeline and gives one text.

## Main definitions

* `Database` — a session with settings and the number of the next run.
* `Database.ofFile` — the database that is saved in a file, an empty one if there is no such file.
* `Database.run`, `Database.execute`, `Database.executeScript` — one statement with the report on
  its run, one statement with its text, and the statements of a script.
* `Database.save` — the database saved in a file.
* `Database.fileOf?` — the file that a statement reads or writes.
-/

namespace StagedQuery

/-- A store and a disk under settings, with the number of the next run. -/
structure Database where
  session : Session
  settings : Settings
  nextRun : Nat

/-- What ends a run without a report: more jobs than the budget allows, or a fault. -/
inductive Abort where
  | overrun (limit : Int)
  | crashed (fault : Fault)

namespace Database

/-- The database without tables. -/
def empty (disk : Disk) (settings : Settings) : Database := ⟨⟨.empty, disk⟩, settings, 0⟩

/-- The store of a database. -/
def store (db : Database) : Store := db.session.store

/-- The disk of a database. -/
def disk (db : Database) : Disk := db.session.disk

/-- The database with a store in the place of its own. -/
def withStore (db : Database) (store : Store) : Database :=
  ⟨⟨store, db.disk⟩, db.settings, db.nextRun⟩

/-- The database with a disk in the place of its own. -/
def withDisk (db : Database) (disk : Disk) : Database :=
  ⟨⟨db.store, disk⟩, db.settings, db.nextRun⟩

/-! ## Files -/

/-- The database that is saved in a file, an empty one if there is no such file. -/
def ofFile (disk : Disk) (settings : Settings) (path : DiskPath) : Except Failure Database := do
  let file ← (path.resolve (some settings.folder)).mapError .fault
  let store ← match ← disk.findFile file with
    | some _ => disk.load file
    | none => pure .empty
  return ⟨⟨store, disk⟩, settings, 0⟩

/-- The database saved in a file, and the path of that file. -/
def save (db : Database) (now : String) (path : DiskPath) :
    Except Failure (Database × DiskPath) := do
  let file ← (path.resolve (some db.settings.folder)).mapError .fault
  let (disk, file) ← db.disk.save db.store now file
  return (db.withDisk disk, file)

/-- The database file that a statement reads or writes. -/
def fileOf? (db : Database) (sql : String) : Option DiskPath :=
  let path? := fun kind parse =>
    if StatementKind.opens kind sql then (Except.toOption (parse sql)) else none
  match path? .save readSave <|> path? .load readLoad with
  | some path => ((DiskPath.ofText path).resolve (some db.settings.folder)).toOption
  | none => none

/-! ## Statements -/

/-- The standard pipeline under the settings of a database. -/
def pipeline (db : Database) (now : String) : Pipeline Session Fault :=
  ⟨standardStages ⟨some db.settings.folder, now⟩, db.settings.budget, db.settings.traceLevel,
    db.settings.explains⟩

/-- The worklist with the text of one statement. -/
def worklist (db : Database) (sql : String) : Worklist Session :=
  (⟨[], db.session, db.nextRun⟩ : Worklist Session).submit (.text (strip sql))

/-- Runs one statement, and gives the report on the run or what ended it without one. -/
def run (db : Database) (now sql : String) : Except Abort Report × Database :=
  let (ending, after) := (db.pipeline now).run (db.worklist sql)
  let result : Except Abort Report := match ending with
    | .report r => .ok r
    | .overrun limit => .error (.overrun limit)
    | .crashed fault => .error (.crashed fault)
  (result, ⟨after.state, db.settings, after.run⟩)

/-- Executes one statement, and gives its text. -/
def execute (db : Database) (now sql : String) : Except Abort String × Database :=
  let (result, after) := db.run now sql
  (result.map Report.text, after)

/-- Executes statements in turn, and gives their texts. A statement that fails does not stop those
after it; a run that ends without a report does. -/
def executeAll (db : Database) (now : String) :
    List String → Except Abort (List String) × Database
  | [] => (.ok [], db)
  | sql :: rest =>
    match db.execute now sql with
    | (.error abort, after) => (.error abort, after)
    | (.ok text, after) =>
      let (texts, after) := executeAll after now rest
      (texts.map (text :: ·), after)

/-- Executes the statements of a script. -/
def executeScript (db : Database) (now script : String) : Except Abort (List String) × Database :=
  db.executeAll now (statementTexts script)

end Database

end StagedQuery
