import StagedQuery.Dispatch.Pipeline
import StagedQuery.Pipeline.Routing
import StagedQuery.Query.Listing
import StagedQuery.Query.Scan
import StagedQuery.Sql.Parser.Statement
import StagedQuery.Storage.DatabaseFile
import StagedQuery.Store.Execution

/-!
# The standard pipeline

The stages that answer a statement: its text is read, the statement is executed, the rows of a
`SELECT` go through the operators that it asks for and become a listing, and the outcome is
captured.

## Main definitions

* `Session` — what the stages work on: the store and the disk.
* `Surroundings` — the folder for relative paths, and the time.
* `Advance` — the session that a stage leaves, and the payload that goes on or the failure.
* `Statement.perform` — what executing a statement gives.
* `standardStages` — the stages in order.

## Design

Every stage but the last one is a function that leaves a session, and gives one payload or fails.
The session is kept apart from the failure, since a stage may have changed it before it failed.
-/

namespace StagedQuery

/-- What the stages work on. -/
structure Session where
  store : Store
  disk : Disk

/-- The folder from which relative paths are taken, and the time at which a statement runs. -/
structure Surroundings where
  folder : Option DiskPath
  now : String

/-! ## Statements -/

/-- What a stage leaves: a session, and the payload that goes on or the failure. -/
structure Advance where
  session : Session
  result : Except Failure Payload

/-- The advance of a change that is made as a whole, or not at all if it fails. -/
def Advance.ofChange (before : Session) (change : Except Failure (Session × Payload)) : Advance :=
  match change with
  | .ok (after, payload) => ⟨after, .ok payload⟩
  | .error e => ⟨before, .error e⟩

/-- The session with the store that a statement leaves, and its message as a success. -/
def Effect.advance (e : Effect) (session : Session) : Advance :=
  ⟨⟨e.store, session.disk⟩, e.result.map fun message => .outcome (.ok message)⟩

/-- `SAVE DATABASE`. -/
def savePath (env : Surroundings) (path : String) (session : Session) : Advance :=
  .ofChange session do
    let file ← ((DiskPath.ofText path).resolve env.folder).mapError .fault
    let (disk, file) ← session.disk.save session.store env.now file
    return (⟨session.store, disk⟩, .outcome (.ok
      ("Database saved to '" ++ file.text ++ "' (" ++ disk.sizeText file ++ ")")))

/-- `LOAD DATABASE`. -/
def loadPath (env : Surroundings) (path : String) (session : Session) : Advance :=
  .ofChange session do
    let file ← ((DiskPath.ofText path).resolve env.folder).mapError .fault
    let store ← session.disk.load file
    return (⟨store, session.disk⟩, .outcome (.ok
      ("Database loaded from '" ++ file.text ++ "' (" ++ store.tables.length.repr ++ " tables, "
        ++ session.disk.sizeText file ++ ")")))

/-- What executing a statement gives. A `SELECT` goes on as the selection of its scan. -/
def Statement.perform (env : Surroundings) (s : Statement) (session : Session) : Advance :=
  match s with
  | .createTable s => (s.execute session.store).advance session
  | .dropTable s => (s.execute session.store).advance session
  | .insert s => (s.execute session.store).advance session
  | .update s => (s.execute session.store).advance session
  | .delete s => (s.execute session.store).advance session
  | .save path => savePath env path session
  | .load path => loadPath env path session
  | .select s => ⟨session, (s.scan session.store).map .selection⟩

/-! ## Stages -/

/-- The reaction of a stage that gives an advance. -/
def Advance.reaction (a : Advance) (job : Job) : Reaction Session Fault :=
  match a.result with
  | .ok payload => ⟨a.session, [.forward (job.successor payload)], .done⟩
  | .error (.error e) => ⟨a.session, [], .failed e.message⟩
  | .error (.fault f) => ⟨a.session, [], .crashed f⟩

/-- The reaction of a stage to a payload that it does not accept. -/
def ignored (session : Session) : Reaction Session Fault := ⟨session, [], .done⟩

/-- The first part of the names of the stages for a kind of statement. -/
def StatementKind.stem : StatementKind → String
  | createTable => "create_table"
  | dropTable => "drop_table"
  | insert => "insert"
  | select => "select"
  | update => "update"
  | delete => "delete"
  | save => "save"
  | load => "load"

/-- The stage that reads the statements of a kind. -/
def readingStage (kind : StatementKind) : Stage Session Fault where
  name := kind.stem ++ ".parse"
  ask := Answer.byPayload fun
    | .text s => kind.opens s
    | _ => false
  handle job session :=
    match job.payload with
    | .text s =>
      Advance.reaction
        ⟨session, ((readStatement kind s).mapError Failure.ofReadError).map .statement⟩ job
    | _ => ignored session

/-- The stage that executes the statements of a kind. -/
def executionStage (env : Surroundings) (kind : StatementKind) : Stage Session Fault where
  name := kind.stem ++ (if kind = .select then ".scan" else ".execute")
  ask := Answer.byPayload fun
    | .statement s => s.kind = kind
    | _ => false
  handle job session :=
    match job.payload with
    | .statement s => (s.perform env session).reaction job
    | _ => ignored session

/-- The name of an operator. -/
def Operator.name : Operator → String
  | filter => "filter"
  | order => "order"
  | project => "project"
  | distinct => "distinct"
  | limit => "limit"

/-- The stage that applies an operator. -/
def operatorStage (op : Operator) : Stage Session Fault where
  name := "select." ++ op.name
  ask := Answer.byPayload fun
    | .selection s => op.accepts s
    | _ => false
  handle job session :=
    match job.payload with
    | .selection s =>
      Advance.reaction ⟨session, ((op.apply s).mapError Failure.fault).map .selection⟩ job
    | _ => ignored session

/-- The stage that makes a listing of a selection that needs no further operator. -/
def listingStage : Stage Session Fault where
  name := "select.format"
  ask := Answer.byPayload fun
    | .selection _ => true
    | _ => false
  handle job session :=
    match job.payload with
    | .selection s =>
      Advance.reaction ⟨session, ((listing s.labels s.rows).mapError Failure.fault).map fun text =>
        .outcome (.ok text)⟩ job
    | _ => ignored session

/-- The stage that captures outcomes. -/
def resultStage : Stage Session Fault where
  name := "result"
  ask := Answer.byPayload fun
    | .outcome _ => true
    | _ => false
  handle job session :=
    match job.payload with
    | .outcome o => ⟨session, [.capture o], .done⟩
    | _ => ignored session

/-- The kinds of statements in the order of the stages that read them. -/
def readingOrder : List StatementKind :=
  [.createTable, .dropTable, .insert, .select, .update, .delete, .save, .load]

/-- The kinds of statements in the order of the stages that execute them. -/
def executionOrder : List StatementKind :=
  [.createTable, .dropTable, .insert, .update, .delete, .save, .load, .select]

/-- The stages of the standard pipeline in order. -/
def standardStages (env : Surroundings) : List (Stage Session Fault) :=
  readingOrder.map readingStage ++ executionOrder.map (executionStage env)
    ++ Operator.all.map operatorStage ++ [listingStage, resultStage]

end StagedQuery
