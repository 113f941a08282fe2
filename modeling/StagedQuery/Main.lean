import Std.Time.Format
import StagedQuery.Shell

/-!
# The command line

The shell on the terminal. A database file may be named as the first argument. Before a line runs,
the files that its statements name are brought into the disk of the shell, and files that its
statements wrote are written out afterwards.

## Main definitions

* `CommandLine.loop` — reads lines until the shell is left.
* `CommandLine.run` — the whole program.
-/

namespace StagedQuery.CommandLine

/-! ## Surroundings -/

/-- A number in at least `width` digits. -/
def padded (width : Nat) (n : Int) : String :=
  let digits := intText n
  String.ofList (List.replicate (width - digits.length) '0') ++ digits

/-- A moment as date and time in universal time. -/
def momentText (t : Std.Time.DateTime) : String :=
  let micro : Int := t.nanosecond.val / 1000
  padded 4 t.year ++ "-" ++ padded 2 t.month.val ++ "-" ++ padded 2 t.day.val ++ "T"
    ++ padded 2 t.hour.val ++ ":" ++ padded 2 t.minute.val ++ ":" ++ padded 2 t.second.val
    ++ (if micro = 0 then "" else "." ++ padded 6 micro) ++ "+00:00"

/-- The present moment. -/
def now : IO String := do
  return momentText (.ofTimestamp (← Std.Time.Timestamp.now) Std.Time.TimeZone.ZoneRules.UTC)

/-- The variables of the environment that settings may be read from. -/
def environment : IO (List (String × String)) := do
  let candidates := Settings.names.flatMap fun name =>
    ["STAGEDB_" ++ capitalize name, "stagedb_" ++ name]
  candidates.filterMapM fun name => do
    return (← IO.getEnv name).map fun value => (name, value)

/-! ## Files -/

/-- What is found at a path outside. -/
def look (p : DiskPath) : IO (Option DiskNode) := do
  try
    return some (.file (← IO.FS.readBinFile p.text))
  catch
    | .noFileOrDirectory .. => return none
    | _ => return some .folder

/-- Whether it is not allowed to look up a path outside. -/
def isDenied (p : DiskPath) : IO Bool := do
  try
    let _ ← IO.FS.realPath p.text
    return false
  catch
    | .permissionDenied .. => return true
    | _ => return false

/-- Whether a file can be written at a path outside. -/
def isWritable (p : DiskPath) : IO Bool := do
  try
    let _ ← IO.FS.Handle.mk p.text .append
    return true
  catch _ => return false

/-- The disk with what is found at a path outside. -/
def bring (d : Disk) (p : DiskPath) : IO Disk := do
  if Disk.hasNull p then return d
  let folder : DiskPath := ⟨p.root, p.parts.dropLast⟩
  if ← isDenied p then return d.mount folder .sealed
  match ← look p with
  | some node => return d.mount p node
  | none =>
    if ← isWritable p then
      IO.FS.removeFile p.text
      return d.mount folder .folder
    else return d

/-- Writes the file at a path if it differs from what was there before. -/
def putBack (before after : Disk) (p : DiskPath) : IO Unit := do
  match before.find p, after.find p with
  | .ok (some (.file old)), .ok (some (.file new)) =>
    if old != new then IO.FS.writeBinFile p.text new
  | _, .ok (some (.file new)) => IO.FS.writeBinFile p.text new
  | _, _ => return

/-! ## The loop -/

/-- Prints text at once. -/
def printNow (s : String) : IO Unit := do
  IO.print s
  (← IO.getStdout).flush

/-- A line without its end. -/
def withoutEnd (line : String) : String :=
  if line.toList.getLast? == some '\n' then String.ofList line.toList.dropLast else line

/-- Reads lines until the shell is left, and gives the exit code. -/
partial def loop (shell : Shell) : IO UInt32 := do
  printNow shell.prompt
  let line ← (← IO.getStdin).getLine
  if line.isEmpty then
    printNow Shell.farewell
    return 0
  let line := withoutEnd line
  let files := shell.filesOf line
  let disk ← files.foldlM bring shell.database.disk
  let turn := Shell.feed (← now) ⟨shell.database.withDisk disk, shell.pending, shell.tracing⟩ line
  files.forM (putBack disk turn.shell.database.disk)
  printNow turn.output
  match turn.course with
  | .more => loop turn.shell
  | .leave => return 0
  | .crashed fault =>
    IO.eprintln ("ERROR: " ++ fault.message)
    return 1

/-- The disk at the start: the working folder, and the file that is named if there is one. -/
def startDisk (settings : Settings) (file : Option String) : IO Disk := do
  let folder := (DiskPath.ofText (← IO.currentDir).toString).parts
  let disk : Disk := ⟨folder, [(folder, .folder)]⟩
  match file.map fun file => (DiskPath.ofText file).resolve (some settings.folder) with
  | some (.ok path) => bring disk path
  | _ => return disk

/-- The whole program. -/
def run (args : List String) : IO UInt32 := do
  match Settings.ofEnvironment (← environment) with
  | .error names =>
    IO.eprintln ("ERROR: invalid settings: " ++ Value.commaJoin names)
    return 1
  | .ok settings =>
    let disk ← startDisk settings args.head?
    match Shell.start disk settings args.head? with
    | .error (.error e) =>
      IO.eprintln ("ERROR: " ++ e.message)
      return 1
    | .error (.fault f) =>
      IO.eprintln ("ERROR: " ++ f.message)
      return 1
    | .ok (shell, label) =>
      printNow (Shell.banner label)
      let first ← IO.rand 0 (twoTo 128 - 1)
      let db := shell.database
      loop ⟨⟨db.session, db.settings, first⟩, shell.pending, shell.tracing⟩

end StagedQuery.CommandLine

/-- The shell on the terminal. -/
def main (args : List String) : IO UInt32 := StagedQuery.CommandLine.run args
