import StagedQuery.Proofs.Database.Run
import StagedQuery.Proofs.Storage.DatabaseFile

set_option relaxedAutoImplicit false
set_option autoImplicit false

/-!
# The files that statements save and load

Only `SAVE DATABASE` changes a disk, in one place, and only `LOAD DATABASE` reads one.

## Main definitions

* `Statement.saves?`, `Statement.loads?` — the place in which a statement saves a store, and the
  place of the file that it loads.
* `Database.saves?`, `Database.loads?` — the same for the text of a statement.
* `Disk.Saves` — what saving a store in a place makes of a disk.
* `Database.performs?` — the statement that executing a text performs.

## Main results

* `savePath_cases`, `loadPath_cases` — what the two statements do.
* `Statement.disk_of_saves`, `Statement.disk_of_not_saves` — the disk that a statement leaves.
* `Database.session_execute_eq` — the session after any text.
* `Database.disk_execute_of_saves`, `Database.disk_execute_of_not_saves` — the same for a text.
-/

namespace StagedQuery

variable {env : Surroundings} {session : Session}

/-! ## What the two statements do -/

/-- `SAVE DATABASE` fails and leaves the session, or it saves the store at the resolved path. -/
lemma savePath_cases (env : Surroundings) (path : String) (session : Session) :
    (∃ e, savePath env path session = ⟨session, .error e⟩ ∧
      ∀ file, (DiskPath.ofText path).resolve env.folder = .ok file →
        (session.disk.save session.store env.now file).toOption = none) ∨
    ∃ file disk saved, (DiskPath.ofText path).resolve env.folder = .ok file ∧
      session.disk.save session.store env.now file = .ok (disk, saved) ∧
      savePath env path session = ⟨⟨session.store, disk⟩, .ok (.outcome (.ok
        ("Database saved to '" ++ saved.text ++ "' (" ++ disk.sizeText saved ++ ")")))⟩ := by
  rw [savePath]
  cases hfile : (DiskPath.ofText path).resolve env.folder with
  | error f => exact .inl ⟨.fault f, rfl, fun _ h => absurd h (by simp)⟩
  | ok file =>
    cases hsave : session.disk.save session.store env.now file with
    | error e =>
      refine .inl ⟨e, ?_, fun file' h => ?_⟩
      · simp [Except.mapError, hsave, bind, Except.bind, Advance.ofChange]
      · rw [← Except.ok.inj h, hsave]
        rfl
    | ok r =>
      obtain ⟨disk, saved⟩ := r
      refine .inr ⟨file, disk, saved, rfl, hsave, ?_⟩
      simp only [Except.mapError, hsave, bind, Except.bind, pure, Except.pure, Advance.ofChange]

/-- `LOAD DATABASE` fails and leaves the session, or it puts the store that is saved at the resolved
path in the place of its own. -/
lemma loadPath_cases (env : Surroundings) (path : String) (session : Session) :
    (∃ e, loadPath env path session = ⟨session, .error e⟩ ∧
      ∀ file, (DiskPath.ofText path).resolve env.folder = .ok file →
        ∃ e, session.disk.load file = .error e) ∨
    ∃ file store, (DiskPath.ofText path).resolve env.folder = .ok file ∧
      session.disk.load file = .ok store ∧
      loadPath env path session = ⟨⟨store, session.disk⟩, .ok (.outcome (.ok
        ("Database loaded from '" ++ file.text ++ "' (" ++ store.tables.length.repr ++
          " tables, " ++ session.disk.sizeText file ++ ")")))⟩ := by
  rw [loadPath]
  cases hfile : (DiskPath.ofText path).resolve env.folder with
  | error f => exact .inl ⟨.fault f, rfl, fun _ h => absurd h (by simp)⟩
  | ok file =>
    cases hload : session.disk.load file with
    | error e =>
      refine .inl ⟨e, ?_, fun file' h => ⟨e, ?_⟩⟩
      · simp [Except.mapError, hload, bind, Except.bind, Advance.ofChange]
      · rw [← Except.ok.inj h, hload]
    | ok store =>
      refine .inr ⟨file, store, rfl, hload, ?_⟩
      simp only [Except.mapError, hload, bind, Except.bind, pure, Except.pure, Advance.ofChange]

/-! ## Statements -/

/-- Saving a store in a place of a disk: the folders stay, the file of the store is in the place,
and what is in the other places stays. -/
structure Disk.Saves (d after : Disk) (place : List String) (s : Store) : Prop where
  folders : SameFolders d after
  holds : after.Holds place s
  others : ∀ q, q ≠ place → after.at? q = d.at? q

namespace Statement

variable (env session) in
/-- The place in which a statement saves the store: none if it is no `SAVE DATABASE`, or one that
fails. -/
def saves? : Statement → Option (List String)
  | .save path => do
    let file ← ((DiskPath.ofText path).resolve env.folder).toOption
    let _ ← (session.disk.save session.store env.now file).toOption
    session.disk.place? file
  | _ => none

variable (env session) in
/-- The place of the file that a statement loads: none if it is no `LOAD DATABASE`, or one that
names no file. -/
def loads? : Statement → Option (List String)
  | .load path => do
    let file ← ((DiskPath.ofText path).resolve env.folder).toOption
    let place ← session.disk.place? file
    match session.disk.at? place with
    | some (.file _) => some place
    | _ => none
  | _ => none

/-- What is read as a statement of a kind is of that kind. -/
lemma kind_of_read {kind : StatementKind} {text : String} {s : Statement}
    (h : readStatement kind text = .ok s) : s.kind = kind := by
  cases kind <;> obtain ⟨_, -, rfl⟩ := map_eq_ok.mp h <;> rfl

/-- A statement that saves nothing leaves the disk. -/
lemma disk_of_not_saves {s : Statement} (h : s.saves? env session = none) :
    (s.perform env session).session.disk = session.disk := by
  cases s with
  | save path =>
    rcases savePath_cases env path session with ⟨e, hsave, -⟩ | ⟨file, disk, saved, hfile, hsave, -⟩
    · rw [perform, hsave]
    · obtain ⟨place, hplace, -⟩ := Disk.save_spec hsave
      simp [saves?, hfile, hsave, hplace, Except.toOption] at h
  | load path =>
    rcases loadPath_cases env path session with ⟨e, hload, -⟩ | ⟨file, store, -, -, hload⟩
    · rw [perform, hload]
    · rw [perform, hload]
  | _ => rfl

/-- A statement that saves the store in a place leaves the store, and changes the disk there. -/
lemma disk_of_saves {s : Statement} {place : List String} (h : s.saves? env session = some place) :
    (s.perform env session).session.store = session.store ∧
      session.disk.Saves (s.perform env session).session.disk place session.store := by
  cases s with
  | save path =>
    rcases savePath_cases env path session with
      ⟨e, -, hfail⟩ | ⟨file, disk, saved, hfile, hsave, hp⟩
    · cases hfile : (DiskPath.ofText path).resolve env.folder with
      | error f => simp [saves?, hfile, Except.toOption] at h
      | ok file =>
        rw [saves?, hfile,
          show (Except.ok file : Except Fault DiskPath).toOption = some file from rfl,
          Option.bind_eq_bind, Option.bind_some, hfail file hfile] at h
        simp at h
    · obtain ⟨place', hplace, -, -, hfolders, hholds, hothers⟩ := Disk.save_spec hsave
      obtain rfl : place' = place := by
        simpa [saves?, hfile, hsave, hplace, Except.toOption] using h
      rw [perform, hp]
      exact ⟨rfl, hfolders, hholds, hothers⟩
  | _ => simp [saves?] at h

end Statement

/-! ## Texts -/

namespace Database

variable (db : Database) (now sql : String)

/-- The statement that executing a text performs: none if the text cannot be read as one, or if the
budget does not allow a second job. -/
def performs? : Option Statement :=
  if 2 ≤ db.settings.budget then Statement.ofText? (strip sql) else none

/-- The place in which executing a text saves the store. -/
def saves? : Option (List String) :=
  (db.performs? sql).bind (·.saves? (db.surroundings now) db.session)

/-- The place of the file that executing a text loads. -/
def loads? : Option (List String) :=
  (db.performs? sql).bind (·.loads? (db.surroundings now) db.session)

/-- **The session after any text** is the one after the statement that is performed, if there is
one. -/
theorem session_execute_eq :
    (db.execute now sql).2.session =
      match db.performs? sql with
      | some s => (s.perform (db.surroundings now) db.session).session
      | none => db.session := by
  rw [session_execute, performs?]
  by_cases hb : 2 ≤ db.settings.budget
  · rw [if_pos hb, if_pos hb]
    unfold Payload.sessionAfter
    cases Statement.ofText? (strip sql) <;> rfl
  · rw [if_neg hb, if_neg hb]

variable {db now sql}

/-- What a text performs is of the kind that the text opens. -/
lemma kind_of_performs {kind : StatementKind} (h : StatementKind.opening? (strip sql) = some kind)
    {s : Statement} (hs : db.performs? sql = some s) : s.kind = kind := by
  rw [performs?] at hs
  split at hs
  · rw [Statement.ofText?, h, Option.bind_some, toOption_eq_some] at hs
    exact Statement.kind_of_read hs
  · cases hs

/-- A text that opens another kind of statement saves nothing. -/
lemma saves?_of_opening {kind : StatementKind}
    (h : StatementKind.opening? (strip sql) = some kind) (hkind : kind ≠ .save) :
    db.saves? now sql = none := by
  rw [saves?]
  cases hs : db.performs? sql with
  | none => rfl
  | some s =>
    cases s with
    | save path => exact absurd (kind_of_performs h hs).symm hkind
    | _ => rfl

/-- A text that opens another kind of statement loads nothing. -/
lemma loads?_of_opening {kind : StatementKind}
    (h : StatementKind.opening? (strip sql) = some kind) (hkind : kind ≠ .load) :
    db.loads? now sql = none := by
  rw [loads?]
  cases hs : db.performs? sql with
  | none => rfl
  | some s =>
    cases s with
    | load path => exact absurd (kind_of_performs h hs).symm hkind
    | _ => rfl

/-- A text that saves nothing leaves the disk. -/
lemma disk_execute_of_not_saves (h : db.saves? now sql = none) :
    (db.execute now sql).2.disk = db.disk := by
  rw [disk, session_execute_eq]
  rw [saves?] at h
  cases hs : db.performs? sql with
  | none => rfl
  | some s =>
    rw [hs] at h
    exact Statement.disk_of_not_saves h

/-- A text that saves the store in a place leaves the store, and changes the disk there. -/
lemma disk_execute_of_saves {place : List String} (h : db.saves? now sql = some place) :
    (db.execute now sql).2.store = db.store ∧
      db.disk.Saves (db.execute now sql).2.disk place db.store := by
  rw [saves?] at h
  cases hs : db.performs? sql with
  | none => simp [hs] at h
  | some s =>
    rw [hs] at h
    have hsession : (db.execute now sql).2.session =
        (s.perform (db.surroundings now) db.session).session := by
      rw [session_execute_eq, hs]
    obtain ⟨hstore, hdisk⟩ := Statement.disk_of_saves h
    rw [← hsession] at hstore hdisk
    exact ⟨hstore, hdisk⟩

end Database

end StagedQuery
