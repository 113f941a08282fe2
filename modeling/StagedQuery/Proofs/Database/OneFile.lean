import StagedQuery.Database
import StagedQuery.Proofs.Storage.Paths

set_option relaxedAutoImplicit false
set_option autoImplicit false

/-!
# One path, one file

A store is saved and loaded by a path in four ways: by the two statements, and from outside, when a
database is saved or opened. Each of them takes the path from the folder of the settings and then
once more from no folder. All of them use the file that the path names at first.

## Main definitions

* `Disk.saveTo`, `Disk.loadFrom` — saving and loading at a path that is taken as it is.
* `Database.UsesFile` — the four ways of saving and loading by a path use one file.

## Main results

* `Disk.save_of_resolve`, `Disk.load_of_resolve` — a path that was found is taken as it is.
* `Database.usesFile_of_resolve` — the four ways use the file that is found first.
* `Database.oneFile` — which paths have a file, and that it is one file.
-/

namespace StagedQuery

open DiskPath (fileSuffix ofText)

/-! ## Files at paths that were found -/

namespace Disk

/-- The disk with the text of a store in the file at a path, which is taken as it is. -/
def saveTo (d : Disk) (s : Store) (created : String) (file : DiskPath) : Except Failure Disk := do
  let text ← s.fileText created
  if hasNull file then throw (.fault .nullCharacter)
  match d.write file text.toUTF8 with
  | some after => return after
  | none => throw (.file (.unwritable file.text))

/-- The store that the document in the file at a path describes; the path is taken as it is. -/
def loadFrom (d : Disk) (file : DiskPath) : Except Failure Store := do
  let document ← d.readDocument file
  (Store.ofDocument document).mapError .file

variable {d : Disk} {p file : DiskPath} {base : Option DiskPath}

/-- **Saving at a path that was found** does not change it. -/
lemma save_of_resolve (h : p.resolve base = .ok file) (s : Store) (created : String) :
    d.save s created file = (d.saveTo s created file).map fun after => (after, file) := by
  rw [save, saveTo, DiskPath.withSuffix_of_resolve h]
  simp only [Except.mapError, bind, Except.bind]
  cases s.fileText created with
  | error e => rfl
  | ok text =>
    cases hasNull file with
    | true => rfl
    | false =>
      simp only [Bool.false_eq_true, ↓reduceIte, pure, Except.pure]
      cases d.write file text.toUTF8 <;> rfl

/-- **Loading from a path that was found** does not change it. -/
lemma load_of_resolve (h : p.resolve base = .ok file) : d.load file = d.loadFrom file := by
  rw [load, DiskPath.withSuffix_of_resolve h]
  rfl

end Disk

/-! ## Four ways to one file -/

namespace Database

/-- **The four ways of saving and loading** by a path use one file: `SAVE DATABASE` and saving a
database write its store to the file, and `LOAD DATABASE` and opening a database read a store from
it. A database that is opened is empty if there is no such file; if the path of the file is refused,
it is not opened. -/
structure UsesFile (db : Database) (path : String) (file : DiskPath) : Prop where
  saveStatement : ∀ env : Surroundings, env.folder = some db.settings.folder →
    (Statement.save path).perform env db.session =
      .ofChange db.session ((db.disk.saveTo db.store env.now file).map fun disk =>
        (⟨db.store, disk⟩, .outcome (.ok
          ("Database saved to '" ++ file.text ++ "' (" ++ disk.sizeText file ++ ")"))))
  save : ∀ now, db.save now (ofText path) =
    (db.disk.saveTo db.store now file).map fun disk => (db.withDisk disk, file)
  loadStatement : ∀ env : Surroundings, env.folder = some db.settings.folder →
    (Statement.load path).perform env db.session =
      .ofChange db.session ((db.disk.loadFrom file).map fun store =>
        (⟨store, db.disk⟩, .outcome (.ok
          ("Database loaded from '" ++ file.text ++ "' (" ++ store.tables.length.repr ++
            " tables, " ++ db.disk.sizeText file ++ ")"))))
  opened : ofFile db.disk db.settings (ofText path) =
    match db.disk.find file with
    | .ok none => .ok (.empty db.disk db.settings)
    | .ok (some _) => (db.disk.loadFrom file).map fun store => ⟨⟨store, db.disk⟩, db.settings, 0⟩
    | .error why => .error (.fault (.refused why file.text))

variable {db : Database} {path : String} {file : DiskPath}

/-- **The file that a path names** in the folder of the settings is the one that is used. -/
lemma usesFile_of_resolve (h : (ofText path).resolve (some db.settings.folder) = .ok file) :
    db.UsesFile path file where
  saveStatement env henv := by
    rw [Statement.perform, savePath, henv, h]
    show Advance.ofChange db.session (db.disk.save db.store env.now file >>= _) = _
    rw [Disk.save_of_resolve h]
    cases db.disk.saveTo db.store env.now file <;> rfl
  save now := by
    rw [Database.save, h]
    show (db.disk.save db.store now file >>= _) = _
    rw [Disk.save_of_resolve h]
    cases db.disk.saveTo db.store now file <;> rfl
  loadStatement env henv := by
    rw [Statement.perform, loadPath, henv, h]
    show Advance.ofChange db.session (db.disk.load file >>= _) = _
    rw [Disk.load_of_resolve h]
    cases db.disk.loadFrom file <;> rfl
  opened := by
    rw [ofFile, h]
    simp only [Except.mapError, bind, Except.bind, Disk.load_of_resolve h, Disk.findFile]
    rcases db.disk.find file with why | _ | node
    · rfl
    · rfl
    · cases db.disk.loadFrom file <;> rfl

/-- **One path, one file.** Take any text of a path.

The path of the file is refused, from whatever folder, exactly if the path has no final name: if
there is nothing in the text but slashes and single dots between them. Else it is found. Its final
name has the suffix; taken from no folder it is found as it is; and its written form names it again,
if the folder is normal as all folders are that are read from texts. And in every database, the four
ways of saving and loading by the path use the file that is found from the folder of its
settings. -/
theorem oneFile (path : String) :
    (∀ base f, (ofText path).resolve base = .error f ↔
      (ofText path).name? = none ∧ f = .namelessPath (ofText path).text) ∧
    ((ofText path).name? = none ↔ ∀ piece ∈ pieces '/' path, piece = "" ∨ piece = ".") ∧
    (∀ base file, (ofText path).resolve base = .ok file →
      (∃ name, file.name? = some name ∧ fileSuffix.toList <:+ name.toList) ∧
      file.resolve none = .ok file ∧
      ((∀ folder ∈ base, folder.IsNormal) → ofText file.text = file)) ∧
    ∀ (db : Database) (file : DiskPath),
      (ofText path).resolve (some db.settings.folder) = .ok file → db.UsesFile path file := by
  refine ⟨fun base f => DiskPath.resolve_eq_error, DiskPath.name?_ofText_eq_none,
    fun base file h => ⟨?_, DiskPath.resolve_resolved h, fun hbase => ?_⟩,
    fun db file h => usesFile_of_resolve h⟩
  · obtain ⟨name, hname, hsuffix⟩ := DiskPath.exists_name_of_resolve h
    exact ⟨name, hname, DiskPath.hasSuffix_iff.mp hsuffix⟩
  · exact DiskPath.ofText_text ((DiskPath.isNormal_ofText path).resolve hbase h)

/-- Two dots as the final name of a path, behind repeated slashes and a single dot: the suffix is
added to the dots, and the path is found again from its written form. -/
theorem oneFile_dots :
    (ofText "a//./..").resolve (some (ofText "//d")) = .ok ⟨.double, ["d", "a", "...stagedb"]⟩ ∧
      ofText "//d/a/...stagedb" = ⟨.double, ["d", "a", "...stagedb"]⟩ ∧
      (∃ f, (ofText "./.").resolve none = .error f) := by
  have h : (ofText "a//./..").resolve (some (ofText "//d")) =
      .ok ⟨.double, ["d", "a", "...stagedb"]⟩ := toOption_eq_some.mp (by decide +kernel)
  obtain ⟨-, -, hfound, -⟩ := oneFile "a//./.."
  obtain ⟨hrefused, hnameless, -⟩ := oneFile "./."
  refine ⟨h, (hfound _ _ h).2.2 ?_, _, (hrefused none _).mpr ⟨hnameless.mpr ?_, rfl⟩⟩
  · intro folder hfolder
    exact Option.some.inj hfolder ▸ DiskPath.isNormal_ofText "//d"
  · decide +kernel

end Database

end StagedQuery
