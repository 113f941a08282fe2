import StagedQuery.Proofs.Storage.Snapshot
import StagedQuery.Storage.DatabaseFile

set_option relaxedAutoImplicit false
set_option autoImplicit false

/-!
# Database files, saved and loaded

Saving puts one file on a disk, in the place that the path names, and leaves all folders. So a path
names the same place afterwards, and what is in another place is as before.

## Main definitions

* `Disk.place?` — the place of the database file at a path.
* `Disk.Holds` — that there is the database file of a store in a place.
* `Disk.SameFolders` — that two disks have the same folders.

## Main results

* `Disk.save_eq_ok` — what saving does.
* `Disk.sameFolders_put`, `Disk.SameFolders.place?` — a new file leaves folders and places.
* `Disk.find_eq_some`, `Disk.readDocument_eq_ok` — what is found, and which document is read.
* `Disk.load_of_holds` — a storable store is loaded from its file.
-/

namespace StagedQuery.Disk

variable {d after : Disk} {place : List String}

/-- The place of the database file at a path. -/
def place? (d : Disk) (p : DiskPath) : Option (List String) := do
  let file ← p.withSuffix.toOption
  let found ← (d.locate file).toOption
  found

/-- There is the database file of a store in a place. -/
def Holds (d : Disk) (place : List String) (s : Store) : Prop :=
  ∃ created text, s.fileText created = .ok text ∧ d.at? place = some (.file text.toUTF8)

/-- Two disks have the same working folder, and folders in the same places, which let names be
looked up or refuse that in both. -/
structure SameFolders (d after : Disk) : Prop where
  workingFolder : after.workingFolder = d.workingFolder
  admits : ∀ place, after.admits place = d.admits place

/-! ## Files put into places -/

/-- Every disk has its own folders. -/
lemma SameFolders.refl (d : Disk) : SameFolders d d := ⟨rfl, fun _ => rfl⟩

/-- Having the same folders is transitive. -/
lemma SameFolders.trans {b c : Disk} (h : SameFolders d b) (h' : SameFolders b c) :
    SameFolders d c :=
  ⟨h'.workingFolder.trans h.workingFolder,
    fun place => (h'.admits place).trans (h.admits place)⟩

/-- Names lead to the same place where the folders are the same. -/
lemma SameFolders.walk (h : SameFolders d after) (names : List String) :
    ∀ place, after.walk place names = d.walk place names := by
  induction names with
  | nil => exact fun _ => rfl
  | cons name names ih =>
    intro place
    simp only [Disk.walk, Disk.lookUp, h.admits, ih]

/-- A path names the same place where the folders are the same. -/
lemma SameFolders.locate (h : SameFolders d after) (p : DiskPath) :
    after.locate p = d.locate p := by
  rw [Disk.locate, Disk.locate, h.walk, origin, origin, h.workingFolder]

/-- The database file at a path has the same place where the folders are the same. -/
lemma SameFolders.place? (h : SameFolders d after) (p : DiskPath) :
    after.place? p = d.place? p := by
  simp only [Disk.place?, h.locate]

/-- The place of the database file at a path is what the path of the file names. -/
lemma place?_eq_some {p file : DiskPath} (hfile : p.withSuffix = .ok file) :
    d.place? p = some place ↔ d.locate file = .ok (some place) := by
  rw [Disk.place?, hfile]
  show ((d.locate file).toOption.bind fun found => found) = some place ↔ _
  rw [Option.bind_eq_some_iff, ← toOption_eq_some]
  exact ⟨fun ⟨_, hfound, h⟩ => h ▸ hfound, fun h => ⟨_, h, rfl⟩⟩

/-- What was put in a place is there, and the other entries are as before. -/
lemma find?_putEntry (place : List String) (node : DiskNode)
    (entries : List (List String × DiskNode)) (q : List String) :
    ((putEntry place node entries).find? (·.1 == q)).map (·.2) =
      if q = place then some node else (entries.find? (·.1 == q)).map (·.2) := by
  induction entries with
  | nil =>
    rw [putEntry, List.find?_cons]
    by_cases hq : q = place
    · simp [hq]
    · rw [if_neg hq, beq_eq_false_iff_ne.mpr (Ne.symm hq)]
  | cons entry entries ih =>
    obtain ⟨key, old⟩ := entry
    rw [putEntry]
    by_cases hkey : key = place
    · rw [if_pos hkey, List.find?_cons, List.find?_cons]
      by_cases hq : q = place
      · simp [hkey, hq]
      · rw [if_neg hq, beq_eq_false_iff_ne.mpr (hkey ▸ Ne.symm hq)]
    · rw [if_neg hkey, List.find?_cons, List.find?_cons]
      by_cases hq : key = q
      · simp [hq, hq ▸ hkey]
      · rw [beq_eq_false_iff_ne.mpr hq]
        exact ih

/-- What is in a place after something was put there or elsewhere. -/
lemma at?_put (hplace : place ≠ []) (node : DiskNode) (q : List String) :
    (d.put place node).at? q = if q = place then some node else d.at? q := by
  rw [at?, at?, put]
  by_cases hroot : q = []
  · rw [hroot, if_neg (Ne.symm hplace)]
    rfl
  · have hempty : q.isEmpty = false := by simpa using hroot
    rw [hempty, find?_putEntry]
    rfl

/-- The root is a folder. -/
lemma isFolder_root (d : Disk) : d.isFolder [] = true := rfl

/-- No names are looked up where there is no folder. -/
lemma admits_of_not_isFolder (h : d.isFolder place = false) : d.admits place = .ok false := by
  rw [isFolder] at h
  split at h
  · rename_i admitted hadmits
    rw [hadmits, h]
  · cases h

/-- A file put where there is no folder leaves the folders. -/
lemma sameFolders_put (h : d.isFolder place = false) (content : ByteArray) :
    SameFolders d (d.put place (.file content)) := by
  have hplace : place ≠ [] := by
    rintro rfl
    rw [isFolder_root] at h
    exact absurd h (by decide)
  refine ⟨rfl, fun q => ?_⟩
  rw [admits, at?_put hplace]
  by_cases hq : q = place
  · rw [if_pos hq, hq]
    exact (admits_of_not_isFolder h).symm
  · rw [if_neg hq, admits]

/-! ## Saving -/

/-- **What saving does**: it puts the text of the store where the path leads, which is no folder. -/
lemma save_eq_ok {s : Store} {created : String} {p file : DiskPath}
    (h : d.save s created p = .ok (after, file)) :
    ∃ place text, p.withSuffix = .ok file ∧ s.fileText created = .ok text ∧
      hasNull file = false ∧ d.locate file = .ok (some place) ∧ d.isFolder place = false ∧
        after = d.put place (.file text.toUTF8) := by
  obtain ⟨file', hfile, h⟩ := bind_eq_ok.mp h
  obtain ⟨text, htext, h⟩ := bind_eq_ok.mp h
  have hfile := mapError_eq_ok.mp hfile
  cases hnull : hasNull file' with
  | true => simp [hnull, throw_eq_error, bind, Except.bind] at h
  | false =>
    simp only [hnull, Bool.false_eq_true, if_false, write] at h
    rcases hplace : d.locate file' with why | _ | place
    · simp [hplace, throw_eq_error] at h
    · simp [hplace, throw_eq_error] at h
    · rw [hplace] at h
      cases hfolder : d.isFolder place with
      | true => simp [hfolder, throw_eq_error] at h
      | false =>
        simp only [hfolder, Bool.false_eq_true, if_false] at h
        obtain ⟨rfl, rfl⟩ := Prod.mk.inj (Except.ok.inj h)
        exact ⟨place, text, hfile, htext, hnull, hplace, hfolder, rfl⟩

/-- Saving leaves the folders, puts the file of the store in the place of the path, and leaves what
is in the other places. -/
lemma save_spec {s : Store} {created : String} {p file : DiskPath}
    (h : d.save s created p = .ok (after, file)) :
    ∃ place, d.place? p = some place ∧ p.withSuffix = .ok file ∧ hasNull file = false ∧
      SameFolders d after ∧ after.Holds place s ∧ ∀ q, q ≠ place → after.at? q = d.at? q := by
  obtain ⟨place, text, hfile, htext, hnull, hplace, hfolder, rfl⟩ := save_eq_ok h
  have hroot : place ≠ [] := by
    rintro rfl
    rw [isFolder_root] at hfolder
    exact absurd hfolder (by decide)
  refine ⟨place, ?_, hfile, hnull, sameFolders_put hfolder _, ⟨created, text, htext, ?_⟩, ?_⟩
  · exact (place?_eq_some hfile).mpr hplace
  · rw [at?_put hroot, if_pos rfl]
  · intro q hq
    rw [at?_put hroot, if_neg hq]

/-! ## Loading -/

/-- Text is decoded from its bytes. -/
lemma fromUTF8_toUTF8 (text : String) : String.fromUTF8? text.toUTF8 = some text :=
  dif_pos text.isValidUTF8

/-- A storable store is restored from the text of its file. -/
lemma read_fileText {s : Store} (hs : s.IsStorable) {created text : String}
    (h : s.fileText created = .ok text) :
    ∃ document, Document.read? text = some document ∧ Store.ofDocument document = .ok s := by
  obtain ⟨document, hdocument, hstore, hreadable⟩ := Store.ofDocument_toDocument hs created
  rw [Store.fileText, hdocument] at h
  obtain rfl := Except.ok.inj h
  exact ⟨document, Document.read_write fileLayout hreadable, hstore⟩

/-- Something is at a path if it is in the place that the path names. -/
lemma find_eq_some {p : DiskPath} {node : DiskNode} :
    d.find p = .ok (some node) ↔ ∃ place,
      hasNull p = false ∧ d.locate p = .ok (some place) ∧ d.at? place = some node := by
  rw [find]
  cases hasNull p with
  | true => simp
  | false => rcases d.locate p with why | _ | place <;> simp [Except.map]

/-- A document is read from a file that has the text of one. -/
lemma readDocument_eq_ok {file : DiskPath} {document : Document} :
    d.readDocument file = .ok document ↔ ∃ content, d.find file = .ok (some (.file content)) ∧
      (String.fromUTF8? content).bind Document.read? = some document := by
  rw [readDocument, findFile]
  simp only [bind, Except.bind]
  rcases d.find file with why | _ | (content | _ | _)
  case ok.some.file =>
    cases hread : (String.fromUTF8? content).bind Document.read? <;>
      simp [hread, Except.mapError, throw_eq_error, pure, Except.pure]
  all_goals simp [Except.mapError, throw_eq_error]

/-- **A storable store is loaded from its file**, by every path that names the place of the
file. -/
theorem load_of_holds {s : Store} (hs : s.IsStorable) {p file : DiskPath}
    (hfile : p.withSuffix = .ok file) (hnull : hasNull file = false)
    (hplace : d.place? p = some place) (h : d.Holds place s) : d.load p = .ok s := by
  obtain ⟨created, text, htext, hnode⟩ := h
  obtain ⟨document, hread, hstore⟩ := read_fileText hs htext
  have hfind : d.find file = .ok (some (.file text.toUTF8)) :=
    find_eq_some.mpr ⟨place, hnull, (place?_eq_some hfile).mp hplace, hnode⟩
  have hdocument : d.readDocument file = .ok document :=
    readDocument_eq_ok.mpr ⟨_, hfind, by rw [fromUTF8_toUTF8, Option.bind_some, hread]⟩
  rw [load, hfile]
  show d.readDocument file >>= (fun document => (Store.ofDocument document).mapError _) = .ok s
  rw [hdocument]
  show (Store.ofDocument document).mapError Failure.file = .ok s
  rw [hstore]
  rfl

/-- What is loaded comes from a file in the place that the path names. -/
lemma load_eq_ok {s : Store} {p : DiskPath} (h : d.load p = .ok s) :
    ∃ place file content, p.withSuffix = .ok file ∧ hasNull file = false ∧
      d.place? p = some place ∧ d.at? place = some (.file content) := by
  obtain ⟨file, hfile, h⟩ := bind_eq_ok.mp h
  have hfile := mapError_eq_ok.mp hfile
  obtain ⟨document, hdocument, -⟩ := bind_eq_ok.mp h
  obtain ⟨content, hfind, -⟩ := readDocument_eq_ok.mp hdocument
  obtain ⟨place, hnull, hplace, hnode⟩ := find_eq_some.mp hfind
  exact ⟨place, file, content, hfile, hnull, (place?_eq_some hfile).mpr hplace, hnode⟩

end StagedQuery.Disk
