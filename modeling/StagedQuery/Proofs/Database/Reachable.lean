import StagedQuery.Proofs.Database.Files
import StagedQuery.Proofs.Sql.SoundStatements

set_option relaxedAutoImplicit false
set_option autoImplicit false

/-!
# Databases that statements build

The databases that come from an empty one by any texts, valid or not, in any order. Only files that
were saved in the same run are loaded. Their stores keep all rules of well-formed stores.

## Main definitions

* `Database.Reachable` — the databases of a run, with the places in which stores were saved.
* `Store.Lasting` — the properties of stores that every statement keeps.
* `Database.Kept` — what a run keeps: a property of the store, and of every store that it saved.

## Main results

* `Database.Kept.execute` — one text keeps a property that lasts.
* `Database.Reachable.lasting` — so a whole run keeps it.
* `Database.Reachable.kept`, `Database.Reachable.named` — the rules of stores, and of names.
* `Database.Reachable.tables_sound` — the rules of the stores of a run, spelled out.
-/

namespace StagedQuery

/-! ## Runs -/

/-- The databases of a run from the empty database on a disk, with the places in which the run has
saved its store. A text is executed at any time; if it loads a file, this is one that the run
saved. -/
inductive Database.Reachable (disk : Disk) (settings : Settings) :
    Database → List (List String) → Prop
  | empty : Reachable disk settings (.empty disk settings) []
  | execute {db : Database} {saved : List (List String)} (h : Reachable disk settings db saved)
      (now sql : String) (hload : ∀ place, db.loads? now sql = some place → place ∈ saved) :
      Reachable disk settings (db.execute now sql).2 ((db.saves? now sql).toList ++ saved)

/-- A property of stores that lasts: well-formed stores have it, among them the empty one, and every
statement keeps it that can be read from a text. -/
structure Store.Lasting (P : Store → Prop) : Prop where
  wellFormed {s : Store} (h : P s) : s.WellFormed
  empty : P .empty
  storeAfter {kind : StatementKind} {text : String} {s : Statement} {store : Store}
    (hread : readStatement kind text = .ok s) (h : P store) : P (s.storeAfter store)

/-- What a run keeps: the store has a property, and so has the store of every file that the run
saved. -/
structure Database.Kept (P : Store → Prop) (db : Database) (saved : List (List String)) : Prop where
  store : P db.store
  files : ∀ place ∈ saved, ∃ s : Store, P s ∧ db.disk.Holds place s

variable {P : Store → Prop}

/-! ## One statement -/

namespace Statement

variable {env : Surroundings} {session : Session}

/-- A statement that loads no file leaves the store that its execution leaves. -/
lemma store_perform {s : Statement} (h : s.kind ≠ .load) :
    (s.perform env session).session.store = s.storeAfter session.store := by
  cases s with
  | save path =>
    rcases savePath_cases env path session with ⟨e, hsave, -⟩ | ⟨file, disk, saved, -, -, hsave⟩
    · rw [perform, hsave]
      rfl
    · rw [perform, hsave]
      rfl
  | load path => exact absurd rfl h
  | createTable | dropTable | insert | select | update | delete => rfl

/-- A file that is loaded by a path is the one in the place that the path names, so a store that was
saved there is loaded. -/
lemma lasting_of_load (hP : Store.Lasting P) {path : String} {file : DiskPath} {store : Store}
    (hfile : (DiskPath.ofText path).resolve env.folder = .ok file)
    (hload : session.disk.load file = .ok store)
    (h : ∀ place, (Statement.load path).loads? env session = some place →
      ∃ s : Store, P s ∧ session.disk.Holds place s) : P store := by
  obtain ⟨place, target, content, htarget, hnull, hplace, hnode⟩ := Disk.load_eq_ok hload
  have hloads : (Statement.load path).loads? env session = some place := by
    rw [loads?, hfile]
    show (session.disk.place? file).bind _ = _
    rw [hplace, Option.bind_some, hnode]
  obtain ⟨s, hs, hholds⟩ := h place hloads
  have hsame := Disk.load_of_holds (hP.wellFormed hs).isStorable htarget hnull hplace hholds
  rw [hload] at hsame
  rw [Except.ok.inj hsame]
  exact hs

/-- **A statement that can be read from a text** keeps a property that lasts, provided that the
store that it loads had it when it was saved. -/
lemma lasting_perform (hP : Store.Lasting P) {kind : StatementKind} {text : String} {s : Statement}
    (hread : readStatement kind text = .ok s) (h : P session.store)
    (hload : ∀ place, s.loads? env session = some place →
      ∃ store : Store, P store ∧ session.disk.Holds place store) :
    P (s.perform env session).session.store := by
  by_cases hkind : s.kind = .load
  · cases s with
    | load path =>
      rcases loadPath_cases env path session with
        ⟨e, hfail, -⟩ | ⟨file, store, hfile, hstore, hdone⟩
      · rw [perform, hfail]
        exact h
      · rw [perform, hdone]
        exact lasting_of_load hP hfile hstore hload
    | _ => cases hkind
  · rw [store_perform hkind]
    exact hP.storeAfter hread h

end Statement

/-! ## One text -/

namespace Database

variable {db : Database} {now sql : String}

/-- A statement that a text performs is read from the text. -/
lemma read_of_performs {s : Statement} (h : db.performs? sql = some s) :
    ∃ kind, readStatement kind (strip sql) = .ok s := by
  rw [performs?] at h
  split at h
  · obtain ⟨kind, -, hread⟩ := Option.bind_eq_some_iff.mp h
    exact ⟨kind, toOption_eq_some.mp hread⟩
  · cases h

/-- **One text keeps a property that lasts**, of the store and of the stores in the files.

**Proof sketch.** The statement of the text keeps the property of the store. If it saves the store
in a place, the file there is that of a store with the property, and the files in the other places
stay. -/
theorem Kept.execute (hP : Store.Lasting P) {saved : List (List String)} (h : db.Kept P saved)
    (now sql : String) (hload : ∀ place, db.loads? now sql = some place → place ∈ saved) :
    (db.execute now sql).2.Kept P ((db.saves? now sql).toList ++ saved) := by
  constructor
  · rw [Database.store, session_execute_eq]
    cases hs : db.performs? sql with
    | none => exact h.store
    | some s =>
      obtain ⟨kind, hread⟩ := read_of_performs hs
      refine Statement.lasting_perform hP hread h.store fun place hplace => ?_
      refine h.files place (hload place ?_)
      rw [loads?, hs]
      exact hplace
  · intro place hplace
    cases hsaves : db.saves? now sql with
    | none =>
      rw [hsaves] at hplace
      rw [disk_execute_of_not_saves hsaves]
      exact h.files place hplace
    | some new =>
      obtain ⟨-, hdisk⟩ := disk_execute_of_saves hsaves
      by_cases hnew : place = new
      · exact ⟨db.store, h.store, hnew ▸ hdisk.holds⟩
      · have hold : place ∈ saved := by
          rw [hsaves, Option.toList_some, List.singleton_append, List.mem_cons] at hplace
          exact hplace.resolve_left hnew
        obtain ⟨s, hs, created, text, htext, hnode⟩ := h.files place hold
        exact ⟨s, hs, created, text, htext, (hdisk.others place hnew).trans hnode⟩

/-! ## Whole runs -/

namespace Reachable

variable {disk : Disk} {settings : Settings} {saved : List (List String)}

/-- **A run keeps every property that lasts.** -/
theorem lasting (hP : Store.Lasting P) (h : Reachable disk settings db saved) :
    db.Kept P saved := by
  induction h with
  | empty => exact ⟨hP.empty, by simp⟩
  | execute _ now sql hload ih => exact ih.execute hP now sql hload

/-- **A run keeps the rules of stores.** -/
theorem kept (h : Reachable disk settings db saved) : db.Kept Store.WellFormed saved :=
  h.lasting ⟨id, Store.wellFormed_empty, fun hread hstore =>
    Statement.wellFormed_storeAfter (plain_of_readStatement hread) hstore⟩

/-- **The tables of a run and their columns** have names that can be names. -/
theorem named (h : Reachable disk settings db saved) :
    ∀ t ∈ db.store.tables, t.schema.IsNamed := by
  refine (h.lasting (P := fun s => s.WellFormed ∧ ∀ t ∈ s.tables, t.schema.IsNamed)
    ⟨And.left, ⟨Store.wellFormed_empty, by simp [Store.empty]⟩, ?_⟩).store.2
  rintro kind text s store hread ⟨hstore, hnamed⟩
  refine ⟨Statement.wellFormed_storeAfter (plain_of_readStatement hread) hstore, fun t ht => ?_⟩
  rcases Statement.schema_storeAfter ht with ⟨old, hold, hschema⟩ | ⟨c, rfl, hschema⟩
  · exact hschema ▸ hnamed old hold
  · rw [hschema]
    exact named_of_readStatement hread

/-- A run leaves the settings. -/
lemma settings_eq (h : Reachable disk settings db saved) : db.settings = settings := by
  induction h with
  | empty => rfl
  | execute _ now sql _ ih => rw [settings_execute, ih]

/-- Columns of which no two labels are the same key, and which are named by texts, have different
names. -/
lemma exists_names {s : Schema} (h : s.WellFormed) :
    ∃ names : List String, names.Nodup ∧ s.labels = names.map Value.text := by
  have hnames : ∀ labels : List Value, (∀ label ∈ labels, ∃ name, label = .text name) →
      ∃ names : List String, labels = names.map Value.text := by
    intro labels
    induction labels with
    | nil => exact fun _ => ⟨[], rfl⟩
    | cons label labels ih =>
      intro hall
      obtain ⟨name, rfl⟩ := hall label (by simp)
      obtain ⟨names, rfl⟩ := ih fun l hl => hall l (by simp [hl])
      exact ⟨name :: names, rfl⟩
  obtain ⟨names, heq⟩ := hnames s.labels fun label hlabel => h.text_of_mem hlabel
  refine ⟨names, ?_, heq⟩
  exact (heq ▸ h.distinct).nodup_names

/-- **The tables of a run are sound.** In every database that a run from an empty store reaches,
each table is found under the name of its schema. A schema has columns of different names and
supported types, of which at most one is the primary key and every primary key is required. The
labels of each row are the names of the columns in order, its cells are empty, integers,
floating-point numbers or text, and no required column is empty. -/
theorem tables_sound (h : Reachable disk settings db saved) :
    db.store.names.Nodup ∧ ∀ t ∈ db.store.tables,
      db.store.find? t.schema.name = some t ∧
      t.schema.columns ≠ [] ∧
      (∃ names : List String, names.Nodup ∧ t.schema.labels = names.map Value.text) ∧
      (∀ c ∈ t.schema.columns, c.typeName ∈ columnTypes) ∧
      (t.schema.columns.filter (·.presence.isPrimary)).length ≤ 1 ∧
      (∀ c ∈ t.schema.columns, c.presence.isPrimary = true → c.presence.isRequired = true) ∧
      ∀ row ∈ t.rows, row.map Prod.fst = t.schema.labels ∧
        (∀ cell ∈ row, cell.2 = .null ∨ (∃ n, cell.2 = .int n) ∨ (∃ x, cell.2 = .float x) ∨
          ∃ s, cell.2 = .text s) ∧
        ∀ c ∈ t.schema.columns,
          c.presence.isRequired = true → (row.get c.label).isNull = false := by
  have hstore := h.kept.store
  refine ⟨hstore.names, fun t ht => ?_⟩
  have htable := hstore.tables t ht
  refine ⟨Store.find?_of_mem hstore.names ht, htable.schema.nonempty, exists_names htable.schema,
    htable.schema.typed, htable.schema.onePrimary, fun c _ hc => ?_, fun row hrow => ?_⟩
  · rw [Presence.isPrimary, beq_iff_eq] at hc
    rw [hc]
    rfl
  · have hsound := htable.rows row hrow
    exact ⟨hsound.labels, fun cell hcell => (hsound.plain cell hcell).form,
      Schema.checkPresence_eq_ok.mp hsound.present⟩

end Reachable

/-! ## A run with one row -/

/-- The database after one table was created and one row was put into it. -/
def oneRow : Database :=
  (((empty ⟨[], []⟩ .standard).execute ""
    "CREATE TABLE t (a INTEGER PRIMARY KEY, b REAL)").2.execute ""
      "INSERT INTO t (b, a) VALUES (0.5, 7)").2

/-- A text that opens another kind of statement than one that loads a file may be executed in every
run. -/
lemma loads_of_opening {saved : List (List String)} {kind : StatementKind}
    (h : StatementKind.opening? (strip sql) = some kind) (hkind : kind ≠ .load) :
    ∀ place, db.loads? now sql = some place → place ∈ saved := by
  intro place hplace
  rw [loads?_of_opening h hkind] at hplace
  cases hplace

/-- Two texts lead to it, neither of which loads a file. -/
lemma exists_reachable_oneRow : ∃ saved, Reachable ⟨[], []⟩ .standard oneRow saved := by
  have hcreate : StatementKind.opening? (strip "CREATE TABLE t (a INTEGER PRIMARY KEY, b REAL)") =
      some .createTable := by decide +kernel
  have hinsert : StatementKind.opening? (strip "INSERT INTO t (b, a) VALUES (0.5, 7)") =
      some .insert := by decide +kernel
  exact ⟨_, .execute (.execute .empty "" _ (loads_of_opening hcreate (by decide))) "" _
    (loads_of_opening hinsert (by decide))⟩

/-- The row has the labels of its table, although its values were given in another order. -/
theorem tables_sound_oneRow :
    oneRow.store.tables.map (fun t => t.rows.length) = [1] ∧
      ∀ t ∈ oneRow.store.tables, ∀ row ∈ t.rows, row.map Prod.fst = t.schema.labels := by
  obtain ⟨saved, hreach⟩ := exists_reachable_oneRow
  refine ⟨by decide +kernel, fun t ht row hrow => ?_⟩
  obtain ⟨-, -, -, -, -, -, hrows⟩ := (Reachable.tables_sound hreach).2 t ht
  exact (hrows row hrow).1

end Database

end StagedQuery
