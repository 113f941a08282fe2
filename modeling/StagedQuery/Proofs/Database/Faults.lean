import StagedQuery.Proofs.Database.Reachable
import StagedQuery.Proofs.Query.Faults
import StagedQuery.Proofs.Sql.Statements
import StagedQuery.Proofs.Storage.Paths
import StagedQuery.Proofs.Storage.Refusals
import StagedQuery.Proofs.Store.Faults

set_option relaxedAutoImplicit false
set_option autoImplicit false

/-!
# The faults that end a run

Every text gives one text, or overruns the budget, or it ends in a fault, which comes out of the run
in the place of a text. This file lists the cases in which that happens:

* a number in a statement has too many digits;
* the path of a file has no final name; or a store is saved and its path has a null character; or a
  store is loaded and the system refuses to look up its path;
* a table was read from a file that was written elsewhere, and it has a label or a value that
  cannot be a key, or a label that is not text;
* the store holds a value that no file can hold.

Of these only the first two can be met in a run that loads nothing but what it saved itself.

The list is complete where calls may be nested to any depth, and where a disk refuses just the paths
that are too long or that go through sealed folders. What else can end a run is left out: a limit on
nested calls, which a condition with very many parts may come to, and the failure of a device.

## Main definitions

* `Statement.Faults` — the faults in which the execution of a statement ends.
* `Database.Faults` — the faults in which the run over a text ends.

## Main results

* `Disk.save_eq_fault`, `Disk.load_eq_fault` — the faults of files.
* `Payload.exists_passage_faults` — the passage of a statement ends in its fault, if it has one.
* `Database.execute_faults` — how the execution of a text ends, whatever the database.
* `Database.Reachable.faults` — the faults in a run that loads what it saved.
-/

namespace StagedQuery

/-! ## Files -/

namespace Disk

variable {d : Disk} {s : Store} {created : String} {file : DiskPath} {f : Fault}

/-- A store is saved at the path of a database file, unless a value cannot be stored, or else the
path has a null character. -/
lemma save_eq_fault (hfile : file.withSuffix = .ok file) :
    d.save s created file = .error (.fault f) ↔
      (s.toDocument created = none ∧ f = .notStorable) ∨
      (s.toDocument created ≠ none ∧ hasNull file = true ∧ f = .nullCharacter) := by
  rw [save, hfile, Store.fileText]
  simp only [Except.mapError, bind, Except.bind]
  cases s.toDocument created with
  | none => simp [@eq_comm _ Fault.notStorable]
  | some document =>
    cases hasNull file with
    | true => simp [throw_eq_error, @eq_comm _ Fault.nullCharacter]
    | false =>
      simp only [Bool.false_eq_true, ↓reduceIte, pure, Except.pure]
      split <;> simp [throw_eq_error, Failure.file]

/-- A document is read from a file without a fault, unless the path is refused. -/
lemma readDocument_eq_fault : d.readDocument file = .error (.fault f) ↔
    ∃ why, hasNull file = false ∧ d.Refuses file why ∧ f = .refused why file.text := by
  refine (bind_eq_fault_left fun found => ?_).trans ?_
  · rcases found with _ | (content | _ | _)
    case some.file =>
      dsimp only
      cases (String.fromUTF8? content).bind Document.read? with
      | none => exact faultless_error _
      | some document => exact faultless_ok _
    all_goals exact faultless_error _
  · simp only [← and_assoc, ← find_eq_error]
    rw [findFile]
    cases d.find file <;> simp [Except.mapError, eq_comm]

/-- A store is loaded from the path of a database file, unless the path is refused, whatever is in
the file. -/
lemma load_eq_fault (hfile : file.withSuffix = .ok file) : d.load file = .error (.fault f) ↔
    ∃ why, hasNull file = false ∧ d.Refuses file why ∧ f = .refused why file.text := by
  rw [load, hfile]
  show d.readDocument file >>= (fun document => (Store.ofDocument document).mapError _) = _ ↔ _
  refine (bind_eq_fault_left fun document => ?_).trans readDocument_eq_fault
  rcases Store.ofDocument document with e | store
  · exact faultless_error _
  · exact faultless_ok _

end Disk

/-! ## One statement -/

/-- The faults in which the execution of a statement ends: an `INSERT` that comes to a label of its
table that cannot be a key, a `SELECT` that comes to a value that cannot be one or to a label that
is not text, a file whose path has no final name, a file that cannot be written, and one that is to
be read and whose path is refused. -/
inductive Statement.Faults (env : Surroundings) (session : Session) : Statement → Fault → Prop
  | insertLabel {s : Insert} {t : Table} {kind : String}
    (htable : session.store.find? s.table = some t) (h : s.FailsOnLabel t.schema kind) :
    Faults env session (.insert s) (.unhashable kind)
  | selectCell {s : Select} {t : Table} {kind : String} (hasked : s.refusal? session.store = none)
    (htable : session.store.find? s.table = some t)
    (h : s.FailsOnCell (s.labels t.schema) t.rows kind) :
    Faults env session (.select s) (.unhashable kind)
  | selectLabel {s : Select} {t : Table} {label : Value} (hasked : s.refusal? session.store = none)
    (htable : session.store.find? s.table = some t)
    (h : s.FailsOnLabel (s.labels t.schema) t.rows label) :
    Faults env session (.select s) (.labelNotText label)
  | saveName {path : String} (h : (DiskPath.ofText path).name? = none) :
    Faults env session (.save path) (.namelessPath (DiskPath.ofText path).text)
  | saveValue {path : String} (hname : (DiskPath.ofText path).name? ≠ none)
    (h : session.store.toDocument env.now = none) : Faults env session (.save path) .notStorable
  | saveNull {path : String} {file : DiskPath}
    (hfile : (DiskPath.ofText path).resolve env.folder = .ok file)
    (hvalues : session.store.toDocument env.now ≠ none) (h : Disk.hasNull file = true) :
    Faults env session (.save path) .nullCharacter
  | loadName {path : String} (h : (DiskPath.ofText path).name? = none) :
    Faults env session (.load path) (.namelessPath (DiskPath.ofText path).text)
  | loadRefused {path : String} {file : DiskPath} {why : PathRefusal}
    (hfile : (DiskPath.ofText path).resolve env.folder = .ok file)
    (hnull : Disk.hasNull file = false) (h : session.disk.Refuses file why) :
    Faults env session (.load path) (.refused why file.text)

namespace Statement

variable {env : Surroundings} {session : Session} {f : Fault}

/-- The effect of a statement ends in the fault of its result. -/
lemma effect_eq_fault {e : Effect} :
    (e.advance session).result = .error (.fault f) ↔ e.result = .error (.fault f) := map_eq_fault

/-- A change of the session ends in the fault of the change. -/
lemma ofChange_eq_fault {change : Except Failure (Session × Payload)} :
    (Advance.ofChange session change).result = .error (.fault f) ↔
      change = .error (.fault f) := by
  rcases change with e | ⟨after, p⟩ <;> simp [Advance.ofChange]

/-- A `SAVE DATABASE` ends in a fault of its path or of the store. -/
lemma savePath_eq_fault {path : String} :
    (savePath env path session).result = .error (.fault f) ↔
      (Statement.save path).Faults env session f := by
  rw [savePath, ofChange_eq_fault]
  cases hfile : (DiskPath.ofText path).resolve env.folder with
  | error f' =>
    obtain ⟨hname, rfl⟩ := DiskPath.resolve_eq_error.mp hfile
    constructor
    · intro h
      cases h
      exact .saveName hname
    · intro h
      cases h with
      | saveName => rfl
      | saveValue h => exact absurd hname h
      | saveNull h => rw [hfile] at h; cases h
  | ok file =>
    have hsuffix := DiskPath.withSuffix_of_resolve hfile
    have hname := DiskPath.name?_of_resolve hfile
    refine (bind_eq_fault_left fun _ => faultless_ok _).trans ?_
    refine (Disk.save_eq_fault hsuffix).trans ?_
    constructor
    · rintro (⟨hvalue, rfl⟩ | ⟨hvalues, hnull, rfl⟩)
      · exact .saveValue hname hvalue
      · exact .saveNull hfile hvalues hnull
    · intro h
      cases h with
      | saveName h => exact absurd h hname
      | saveValue _ h => exact .inl ⟨h, rfl⟩
      | saveNull h hvalues hnull =>
        obtain rfl := Except.ok.inj (hfile.symm.trans h)
        exact .inr ⟨hvalues, hnull, rfl⟩

/-- A `LOAD DATABASE` ends in a fault of its path. -/
lemma loadPath_eq_fault {path : String} :
    (loadPath env path session).result = .error (.fault f) ↔
      (Statement.load path).Faults env session f := by
  rw [loadPath, ofChange_eq_fault]
  cases hfile : (DiskPath.ofText path).resolve env.folder with
  | error f' =>
    obtain ⟨hname, rfl⟩ := DiskPath.resolve_eq_error.mp hfile
    constructor
    · intro h
      cases h
      exact .loadName hname
    · intro h
      cases h with
      | loadName => rfl
      | loadRefused h => rw [hfile] at h; cases h
  | ok file =>
    have hsuffix := DiskPath.withSuffix_of_resolve hfile
    have hname := DiskPath.name?_of_resolve hfile
    refine (bind_eq_fault_left fun _ => faultless_ok _).trans ?_
    refine (Disk.load_eq_fault hsuffix).trans ?_
    constructor
    · rintro ⟨why, hnull, hrefused, rfl⟩
      exact .loadRefused hfile hnull hrefused
    · intro h
      cases h with
      | loadName h => exact absurd h hname
      | loadRefused h hnull hrefused =>
        obtain rfl := Except.ok.inj (hfile.symm.trans h)
        exact ⟨_, hnull, hrefused, rfl⟩

/-- **A statement other than a `SELECT`** ends in its faults when it is executed. -/
lemma perform_eq_fault {s : Statement} (hs : s.IsPlain) (hkind : s.kind ≠ .select) :
    (s.perform env session).result = .error (.fault f) ↔ s.Faults env session f := by
  cases s with
  | createTable s =>
    refine effect_eq_fault.trans (iff_of_false ?_ (by rintro ⟨⟩))
    exact CreateTable.faultless_execute (fun c hc => (hs c hc).1) f
  | dropTable s =>
    exact effect_eq_fault.trans (iff_of_false (s.faultless_execute f) (by rintro ⟨⟩))
  | update s =>
    exact effect_eq_fault.trans (iff_of_false (s.faultless_execute f) (by rintro ⟨⟩))
  | delete s =>
    exact effect_eq_fault.trans (iff_of_false (s.faultless_execute f) (by rintro ⟨⟩))
  | insert s =>
    refine (effect_eq_fault.trans Insert.execute_eq_fault).trans ?_
    constructor
    · rintro ⟨t, kind, htable, h, rfl⟩
      exact .insertLabel htable h
    · intro h
      cases h with
      | insertLabel htable h => exact ⟨_, _, htable, h, rfl⟩
  | select s => exact absurd rfl hkind
  | save path => exact savePath_eq_fault
  | load path => exact loadPath_eq_fault

end Statement

/-! ## The passage of a statement -/

namespace Payload

variable {env : Surroundings} {session : Session}

/-- What follows a statement other than a `SELECT` is an outcome. -/
lemma outcome_of_perform {s : Statement} (hkind : s.kind ≠ .select) {q : Payload}
    (h : (s.perform env session).result = .ok q) : ∃ o, q = .outcome o := by
  have heffect : ∀ e : Effect, (e.advance session).result = .ok q → ∃ o, q = .outcome o := by
    intro e he
    obtain ⟨message, -, rfl⟩ := map_eq_ok.mp he
    exact ⟨_, rfl⟩
  cases s with
  | createTable | dropTable | insert | update | delete => exact heffect _ h
  | select s => exact absurd rfl hkind
  | save path =>
    rcases savePath_cases env path session with ⟨e, hfail, -⟩ | ⟨_, _, _, -, -, hdone⟩
    · rw [Statement.perform, hfail] at h
      cases h
    · rw [Statement.perform, hdone] at h
      exact ⟨_, (Except.ok.inj h).symm⟩
  | load path =>
    rcases loadPath_cases env path session with ⟨e, hfail, -⟩ | ⟨_, _, -, -, hdone⟩
    · rw [Statement.perform, hfail] at h
      cases h
    · rw [Statement.perform, hdone] at h
      exact ⟨_, (Except.ok.inj h).symm⟩

variable (env session)

/-- The passage of a statement other than a `SELECT` ends in the fault of its execution. -/
lemma exists_passage_perform {s : Statement} (hkind : s.kind ≠ .select) :
    ∃ (names : List String) (after : Session) (r : Except Fault Outcome),
      Passage env (.statement s) session names after r ∧ names.length ≤ 8 ∧
        ∀ f, r = .error f ↔ (s.perform env session).result = .error (.fault f) := by
  have hadv := advance?_statement env session s
  rcases hresult : (s.perform env session).result with (e | f) | q
  · have hfollow : (s.perform env session).follower = .ok (.outcome (.error e.message)) := by
      rw [Advance.follower, hresult]
    exact ⟨_, _, _, .pass hadv hfollow (.capture _ _), by simp, by simp⟩
  · have hfollow : (s.perform env session).follower = .error f := by
      rw [Advance.follower, hresult]
    exact ⟨_, _, _, .crash hadv hfollow, by simp, by simp⟩
  · obtain ⟨o, rfl⟩ := outcome_of_perform hkind hresult
    have hfollow : (s.perform env session).follower = .ok (.outcome o) := by
      rw [Advance.follower, hresult]
    exact ⟨_, _, _, .pass hadv hfollow (.capture _ _), by simp, by simp⟩

/-- The passage of a `SELECT` ends in its faults. -/
lemma exists_passage_select (s : Select) :
    ∃ (names : List String) (after : Session) (r : Except Fault Outcome),
      Passage env (.statement (.select s)) session names after r ∧ names.length ≤ 8 ∧
        ∀ f, r = .error f ↔ (Statement.select s).Faults env session f := by
  cases hrefusal : s.refusal? session.store with
  | some e =>
    refine ⟨_, _, _, s.passage_refused env hrefusal, by simp, fun f => iff_of_false (by simp) ?_⟩
    rintro (_ | ⟨hasked, -, -⟩ | ⟨hasked, -, -⟩) <;> rw [hrefusal] at hasked <;> cases hasked
  | none =>
    obtain ⟨t, htable, hscan⟩ := Select.scan_of_no_refusal hrefusal
    refine ⟨_, _, _, Select.passage_scanned env hscan, ?_, fun f =>
      Select.finish_eq_error.trans ?_⟩
    · have hlen := Selection.length_finish (Operator.all.filter (·.asked s))
        ⟨t.rows, s.labels t.schema, s, .scanned⟩
      have hasked : (Operator.all.filter (·.asked s)).length ≤ 5 := List.length_filter_le _ _
      simp only [List.length_cons]
      omega
    · constructor
      · rintro (⟨kind, h, rfl⟩ | ⟨label, h, rfl⟩)
        · exact .selectCell hrefusal htable h
        · exact .selectLabel hrefusal htable h
      · intro h
        cases h with
        | selectCell _ ht h =>
          obtain rfl := Option.some.inj (htable.symm.trans ht)
          exact .inl ⟨_, h, rfl⟩
        | selectLabel _ ht h =>
          obtain rfl := Option.some.inj (htable.symm.trans ht)
          exact .inr ⟨_, h, rfl⟩

/-- **The passage of a statement** ends in its faults. -/
lemma exists_passage_faults {s : Statement} (hs : s.IsPlain) :
    ∃ (names : List String) (after : Session) (r : Except Fault Outcome),
      Passage env (.statement s) session names after r ∧ names.length ≤ 8 ∧
        ∀ f, r = .error f ↔ s.Faults env session f := by
  by_cases hkind : s.kind = .select
  · cases s with
    | select s => exact exists_passage_select env session s
    | _ => cases hkind
  · obtain ⟨names, after, r, c, hlen, hr⟩ := exists_passage_perform env session hkind
    exact ⟨names, after, r, c, hlen, fun f => (hr f).trans (Statement.perform_eq_fault hs hkind)⟩

end Payload

/-! ## Whole texts -/

/-- A text has too many digits for a statement of a kind if one of its tokens has. -/
lemma readStatement_tooManyDigits (kind : StatementKind) {text : String} {digits : ℕ} :
    readStatement kind text = .error (.tooManyDigits digits) ↔
      tokenize text = .error (.tooManyDigits digits) := by
  cases htokens : tokenize text with
  | ok tokens =>
    refine iff_of_false ?_ (by simp)
    rcases readStatement_ok_or_malformed kind htokens with ⟨s, h⟩ | ⟨e, h⟩ <;> simp [h]
  | error e =>
    obtain ⟨α, production, wrap, hread, -, -⟩ := kind.exists_production
    rw [hread, readWith, htokens]
    cases e <;> simp [Except.map]

namespace Database

/-- The faults in which the run over a text ends: a number in a statement has too many digits, or
the statement ends in a fault. -/
inductive Faults (db : Database) (now sql : String) : Fault → Prop
  | digits {kind : StatementKind} {digits : ℕ}
    (hkind : StatementKind.opening? (strip sql) = some kind)
    (h : tokenize (strip sql) = .error (.tooManyDigits digits)) :
    Faults db now sql (.tooManyDigits digits)
  | statement {s : Statement} {f : Fault} (hs : Statement.ofText? (strip sql) = some s)
    (h : s.Faults (db.surroundings now) db.session f) : Faults db now sql f

variable (db : Database) (now sql : String)

/-- A text that opens no statement has no faults. -/
lemma not_faults_of_unread {db : Database} {now sql : String}
    (h : StatementKind.opening? (strip sql) = none) (f : Fault) : ¬ db.Faults now sql f := by
  intro hf
  cases hf with
  | digits hkind => rw [h] at hkind; cases hkind
  | statement hs => rw [Statement.ofText?, h] at hs; cases hs

/-- The faults of a text that opens a statement of a kind, by what is read from it. -/
lemma faults_iff {db : Database} {now sql : String} {kind : StatementKind}
    (hopen : StatementKind.opening? (strip sql) = some kind) {f : Fault} :
    db.Faults now sql f ↔
      (∃ digits, readStatement kind (strip sql) = .error (.tooManyDigits digits) ∧
        f = .tooManyDigits digits) ∨
      ∃ s, readStatement kind (strip sql) = .ok s ∧
        s.Faults (db.surroundings now) db.session f := by
  constructor
  · intro hf
    cases hf with
    | digits _ h => exact .inl ⟨_, (readStatement_tooManyDigits kind).mpr h, rfl⟩
    | statement hs h =>
      rw [Statement.ofText?, hopen] at hs
      exact .inr ⟨_, toOption_eq_some.mp hs, h⟩
  · rintro (⟨digits, h, rfl⟩ | ⟨s, hread, h⟩)
    · exact .digits hopen ((readStatement_tooManyDigits kind).mp h)
    · exact .statement (Statement.ofText?_of_read hread) h

/-- **The passage of a text** that opens a statement ends in its faults. -/
lemma exists_passage_faults {kind : StatementKind}
    (hopen : StatementKind.opening? (strip sql) = some kind) :
    ∃ (names : List String) (after : Session) (r : Except Fault Outcome),
      Passage (db.surroundings now) (.text (strip sql)) db.session names after r ∧
        names.length ≤ 9 ∧ ∀ f, r = .error f ↔ db.Faults now sql f := by
  have hadv : (Payload.text (strip sql)).advance? (db.surroundings now) db.session =
      some ((readingStage kind).name, ⟨db.session,
        ((readStatement kind (strip sql)).mapError Failure.ofReadError).map .statement⟩) := by
    rw [Payload.advance?, hopen]
    rfl
  simp only [faults_iff hopen]
  rcases hread : readStatement kind (strip sql) with (e | digits) | s
  · rw [hread] at hadv
    exact ⟨_, _, _, .pass hadv rfl (.capture _ _), by simp, by simp⟩
  · rw [hread] at hadv
    exact ⟨_, _, _, .crash hadv rfl, by simp, by simp [eq_comm]⟩
  · obtain ⟨names, after, r, c, hlen, hr⟩ := Payload.exists_passage_faults (db.surroundings now)
      db.session (plain_of_readStatement hread)
    refine ⟨_, after, r, Passage.text_of_statement hread c, ?_, by simpa using hr⟩
    simp only [List.length_cons]
    omega

/-- What the end of a run gives: the text of its report, or what ended it without one. -/
def textOf : Ending Fault → Except Abort String
  | .report r => .ok r.text
  | .overrun limit => .error (.overrun limit)
  | .crashed f => .error (.crashed f)

/-- What executing a text gives, by the end of its run. -/
lemma execute_of_ending {ending : Ending Fault}
    (h : ((db.pipeline now).run (db.worklist sql)).1 = ending) :
    (db.execute now sql).1 = textOf ending := by
  rw [← h, execute, run]
  rcases (db.pipeline now).run (db.worklist sql) with ⟨_ | _ | _, after⟩ <;> rfl

/-- **How the execution of a text ends**, on any database and for any text. It gives a text, and
there is no fault in it; or it ends in the one fault that there is; or it overruns the budget, which
is then below nine. A limit on nested calls and the failure of a device are left out, as the head of
this file says.

**Proof sketch.** A text that opens no statement is rejected by one job. Any other one has a passage
of at most nine stages, which ends in its fault if it has one. The run follows the passage if the
budget allows that, and else overruns. -/
theorem execute_faults :
    (∃ text, (db.execute now sql).1 = .ok text ∧ ∀ f, ¬ db.Faults now sql f) ∨
    (∃ f, (db.execute now sql).1 = .error (.crashed f) ∧
      ∀ f', db.Faults now sql f' ↔ f' = f) ∨
    ((db.execute now sql).1 = .error (.overrun db.settings.budget) ∧ db.settings.budget < 9) := by
  have hp := db.stages_pipeline now
  cases hopen : StatementKind.opening? (strip sql) with
  | none =>
    by_cases hb : 1 ≤ db.settings.budget
    · obtain ⟨job, hrun⟩ := Pipeline.run_unread (w := ⟨[], db.session, db.nextRun⟩) hp
        (.text (strip sql)) (by rw [Payload.taker?, hopen]; rfl) rfl hb
      exact .inl ⟨_, db.execute_of_ending now sql (congrArg Prod.fst hrun),
        not_faults_of_unread hopen⟩
    · have hrun := Pipeline.run_zero (p := db.pipeline now) (.text (strip sql))
        (w := ⟨[], db.session, db.nextRun⟩) rfl (Int.not_le.mp hb)
      exact .inr (.inr ⟨db.execute_of_ending now sql (congrArg Prod.fst hrun), by omega⟩)
  | some kind =>
    obtain ⟨names, after, r, c, hlen, hr⟩ := db.exists_passage_faults now sql hopen
    by_cases hb : (names.length : ℤ) ≤ db.settings.budget
    · obtain ⟨noted, -, hrun⟩ :=
        Pipeline.run_passage (w := ⟨[], db.session, db.nextRun⟩) hp c rfl hb
      have hexecute := db.execute_of_ending now sql (congrArg Prod.fst hrun)
      cases r with
      | ok o => exact .inl ⟨_, hexecute, fun f hf => by cases (hr f).mpr hf⟩
      | error f =>
        refine .inr (.inl ⟨f, hexecute, fun f' => (hr f').symm.trans ?_⟩)
        rw [Except.error.injEq, eq_comm]
    · have hrun := Pipeline.run_short (w := ⟨[], db.session, db.nextRun⟩) hp c rfl
        (Int.not_le.mp hb)
      exact .inr (.inr ⟨db.execute_of_ending now sql hrun, by omega⟩)

/-- On the empty database the text that saves to the working folder itself ends in a fault. -/
theorem execute_saveDot : Reachable ⟨[], []⟩ .standard (.empty ⟨[], []⟩ .standard) [] ∧
    ((empty ⟨[], []⟩ .standard).execute "" "SAVE DATABASE '.'").1 =
      .error (.crashed (.namelessPath ".")) := by
  refine ⟨.empty, ?_⟩
  have hcrash : (match ((empty ⟨[], []⟩ .standard).execute "" "SAVE DATABASE '.'").1 with
      | .error (.crashed (.namelessPath path)) => path == "."
      | _ => false) = true := by decide +kernel
  split at hcrash
  · rename_i path hexecute
    rw [hexecute, eq_of_beq hcrash]
  · cases hcrash

/-! ## Runs that load what they saved -/

/-- **A run that loads only what it saved** meets no other faults than those of numbers and paths:
its tables hold no value that a key, a header or a file could not hold. The faults of paths are a
path without a final name, a null character in the path of a file that is written, and the refused
path of a file that is read. A limit on nested calls and the failure of a device are left out here,
too. -/
theorem Reachable.faults {disk : Disk} {settings : Settings} {db : Database}
    {saved : List (List String)} (h : Reachable disk settings db saved) {now sql : String}
    {f : Fault} (hf : db.Faults now sql f) :
    (∃ digits, f = .tooManyDigits digits) ∨ (∃ path, f = .namelessPath path) ∨
      f = .nullCharacter ∨ ∃ why path, f = .refused why path := by
  have hstore : db.session.store.WellFormed := h.kept.store
  cases hf with
  | digits => exact .inl ⟨_, rfl⟩
  | statement _ hf =>
    cases hf with
    | saveName | loadName => exact .inr (.inl ⟨_, rfl⟩)
    | saveNull => exact .inr (.inr (.inl rfl))
    | loadRefused => exact .inr (.inr (.inr ⟨_, _, rfl⟩))
    | saveValue _ hvalue =>
      obtain ⟨document, hdocument, -⟩ :=
        Store.ofDocument_toDocument hstore.isStorable (db.surroundings now).now
      rw [hdocument] at hvalue
      cases hvalue
    | insertLabel htable hlabel =>
      obtain ⟨label, hmem, hkind⟩ := List.exists_of_findSome?_eq_some hlabel.label
      obtain ⟨name, rfl⟩ := (hstore.find? htable).schema.text_of_mem hmem
      cases hkind
    | selectCell _ htable hcell =>
      have hplain : PlainRows _ := fun row hrow => ((hstore.find? htable).rows row hrow).plain
      have hnone := hcell.cell.symm.trans ((hplain.candidates _ _).unhashableCell? _)
      cases hnone
    | selectLabel _ htable hlabel =>
      obtain ⟨names, rest, hlabels, hno⟩ := hlabel.label
      obtain ⟨name, rfl⟩ := Select.text_of_mem_labels (hstore.find? htable).schema _
        (hlabels ▸ List.mem_append_right _ List.mem_cons_self)
      exact absurd rfl (hno name)

end Database

end StagedQuery
