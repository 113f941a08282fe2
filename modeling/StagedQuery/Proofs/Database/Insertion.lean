import StagedQuery.Proofs.Database.Reachable
import StagedQuery.Proofs.Sql.Splitting
import StagedQuery.Proofs.Sql.Written
import StagedQuery.Proofs.Store.FullRows

set_option relaxedAutoImplicit false
set_option autoImplicit false

/-!
# Insertions into the tables of a run

A script that inserts rows of literals stores exactly the values that the literals are written for,
whatever characters their texts have. No layer between the script and the table takes anything from
a text, and no text ends its literal. Any other `INSERT` is admitted as a whole or refused as a
whole, with the error of the first check that it does not pass.

## Main results

* `Database.executeScript_of_written` — a script of one statement executes that statement.
* `Database.execute_of_message` — a statement that succeeds with a message.
* `Database.Reachable.executeScript_insert` — a script that inserts rows of literals.
* `Database.Reachable.insert_outcome` — when an `INSERT` succeeds, what it does, and how it fails.
-/

namespace StagedQuery

namespace Database

/-! ## One statement -/

/-- **A script of one written statement** executes a text that is read as that statement. -/
lemma executeScript_of_written {kind : StatementKind} {text : String} {s : Statement}
    (h : Written (Production kind) text.toList s) (db : Database) (now : String) :
    ∃ sql, db.executeScript now (text ++ ";") = db.executeAll now [sql] ∧
      readStatement kind (strip sql) = .ok s := by
  obtain ⟨ws, hplain, hlexed, hphrase⟩ := h.exists_lexed
  have hread : readStatement kind (strip (strip text)) = .ok s := by
    refine readStatement_of_lexed ?_ hphrase
    rw [strip, strip, String.toList_ofList, String.toList_ofList]
    exact hlexed.strip.strip
  have hne : strip text ≠ "" := by
    intro hempty
    have hopen := opening?_of_readStatement hread
    have hnone : StatementKind.opening? (strip "") = none := by decide +kernel
    rw [hempty, hnone] at hopen
    cases hopen
  refine ⟨strip text, ?_, hread⟩
  rw [executeScript, statementTexts_of_sealed (hlexed.sealed hplain) hne]

/-- **A text whose statement succeeds with a message** gives the message, and leaves the session
that the statement leaves. It takes three jobs. -/
lemma execute_of_message {db : Database} {now sql : String} {kind : StatementKind} {s : Statement}
    (hread : readStatement kind (strip sql) = .ok s) (hb : 3 ≤ db.settings.budget) {after : Session}
    {message : String} (h : s.perform (db.surroundings now) db.session =
      ⟨after, .ok (.outcome (.ok message))⟩) :
    db.execute now sql = (.ok message, ⟨after, db.settings, db.nextRun + 1⟩) := by
  have hfollower : (s.perform (db.surroundings now) db.session).follower =
      .ok (.outcome (.ok message)) := by
    rw [h]
    rfl
  have hexecute := execute_of_follower hread hb hfollower
  rw [h] at hexecute
  exact hexecute

/-! ## Rows of literals -/

/-- **Quoted values survive the whole path.** Let a database be reached by statements, with a budget
of at least nine jobs, and let a table of it and any rows be given. Each row gives a value for every
column: nothing, an integer with no more digits than a statement may have, or any text; but nothing
for no required column. Then the script `INSERT INTO t VALUES (…), …, (…);` with the literals of
these values gives one text, which tells the number of rows. Behind the old rows of the table it
stores exactly the values that were given, in order, under the labels of the columns. The schema,
the other tables and their order, the disk and the settings stay. -/
theorem Reachable.executeScript_insert {disk : Disk} {settings : Settings} {db : Database}
    {saved : List (List String)} (h : Reachable disk settings db saved) (hb : 9 ≤ settings.budget)
    {t : Table} (ht : t ∈ db.store.tables) {rows : List (List Value)} (hne : rows ≠ [])
    (hlength : ∀ values ∈ rows, values.length = t.schema.columns.length)
    (hvalues : ∀ values ∈ rows, ∀ v ∈ values, v.IsWritable)
    (hpresent : ∀ values ∈ rows, ∀ p ∈ t.schema.columns.zip values,
      p.1.presence.isRequired = true → p.2.isNull = false) (now : String) :
    ∃ before after, db.store.tables = before ++ t :: after ∧
      db.executeScript now (insertText t.schema.name rows ++ ";") =
        (.ok [changeMessage rows.length "inserted" (some t.schema.name)],
          ⟨⟨⟨before ++ ⟨t.schema, t.rows ++ rows.map (t.schema.labels.zip ·)⟩ :: after⟩, db.disk⟩,
            db.settings, db.nextRun + 1⟩) := by
  have hstore := h.kept.store
  have hfind := Store.find?_of_mem hstore.names ht
  have hcolumns := (hstore.tables t ht).schema.nonempty
  have hfull : ∀ values ∈ rows, values ≠ [] ∧ ∀ v ∈ values, v.IsWritable := by
    refine fun values hmem => ⟨?_, hvalues values hmem⟩
    rintro rfl
    exact hcolumns (List.length_eq_zero_iff.mp (hlength _ hmem).symm)
  have hwritten := written_insert (h.named t ht).table hne hfull
  obtain ⟨sql, hscript, hread⟩ := db.executeScript_of_written hwritten now
  have hexecute := Insert.execute_full (s := ⟨t.schema.name, none, rows⟩) hstore hfind rfl
    fun values hmem => ⟨hlength values hmem, hpresent values hmem⟩
  obtain ⟨before, after, htables, hput⟩ := Store.exists_tables_put hfind
    (u := ⟨t.schema, t.rows ++ rows.map (t.schema.labels.zip ·)⟩) rfl
  refine ⟨before, after, htables, ?_⟩
  have hperform : (Statement.insert ⟨t.schema.name, none, rows⟩).perform (db.surroundings now)
      db.session = ⟨⟨⟨before ++ ⟨t.schema, t.rows ++ rows.map (t.schema.labels.zip ·)⟩ :: after⟩,
        db.disk⟩, .ok (.outcome (.ok
          (changeMessage rows.length "inserted" (some t.schema.name))))⟩ := by
    show (Insert.execute ⟨t.schema.name, none, rows⟩ db.store).advance db.session = _
    rw [hexecute, ← hput]
    rfl
  have hbudget : 3 ≤ db.settings.budget := by
    rw [h.settings_eq]
    omega
  rw [hscript, executeAll, execute_of_message hread hbudget hperform]
  rfl

/-- Two rows for a table of two columns. The text in the first one looks like the end of the row and
of the script. -/
def quotedRows : List (List Value) :=
  [[.int (-5), .text "x'); \"DROP' TABLE t;\n"], [.int 8, .null]]

/-- A text that looks like the end of its row and of the script is stored as it is. -/
theorem executeScript_insert_quotes :
    ∃ after old, oneRow.executeScript ""
        "INSERT INTO t VALUES (-5, 'x''); \"DROP'' TABLE t;\n'), (8, NULL);" =
          (.ok ["2 rows inserted into 't'"], after) ∧
      after.store.tables.map (fun t => t.rows.map (·.map Prod.snd)) = [old ++ quotedRows] := by
  obtain ⟨saved, hreach⟩ := exists_reachable_oneRow
  have htables : oneRow.store.tables.map (fun t => (t.schema.name,
      t.schema.columns.map Column.presence)) = [("t", [.primary, .optional])] := by decide +kernel
  obtain ⟨t, ht, hschema⟩ := List.map_eq_singleton_iff.mp htables
  obtain ⟨hname, hpresence⟩ := Prod.mk.inj hschema
  obtain ⟨a, bs, hcolumns, ha, hbs⟩ := List.map_eq_cons_iff.mp hpresence
  obtain ⟨b, rfl, hb⟩ := List.map_eq_singleton_iff.mp hbs
  have hpresent : ∀ values ∈ quotedRows, ∀ p ∈ t.schema.columns.zip values,
      p.1.presence.isRequired = true → p.2.isNull = false := by
    simp [quotedRows, hcolumns, ha, hb, -Prod.forall, Presence.isRequired, Value.isNull]
  obtain ⟨before, after, hbefore, hscript⟩ := hreach.executeScript_insert (by decide +kernel)
    (by simp [ht]) (by decide) (by simp [quotedRows, hcolumns]) (by decide +kernel) hpresent ""
  obtain ⟨rfl, rfl⟩ : before = [] ∧ after = [] := by
    have hlength := congrArg List.length (ht.symm.trans hbefore)
    simp only [List.length_append, List.length_cons, List.length_nil] at hlength
    exact ⟨List.length_eq_zero_iff.mp (by omega), List.length_eq_zero_iff.mp (by omega)⟩
  have htext : insertText "t" quotedRows ++ ";" =
      "INSERT INTO t VALUES (-5, 'x''); \"DROP'' TABLE t;\n'), (8, NULL);" := by decide +kernel
  rw [hname, htext] at hscript
  refine ⟨_, t.rows.map (·.map Prod.snd), hscript, ?_⟩
  simp [Database.store, Schema.labels, hcolumns, quotedRows]

/-! ## Any `INSERT` -/

/-- **Which insertions succeed, and what they do.** Let a database be reached by statements. An
`INSERT` succeeds just if there is its table, its column list, if it has one, names columns of the
table only and each of them once, every list of values has the length of the column list, else that
of the schema, and no completed row is empty in a required column. It then adds one row for each
list of values, in order, behind the rows of the table; each of these has the labels of the schema
in order, with the values given and the defaults for the other columns. Otherwise it leaves the
store, and its error is that of the first violation: the table, the first name that is no column, a
repetition, and then list by list first its length, with its number where there are several lists,
and then the first required column that is empty. -/
theorem Reachable.insert_outcome {disk : Disk} {settings : Settings} {db : Database}
    {saved : List (List String)} (h : Reachable disk settings db saved) (s : Insert) :
    ((∃ message, (s.execute db.store).result = .ok message) ↔
      ∃ t, db.store.find? s.table = some t ∧ s.Admitted t.schema) ∧
    (∀ t, db.store.find? s.table = some t → s.Admitted t.schema →
      ∃ rows before after, List.Forall₂ (s.Completes t.schema) s.rows rows ∧
        db.store.tables = before ++ t :: after ∧
        s.execute db.store = ⟨⟨before ++ ⟨t.schema, t.rows ++ rows⟩ :: after⟩,
          .ok (changeMessage rows.length "inserted" (some s.table))⟩) ∧
    ∀ e, (s.execute db.store).result = .error e ↔
      (s.execute db.store).store = db.store ∧ ∃ v, s.Violation db.store v ∧ e = .error v := by
  have hstore := h.kept.store
  refine ⟨Insert.result_eq_ok_iff hstore, fun t ht hadmitted => ?_, fun e => ?_⟩
  · obtain ⟨rows, hrows, hexecute⟩ := Insert.execute_of_admitted hstore ht hadmitted
    have hname : t.schema.name = s.table := Store.name_of_find? ht
    obtain ⟨before, after, htables, hput⟩ := Store.exists_tables_put ht
      (u := ⟨t.schema, t.rows ++ rows⟩) hname
    refine ⟨rows, before, after, hrows, htables, ?_⟩
    rw [hexecute, ← hput]
  · rw [← Insert.result_eq_error_iff hstore]
    exact ⟨fun he => ⟨Insert.execute_error he, he⟩, fun he => he.2⟩

/-- Two lists of values, the second of which is too long. -/
def longInsert : Insert := ⟨"t", some ["a"], [[.int 1], [.int 2, .int 3]]⟩

/-- The error names the second list, and the first one leaves no row in the table. -/
theorem insert_outcome_long :
    (longInsert.execute oneRow.store).store = oneRow.store ∧
      ∃ v, longInsert.Violation oneRow.store v ∧
        v.message = "Column count mismatch (row 2). 1 columns named, but 2 values given" := by
  obtain ⟨saved, hreach⟩ := exists_reachable_oneRow
  have hmessage : (match (longInsert.execute oneRow.store).result with
      | .error (.error v) => v.message
      | _ => "") = "Column count mismatch (row 2). 1 columns named, but 2 values given" := by
    decide +kernel
  cases hresult : (longInsert.execute oneRow.store).result with
  | ok message =>
    rw [hresult] at hmessage
    simp at hmessage
  | error e =>
    obtain ⟨hstore, v, hviolation, rfl⟩ :=
      ((Reachable.insert_outcome hreach longInsert).2.2 e).mp hresult
    rw [hresult] at hmessage
    exact ⟨hstore, v, hviolation, hmessage⟩

end Database

end StagedQuery
