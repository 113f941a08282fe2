import StagedQuery.Proofs.Database.Reachable
import StagedQuery.Proofs.Query.Answer
import StagedQuery.Proofs.Sql.Clauses
import StagedQuery.Proofs.Store.Faults
import StagedQuery.Proofs.Store.Matching

set_option relaxedAutoImplicit false
set_option autoImplicit false

/-!
# Which rows a clause matches

`SELECT`, `UPDATE` and `DELETE` go through a table each on a path of its own, and count, check and
keep rows in their own way. With the same clause they come to the same rows.

## Main definitions

* `Select.allWhere` — all columns of the rows that meet a condition.
* `Database.afterRun` — a database after one more run.

## Main results

* `Database.execute_of_effect` — a text whose statement has an effect on the store.
* `Database.execute_allWhere`, `Database.execute_delete`, `Database.execute_update` — what the
  statements do with a condition, and when they are refused.
* `Database.Reachable.clause_agreement` — one clause in three statements.
-/

namespace StagedQuery

namespace Select

/-- All columns of the rows of a table that meet a condition. -/
def allWhere (table : String) (p : Predicate) : Select :=
  ⟨table, [], some p, none, none, none, false⟩

variable {store : Store} {table : String} {p : Predicate} {t : Table}

/-- It is refused for the first column of its condition that the table lacks. -/
lemma refusal_allWhere (ht : store.find? table = some t) :
    (allWhere table p).refusal? store = missing? t.schema p.columns := by
  rw [refusal?, show store.find? (allWhere table p).table = some t from ht]
  show ((none : Option StatementError).or (missing? t.schema p.columns)).or none = _
  rw [Option.none_or, Option.or_none]

end Select

namespace Database

variable {db : Database} {now sql : String} {kind : StatementKind} {s : Statement} {name : String}

/-- The database after one run that leaves given tables. -/
def afterRun (db : Database) (tables : List Table) : Database :=
  ⟨⟨⟨tables⟩, db.disk⟩, db.settings, db.nextRun + 1⟩

/-- **A text whose statement has an effect on the store** gives the message of the effect, or its
error, and leaves the tables of the effect. -/
lemma execute_of_effect (hread : readStatement kind (strip sql) = .ok s)
    (hb : 3 ≤ db.settings.budget) {effect : Effect} {o : Outcome}
    (h : s.perform (db.surroundings now) db.session = effect.advance db.session)
    (ho : (effect.advance db.session).follower = .ok (.outcome o)) :
    db.execute now sql = (.ok o.render, db.afterRun effect.store.tables) := by
  rw [execute_of_follower hread hb (h ▸ ho), h]
  rfl

/-- **A `SELECT` of all columns with a condition** lists the rows that meet the condition. -/
lemma execute_allWhere {t : Table} {p : Predicate} (hstore : db.store.WellFormed)
    (hread : readStatement kind (strip sql) = .ok (.select (Select.allWhere name p)))
    (ht : db.store.find? name = some t) (hb : 5 ≤ db.settings.budget)
    (h : ∀ name ∈ p.columns, t.schema.has (.text name) = true) :
    ∃ shown, listing t.schema.labels (t.rows.filter p.holds) = .ok shown ∧
      db.execute now sql = (.ok shown, db.afterRun db.store.tables) := by
  have hrefusal : (Select.allWhere name p).refusal? db.session.store = none :=
    (Select.refusal_allWhere ht).trans (Select.missing?_eq_none h)
  obtain ⟨t', shown, ht', hshown, c⟩ :=
    Select.passage_answered (db.surroundings now) hstore hrefusal
  obtain rfl := Option.some.inj (ht.symm.trans ht')
  exact ⟨shown, hshown, execute_eq_of_passage (Passage.text_of_statement hread c) hb⟩

/-- **A `SELECT` whose condition names a missing column** gives the error for the first one. -/
lemma execute_allWhere_refused {t : Table} {p : Predicate}
    (hread : readStatement kind (strip sql) = .ok (.select (Select.allWhere name p)))
    (ht : db.store.find? name = some t) (hb : 3 ≤ db.settings.budget) {e : StatementError}
    (h : Select.missing? t.schema p.columns = some e) :
    db.execute now sql = (.ok (Outcome.error e.message).render, db.afterRun db.store.tables) := by
  have hscan : (Select.allWhere name p).scan db.session.store = .error (.statement e) :=
    Select.scan_of_refusal ((Select.refusal_allWhere ht).trans h)
  have hfollower : ((Statement.select (Select.allWhere name p)).perform (db.surroundings now)
      db.session).follower = .ok (.outcome (.error e.message)) := by
    rw [Statement.perform, hscan]
    rfl
  exact execute_of_follower hread hb hfollower

/-- **A `DELETE` with a condition** leaves the rows that do not meet it. -/
lemma execute_delete {t : Table} {p : Predicate}
    (hread : readStatement kind (strip sql) = .ok (.delete ⟨name, some p⟩))
    (ht : db.store.find? name = some t) (hb : 3 ≤ db.settings.budget)
    (h : ∀ name ∈ p.columns, t.schema.has (.text name) = true) :
    db.execute now sql = (.ok (changeMessage (t.rows.filter p.holds).length "deleted" none),
      db.afterRun (db.store.put ⟨t.schema, t.rows.filter (!p.holds ·)⟩).tables) := by
  have hexecute : Delete.execute ⟨name, some p⟩ db.store =
      ⟨db.store.put ⟨t.schema, t.rows.filter (!p.holds ·)⟩,
        .ok (changeMessage (t.rows.countP p.holds) "deleted" none)⟩ :=
    Delete.execute_of_named (s := ⟨name, some p⟩) ht h
  rw [← List.countP_eq_length_filter]
  exact execute_of_effect hread hb (congrArg (Effect.advance · db.session) hexecute)
    (o := .ok _) rfl

/-- **A `DELETE` whose condition names a missing column** gives the error for the first one. -/
lemma execute_delete_refused {t : Table} {p : Predicate}
    (hread : readStatement kind (strip sql) = .ok (.delete ⟨name, some p⟩))
    (ht : db.store.find? name = some t) (hb : 3 ≤ db.settings.budget) {e : StatementError}
    (h : Select.missing? t.schema p.columns = some e) :
    db.execute now sql = (.ok (Outcome.error e.message).render, db.afterRun db.store.tables) := by
  have hrequire : t.schema.require (p.columns.map .text) = .error (.statement e) := by
    rw [Select.require_names, h]
    rfl
  have hexecute : Delete.execute ⟨name, some p⟩ db.store = ⟨db.store, .error (.statement e)⟩ :=
    Delete.execute_of_missing (s := ⟨name, some p⟩) ht hrequire
  exact execute_of_effect hread hb (congrArg (Effect.advance · db.session) hexecute) rfl

/-- **An `UPDATE` that is admitted** assigns its values in the rows that meet its condition. -/
lemma execute_update {s : Update} {t : Table} (hstore : db.store.WellFormed)
    (hread : readStatement kind (strip sql) = .ok (.update s))
    (ht : db.store.find? s.table = some t) (hb : 3 ≤ db.settings.budget)
    (h : s.Admitted t.schema) :
    db.execute now sql =
      (.ok (changeMessage (t.rows.filter (Table.meets s.condition)).length "updated" none),
        db.afterRun (db.store.put ⟨t.schema, t.rows.map fun row =>
          if Table.meets s.condition row then s.assignedRow row else row⟩).tables) := by
  rw [← List.countP_eq_length_filter]
  exact execute_of_effect hread hb
    (congrArg (Effect.advance · db.session) (Update.execute_of_admitted hstore ht h))
    (o := .ok _) rfl

/-- **An `UPDATE` that is not admitted** gives an error and leaves the tables. -/
lemma execute_update_refused {s : Update} {t : Table} (hstore : db.store.WellFormed)
    (hread : readStatement kind (strip sql) = .ok (.update s))
    (ht : db.store.find? s.table = some t) (hb : 3 ≤ db.settings.budget)
    (h : ¬ s.Admitted t.schema) : ∃ e : EngineError,
      db.execute now sql = (.ok (Outcome.error e.message).render,
        db.afterRun db.store.tables) := by
  rcases heffect : s.execute db.store with ⟨after, (e | f) | message⟩
  · have hstore : (s.execute db.store).store = db.store :=
      Update.execute_error (congrArg Effect.result heffect)
    rw [heffect] at hstore
    rw [show after = db.store from hstore] at heffect
    exact ⟨e, execute_of_effect hread hb (congrArg (Effect.advance · db.session) heffect) rfl⟩
  · exact absurd (congrArg Effect.result heffect) (s.faultless_execute f)
  · obtain ⟨t', ht', hadmitted⟩ :=
      (Update.result_eq_ok_iff hstore).mp ⟨message, congrArg Effect.result heffect⟩
    obtain rfl := Option.some.inj (ht.symm.trans ht')
    exact absurd hadmitted h

/-! ## One clause in three statements -/

/-- **`SELECT`, `UPDATE` and `DELETE` agree on which rows match.** Let a database be reached by
statements, with a budget of at least five jobs, and let a table of it and a clause be given.

* If the table has all columns of the clause, then `SELECT * FROM t WHERE …` lists the rows that
  meet the clause, in the order of the table, and leaves the tables; `DELETE FROM t WHERE …` tells
  their number and leaves the other rows, in order.
* If the table lacks one of the columns, then both give the error for the first of these, and leave
  the tables.
* A text `UPDATE t SET … WHERE …` is read as an `UPDATE` with this clause. If it is admitted, it
  tells the number of rows that meet the clause, and puts the last value that is assigned to each
  column into these rows; every other value and row stays, and stays where it is. Otherwise it gives
  an error and leaves the tables.

**Proof sketch.** The clause is read in place as it is read alone. The operator that filters, the
update of every row and the selection of the rows that are left are each an evaluation of the same
condition, row by row. -/
theorem Reachable.clause_agreement {disk : Disk} {settings : Settings} {db : Database}
    {saved : List (List String)} (h : Reachable disk settings db saved) (hb : 5 ≤ settings.budget)
    {t : Table} (ht : t ∈ db.store.tables) {clause : String} {p : Predicate}
    (hclause : readPredicate clause = .ok p) (now : String) :
    ∃ before after, db.store.tables = before ++ t :: after ∧
      ((∀ name ∈ p.columns, t.schema.has (.text name) = true) →
        (∃ shown, listing t.schema.labels (t.rows.filter p.holds) = .ok shown ∧
          db.execute now (selectText t.schema.name clause) =
            (.ok shown, db.afterRun (before ++ t :: after))) ∧
        db.execute now (deleteText t.schema.name clause) =
          (.ok (changeMessage (t.rows.filter p.holds).length "deleted" none),
            db.afterRun (before ++ ⟨t.schema, t.rows.filter (!p.holds ·)⟩ :: after))) ∧
      ((∃ name ∈ p.columns, t.schema.has (.text name) = false) →
        ∃ name ∈ p.columns, t.schema.has (.text name) = false ∧
          ∀ sql ∈ [selectText t.schema.name clause, deleteText t.schema.name clause],
            db.execute now sql =
              (.ok (Outcome.error
                (StatementError.noSuchColumn (.text name) t.schema.name).message).render,
                db.afterRun (before ++ t :: after))) ∧
      (∀ assigned assignments, Written (CommaList Assignment) assigned.toList assignments →
        readStatement .update (strip (updateText t.schema.name assigned clause)) =
          .ok (.update ⟨t.schema.name, assignments, some p⟩)) ∧
      ∀ sql (s : Update), readStatement .update (strip sql) = .ok (.update s) →
        s.table = t.schema.name → s.condition = some p →
        (s.Admitted t.schema → db.execute now sql =
          (.ok (changeMessage (t.rows.filter p.holds).length "updated" none),
            db.afterRun (before ++ ⟨t.schema, t.rows.map fun row =>
              if p.holds row then s.assignedRow row else row⟩ :: after))) ∧
        (¬ s.Admitted t.schema → ∃ e : EngineError, db.execute now sql =
          (.ok (Outcome.error e.message).render, db.afterRun (before ++ t :: after))) := by
  have hstore := h.kept.store
  have hfind := Store.find?_of_mem hstore.names ht
  have htable := (h.named t ht).table
  rw [← h.settings_eq] at hb
  have hb3 : 3 ≤ db.settings.budget := by omega
  have hselect := readStatement_selectText htable hclause
  have hdelete := readStatement_deleteText htable hclause
  obtain ⟨before, after, htables, hput⟩ := Store.exists_place hfind
  have hrows : ∀ rows, (db.store.put ⟨t.schema, rows⟩).tables =
      before ++ ⟨t.schema, rows⟩ :: after := fun rows => hput ⟨t.schema, rows⟩ rfl
  refine ⟨before, after, htables, fun hhas => ⟨?_, ?_⟩, fun hlacks => ?_,
    fun _ _ hassigned => readStatement_updateText htable hassigned hclause,
    fun sql s hread hname hcondition => ⟨fun hadmitted => ?_, fun hrefused => ?_⟩⟩
  · rw [← htables]
    exact execute_allWhere hstore hselect hfind hb hhas
  · rw [execute_delete hdelete hfind hb3 hhas, hrows]
  · obtain ⟨name, hname, hlacks, hmissing⟩ := Select.exists_missing? hlacks
    refine ⟨name, hname, hlacks, List.forall_mem_cons.mpr ⟨?_, List.forall_mem_singleton.mpr ?_⟩⟩
    · rw [← htables]
      exact execute_allWhere_refused hselect hfind hb3 hmissing
    · rw [← htables]
      exact execute_delete_refused hdelete hfind hb3 hmissing
  · rw [← hname] at hfind
    rw [execute_update hstore hread hfind hb3 hadmitted, hrows, hcondition]
    rfl
  · rw [← hname] at hfind
    rw [← htables]
    exact execute_update_refused hstore hread hfind hb3 hrefused

/-- A clause that the one row of a table meets. -/
theorem clause_agreement_oneRow :
    (oneRow.execute "" "DELETE FROM t WHERE a = 7").1 = .ok "1 row deleted" ∧
      (oneRow.execute "" "DELETE FROM t WHERE a = 7").2.store.tables.map Table.rows = [[]] := by
  obtain ⟨saved, hreach⟩ := exists_reachable_oneRow
  have hcheck : (readPredicate "a = 7").toOption.map (fun p => oneRow.store.tables.map fun t =>
      (t.schema.name, p.columns.all fun name => t.schema.has (.text name),
        (t.rows.filter p.holds).length, (t.rows.filter (!p.holds ·)).length)) =
      some [("t", true, 1, 0)] := by
    decide +kernel
  obtain ⟨p, hp, hparts⟩ := Option.map_eq_some_iff.mp hcheck
  obtain ⟨t, ht, hparts⟩ := List.map_eq_singleton_iff.mp hparts
  obtain ⟨hname, hhas, hmatching, hothers⟩ : t.schema.name = "t" ∧ _ ∧ _ ∧ _ := by
    simpa only [Prod.mk.injEq] using hparts
  obtain ⟨before, after, htables, hall, -⟩ := Reachable.clause_agreement hreach (by decide)
    (t := t) (by simp [ht]) (toOption_eq_some.mp hp) ""
  obtain ⟨-, hexecute⟩ := hall (List.all_eq_true.mp hhas)
  obtain ⟨rfl, rfl⟩ : before = [] ∧ after = [] := by
    rcases List.append_eq_singleton_iff.mp (htables.symm.trans ht) with ⟨hbefore, h⟩ | ⟨-, h⟩
    · exact ⟨hbefore, (List.cons.inj h).2⟩
    · cases h
  have htext : deleteText "t" "a = 7" = "DELETE FROM t WHERE a = 7" := by decide +kernel
  rw [hname, htext, hmatching] at hexecute
  rw [hexecute]
  have hmessage : changeMessage (1 : ℕ) "deleted" none = "1 row deleted" := by decide +kernel
  refine ⟨congrArg Except.ok hmessage, ?_⟩
  show [t.rows.filter (!p.holds ·)] = [[]]
  rw [List.length_eq_zero_iff.mp hothers]

end Database

end StagedQuery
