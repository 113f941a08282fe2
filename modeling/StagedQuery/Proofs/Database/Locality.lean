import StagedQuery.Proofs.Database.Faults
import StagedQuery.Proofs.Store.Locality

set_option relaxedAutoImplicit false
set_option autoImplicit false

/-!
# Texts are local to their table

What executing a text gives depends, apart from the settings, on the table that its statement names
alone; and no other table changes. This holds for the whole run over the text: its text, the fault
that ends it, and its end for lack of budget.

## Main results

* `Statement.exists_passage_congr` — a statement has the same passage from two sessions that agree
  on its table.
* `Database.execute_congr` — a text gives the same on two databases that agree on its table.
* `Database.execute_table` — the database after a text.
* `Database.execute_local` — both, with what stays as it is, and texts in either order.
-/

namespace StagedQuery

/-! ## One statement -/

namespace Statement

variable {env env' : Surroundings} {session session' : Session} {s : Statement} {name : String}

/-- A statement gives the same from two sessions that agree on its table. -/
lemma perform_congr (hs : s.table? = some name)
    (h : session.store.find? name = session'.store.find? name) :
    (s.perform env session).result = (s.perform env' session').result := by
  cases s with
  | createTable s | dropTable s | insert s | update s | delete s =>
    obtain rfl := Option.some.inj hs
    exact congrArg (Except.map _) (s.agree h).result
  | select s =>
    obtain rfl := Option.some.inj hs
    exact congrArg (Except.map _) (s.scan_congr h)
  | save | load => cases hs

/-- A statement on a table leaves the disk. -/
lemma session_perform (hs : s.table? = some name) :
    (s.perform env session).session = ⟨s.storeAfter session.store, session.disk⟩ := by
  cases s with
  | createTable | dropTable | insert | select | update | delete => rfl
  | save | load => cases hs

/-- **A statement has the same passage** from two sessions in which it gives the same. -/
lemma exists_passage_congr
    (h : (s.perform env session).result = (s.perform env' session').result) :
    ∃ names r, (∃ after, Passage env (.statement s) session names after r) ∧
      ∃ after, Passage env' (.statement s) session' names after r := by
  have hadv := Payload.advance?_statement env session s
  have hadv' := Payload.advance?_statement env' session' s
  have hfollower : (s.perform env session).follower = (s.perform env' session').follower := by
    rw [Advance.follower, Advance.follower, h]
  cases hnext : (s.perform env session).follower with
  | error f =>
    rw [hfollower] at hnext
    exact ⟨_, _, ⟨_, .crash hadv (hfollower.trans hnext)⟩, _, .crash hadv' hnext⟩
  | ok q =>
    obtain ⟨names, r, c, -⟩ := Payload.exists_passage_settled (Payload.settled_perform s q hnext)
    rw [hfollower] at hnext
    exact ⟨_, r, ⟨_, .pass hadv (hfollower.trans hnext) (c _ _)⟩, _, .pass hadv' hnext (c _ _)⟩

end Statement

/-! ## Whole texts -/

namespace Database

variable {db db' : Database} {now now' sql sql' : String} {s s' : Statement} {name name' : String}

/-- What executing a text gives, by the passage of the text. -/
lemma execute_of_passage {names : List String} {after : Session} {r : Except Fault Outcome}
    (c : Passage (db.surroundings now) (.text (strip sql)) db.session names after r) :
    (db.execute now sql).1 =
      if (names.length : ℤ) ≤ db.settings.budget then (r.mapError .crashed).map Outcome.render
      else .error (.overrun db.settings.budget) := by
  split
  · next hb => rw [execute_eq_of_passage c hb]
  · next hb =>
    have hrun := Pipeline.run_short (p := db.pipeline now) (w := ⟨[], db.session, db.nextRun⟩)
      (db.stages_pipeline now) c rfl (Int.not_le.mp hb)
    rw [db.execute_of_ending now sql hrun]
    rfl

/-- **A text gives the same on two databases** that have the same settings and agree on its
table. -/
theorem execute_congr (hread : Statement.ofText? (strip sql) = some s) (hs : s.table? = some name)
    (hsettings : db.settings = db'.settings)
    (h : db.store.find? name = db'.store.find? name) :
    (db.execute now sql).1 = (db'.execute now' sql).1 := by
  obtain ⟨kind, -, hkind⟩ := Option.bind_eq_some_iff.mp hread
  rw [toOption_eq_some] at hkind
  have hresult : (s.perform (db.surroundings now) db.session).result =
      (s.perform (db'.surroundings now') db'.session).result := Statement.perform_congr hs h
  obtain ⟨names, r, ⟨_, c⟩, _, c'⟩ := Statement.exists_passage_congr hresult
  rw [execute_of_passage (Passage.text_of_statement hkind c),
    execute_of_passage (Passage.text_of_statement hkind c'), hsettings]

/-- **The database after a text** whose statement names a table: the statement has been executed on
the store, if the budget allows two jobs, and one more run was made. -/
theorem execute_table (hread : Statement.ofText? (strip sql) = some s)
    (hs : s.table? = some name) :
    (db.execute now sql).2 =
      ⟨⟨if 2 ≤ db.settings.budget then s.storeAfter db.store else db.store, db.disk⟩,
        db.settings, db.nextRun + 1⟩ := by
  have hsession := db.session_execute now sql
  rw [Payload.sessionAfter, hread] at hsession
  dsimp only at hsession
  rw [Statement.session_perform hs] at hsession
  have hparts : (db.execute now sql).2 =
      ⟨(db.execute now sql).2.session, db.settings, db.nextRun + 1⟩ := rfl
  rw [hparts, hsession]
  split <;> rfl

/-- The store after a text whose statement names a table. -/
lemma store_execute (hread : Statement.ofText? (strip sql) = some s) (hs : s.table? = some name) :
    (db.execute now sql).2.store =
      if 2 ≤ db.settings.budget then s.storeAfter db.store else db.store := by
  rw [execute_table hread hs]
  rfl

/-- A text leaves the tables that its statement does not name. -/
lemma keepsOthers_execute (hread : Statement.ofText? (strip sql) = some s)
    (hs : s.table? = some name) : db.store.KeepsOthers name (db.execute now sql).2.store := by
  rw [store_execute hread hs]
  split
  · exact Statement.keepsOthers hs db.store
  · exact .refl name db.store

/-- **Texts on the rows of different tables** leave the same database in either order. -/
lemma execute_comm (hread : Statement.ofText? (strip sql) = some s) (hs : s.table? = some name)
    (hread' : Statement.ofText? (strip sql') = some s') (hs' : s'.table? = some name')
    (hne : name ≠ name') (hkeeps : s.KeepsTables) (hkeeps' : s'.KeepsTables)
    (hname : db.store.has name = true) (hname' : db.store.has name' = true) :
    ((db.execute now sql).2.execute now' sql').2 = ((db.execute now' sql').2.execute now sql).2 := by
  have hcomm := Statement.storeAfter_comm hs hs' hne hkeeps hkeeps' hname hname'
  rw [execute_table hread' hs', execute_table hread hs, execute_table hread hs,
    execute_table hread' hs']
  by_cases hb : 2 ≤ db.settings.budget
  · simp only [store, disk, if_pos hb] at hcomm ⊢
    rw [hcomm]
  · simp only [store, disk, if_neg hb]

/-- **A text is local to the table of its statement.** On two databases that have the same settings
and agree on the table, it gives the same text, or the same end without one, and leaves the same
table. The other tables stay as they are, in their places. So two texts on the rows of different
tables that are there can be executed in either order: they give the same, and leave the same
database. -/
theorem execute_local (hread : Statement.ofText? (strip sql) = some s)
    (hs : s.table? = some name) (db : Database) (now : String) :
    (∀ (db' : Database) (now' : String), db.settings = db'.settings →
      db.store.find? name = db'.store.find? name →
      (db.execute now sql).1 = (db'.execute now' sql).1 ∧
        (db.execute now sql).2.store.find? name = (db'.execute now' sql).2.store.find? name) ∧
    db.store.KeepsOthers name (db.execute now sql).2.store ∧
    ∀ (now' sql' : String) (s' : Statement) (name' : String),
      Statement.ofText? (strip sql') = some s' → s'.table? = some name' → name ≠ name' →
      s.KeepsTables → s'.KeepsTables → db.store.has name = true → db.store.has name' = true →
      (db.execute now sql).1 = ((db.execute now' sql').2.execute now sql).1 ∧
        (db.execute now' sql').1 = ((db.execute now sql).2.execute now' sql').1 ∧
        ((db.execute now sql).2.execute now' sql').2 =
          ((db.execute now' sql').2.execute now sql).2 := by
  refine ⟨fun db' now' hsettings h => ⟨execute_congr hread hs hsettings h, ?_⟩,
    keepsOthers_execute hread hs, ?_⟩
  · rw [store_execute hread hs, store_execute hread hs, hsettings]
    split
    · exact Statement.find?_storeAfter_congr hs h
    · exact h
  · intro now' sql' s' name' hread' hs' hne hkeeps hkeeps' hname hname'
    have hfind : (db.execute now' sql').2.store.find? name = db.store.find? name :=
      (keepsOthers_execute hread' hs').find?_eq hne
    have hfind' : (db.execute now sql).2.store.find? name' = db.store.find? name' :=
      (keepsOthers_execute hread hs).find?_eq hne.symm
    exact ⟨execute_congr hread hs rfl hfind.symm, execute_congr hread' hs' rfl hfind'.symm,
      execute_comm hread hs hread' hs' hne hkeeps hkeeps' hname hname'⟩

/-- A database with two tables. -/
def twoTables : Database :=
  (((empty ⟨[], []⟩ .standard).execute "" "CREATE TABLE a (x)").2.execute ""
    "CREATE TABLE b (y)").2

/-- An insertion into one of two tables and a deletion from the other one. -/
theorem execute_local_twoTables :
    twoTables.store.KeepsOthers "a" (twoTables.execute "" "INSERT INTO a VALUES (1)").2.store ∧
      ((twoTables.execute "" "INSERT INTO a VALUES (1)").2.execute "" "DELETE FROM b").2 =
        ((twoTables.execute "" "DELETE FROM b").2.execute "" "INSERT INTO a VALUES (1)").2 := by
  have hinsert : (Statement.ofText? (strip "INSERT INTO a VALUES (1)")).map
      (fun s => (s.table?, s.kind)) = some (some "a", .insert) := by decide +kernel
  have hdelete : (Statement.ofText? (strip "DELETE FROM b")).map (fun s => (s.table?, s.kind)) =
      some (some "b", .delete) := by decide +kernel
  obtain ⟨s, hs, hparts⟩ := Option.map_eq_some_iff.mp hinsert
  obtain ⟨s', hs', hparts'⟩ := Option.map_eq_some_iff.mp hdelete
  obtain ⟨htable, hkind⟩ := Prod.mk.inj hparts
  obtain ⟨htable', hkind'⟩ := Prod.mk.inj hparts'
  obtain ⟨-, hkeeps, hcomm⟩ := execute_local hs htable twoTables ""
  refine ⟨hkeeps, (hcomm "" _ s' "b" hs' htable' (by decide) ?_ ?_ ?_ ?_).2.2⟩
  · rw [Statement.KeepsTables, hkind]
    decide
  · rw [Statement.KeepsTables, hkind']
    decide
  · decide +kernel
  · decide +kernel

end Database

end StagedQuery
