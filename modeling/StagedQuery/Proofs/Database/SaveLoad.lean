import StagedQuery.Proofs.Database.Atomic
import StagedQuery.Proofs.Database.Reachable

set_option relaxedAutoImplicit false
set_option autoImplicit false

/-!
# Saved stores come back

After `SAVE DATABASE`, whatever texts follow, `LOAD DATABASE` with the same path brings the saved
store back exactly, unless one of these texts has saved something in the same place.

## Main definitions

* `Database.after` — the database after several texts.
* `Database.Spares` — that none of several texts saves in a place.

## Main results

* `Database.execute_of_outcome`, `Database.execute_of_fault` — the text of a statement whose
  execution ends the run.
* `Database.spared_after` — what stays of a disk when a place is spared.
* `Database.load_after_save` — a saved store is loaded again.
-/

namespace StagedQuery

/-! ## Runs of one statement -/

namespace Database

variable {db : Database} {now sql : String} {kind : StatementKind} {s : Statement}

/-- The text that executing a statement gives if the statement comes to an outcome. -/
lemma execute_of_outcome (now : String) (hread : readStatement kind (strip sql) = .ok s)
    (hb : 3 ≤ db.settings.budget) {o : Outcome}
    (h : (s.perform (db.surroundings now) db.session).follower = .ok (.outcome o)) :
    (db.execute now sql).1 = .ok o.render :=
  congrArg Prod.fst (execute_of_follower hread hb h)

/-- A run whose statement ends in a fault gives no text. -/
lemma execute_of_fault (now : String) (hread : readStatement kind (strip sql) = .ok s)
    (hb : 3 ≤ db.settings.budget) {f : Fault}
    (h : (s.perform (db.surroundings now) db.session).follower = .error f) :
    (db.execute now sql).1 = .error (.crashed f) := by
  have c := Passage.text_of_statement hread (.crash (Payload.advance?_statement _ _ s) h)
  exact congrArg Prod.fst (execute_eq_of_passage c
    (show ((2 : ℕ) : ℤ) ≤ db.settings.budget by omega))

/-- A text that can be read as a statement performs it, if the budget allows two jobs. -/
lemma performs_of_read (hread : readStatement kind (strip sql) = .ok s)
    (hb : 2 ≤ db.settings.budget) : db.performs? sql = some s := by
  rw [performs?, if_pos hb, Statement.ofText?_of_read hread]

/-! ## Several texts -/

/-- The database after texts that are executed one after the other, each at its time. -/
def after (db : Database) : List (String × String) → Database
  | [] => db
  | (now, sql) :: rest => (db.execute now sql).2.after rest

/-- None of the texts that are executed one after the other saves a store in a place. -/
def Spares (db : Database) (place : List String) : List (String × String) → Prop
  | [] => True
  | (now, sql) :: rest =>
    db.saves? now sql ≠ some place ∧ (db.execute now sql).2.Spares place rest

/-- Texts that open other kinds of statements than the one that loads a file may be executed one
after the other in every run. -/
lemma exists_reachable_after {disk : Disk} {settings : Settings} :
    ∀ (texts : List (String × String)) (db : Database),
      (∃ saved, Reachable disk settings db saved) →
      (∀ p ∈ texts, ∃ kind, StatementKind.opening? (strip p.2) = some kind ∧ kind ≠ .load) →
      ∃ saved, Reachable disk settings (db.after texts) saved
  | [], _, h, _ => h
  | (now, sql) :: rest, db, ⟨saved, h⟩, htexts => by
    obtain ⟨kind, hkind, hload⟩ := htexts (now, sql) List.mem_cons_self
    exact exists_reachable_after rest _ ⟨_, .execute h now sql (loads_of_opening hkind hload)⟩
      fun p hp => htexts p (List.mem_cons_of_mem _ hp)

/-- One text that saves nothing in a place leaves the folders, and what is in that place. -/
lemma spared_execute {place : List String} (h : db.saves? now sql ≠ some place) :
    db.disk.SameFolders (db.execute now sql).2.disk ∧
      (db.execute now sql).2.disk.at? place = db.disk.at? place := by
  cases hsaves : db.saves? now sql with
  | none =>
    rw [disk_execute_of_not_saves hsaves]
    exact ⟨.refl _, rfl⟩
  | some other =>
    obtain ⟨-, hdisk⟩ := disk_execute_of_saves hsaves
    refine ⟨hdisk.folders, hdisk.others place ?_⟩
    rintro rfl
    exact h hsaves

/-- **Texts that spare a place** leave the settings, the folders, and what is in that place.

**Proof sketch.** Induction on the texts. -/
lemma spared_after {place : List String} (texts : List (String × String)) :
    ∀ db : Database, db.Spares place texts →
      (db.after texts).settings = db.settings ∧ db.disk.SameFolders (db.after texts).disk ∧
        (db.after texts).disk.at? place = db.disk.at? place := by
  induction texts with
  | nil => exact fun db _ => ⟨rfl, .refl _, rfl⟩
  | cons entry texts ih =>
    obtain ⟨now, sql⟩ := entry
    rintro db ⟨hfirst, hrest⟩
    obtain ⟨hfolders, hnode⟩ := spared_execute hfirst
    obtain ⟨hsettings, hfolders', hnode'⟩ := ih _ hrest
    exact ⟨hsettings.trans (settings_execute ..), hfolders.trans hfolders', hnode'.trans hnode⟩

/-! ## Saving and loading -/

/-- A `SAVE DATABASE` that gives an unmarked text has saved the store, at the resolved path. -/
lemma saves_of_execute {path text : String} (hread : readSave (strip sql) = .ok path)
    (hb : 3 ≤ db.settings.budget) (hrun : (db.execute now sql).1 = .ok text)
    (hok : ¬ errorMark <+: text.toList) :
    ∃ place file target, db.saves? now sql = some place ∧
      (DiskPath.ofText path).resolve (some db.settings.folder) = .ok file ∧
      file.withSuffix = .ok target ∧ Disk.hasNull target = false ∧
      db.disk.place? file = some place := by
  have hstatement : readStatement .save (strip sql) = .ok (.save path) := by
    rw [readStatement, hread]
    rfl
  rcases savePath_cases (db.surroundings now) path db.session with
    ⟨e, hfail, -⟩ | ⟨file, disk, saved, hfile, hsave, -⟩
  · have hperform : ((Statement.save path).perform (db.surroundings now) db.session).result =
        .error e := by
      rw [Statement.perform, hfail]
    rcases e with e | f
    · have houtcome := execute_of_outcome now hstatement hb (o := .error e.message)
        (by rw [Advance.follower, hperform])
      rw [hrun] at houtcome
      refine absurd ?_ hok
      rw [Except.ok.inj houtcome]
      exact (Outcome.errorMark_render fun h => absurd h (by simp [Outcome.error])).mpr rfl
    · have hfault := execute_of_fault now hstatement hb (f := f)
        (by rw [Advance.follower, hperform])
      rw [hrun] at hfault
      simp at hfault
  · obtain ⟨place, hplace, htarget, hnull, -⟩ := Disk.save_spec hsave
    refine ⟨place, file, saved, ?_, hfile, htarget, hnull, hplace⟩
    rw [saves?, performs_of_read hstatement (by omega), Option.bind_some, Statement.saves?, hfile]
    show ((db.session.disk.save db.session.store (db.surroundings now).now file).toOption).bind _ =
      some place
    rw [hsave]
    exact hplace

/-- **A saved store is loaded again.** Take any database that a run reaches from an empty store,
with a budget of at least nine, and a `SAVE DATABASE` that succeeds. It saves the store in one
place. After any texts that save nothing in this place, `LOAD DATABASE` with the same path succeeds,
and the store is the one that was saved, with all tables, columns, defaults, rows and values in
their order.

**Proof sketch.** The file of the store stays in its place, and the path goes on naming this place,
since no statement changes a folder. Reading the text of the file gives the snapshot of the store
back, and the store of the snapshot is the one that was saved, since it was well-formed. -/
theorem load_after_save {disk : Disk} {settings : Settings} {saved : List (List String)}
    (h : Reachable disk settings db saved) (hbudget : 9 ≤ settings.budget)
    {saveTime save path text : String} (hread : readSave (strip save) = .ok path)
    (hrun : (db.execute saveTime save).1 = .ok text) (hok : ¬ errorMark <+: text.toList) :
    ∃ place, db.saves? saveTime save = some place ∧
      ∀ texts, (db.execute saveTime save).2.Spares place texts →
        ∀ loadTime load, readLoad (strip load) = .ok path →
          (∃ message, (((db.execute saveTime save).2.after texts).execute loadTime load).1 =
            .ok message ∧ "Database loaded from '".toList <+: message.toList) ∧
          (((db.execute saveTime save).2.after texts).execute loadTime load).2.store =
            db.store := by
  have hsettings := h.settings_eq
  obtain ⟨place, file, target, hsaves, hfile, htarget, hnull, hplace⟩ :=
    saves_of_execute hread (by rw [hsettings]; omega) hrun hok
  refine ⟨place, hsaves, fun texts hspares loadTime load hload => ?_⟩
  obtain ⟨-, hdisk⟩ := disk_execute_of_saves hsaves
  obtain ⟨hlater, hfolders, hnode⟩ := spared_after texts _ hspares
  generalize (db.execute saveTime save).2.after texts = later at hlater hfolders hnode ⊢
  rw [settings_execute] at hlater
  have hstatement : readStatement .load (strip load) = .ok (.load path) := by
    rw [readStatement, hload]
    rfl
  have hbudgetLater : 3 ≤ later.settings.budget := by
    rw [hlater, hsettings]
    omega
  -- The path still names the place, in which there is still the file of the store.
  have hresolve :
      (DiskPath.ofText path).resolve (later.surroundings loadTime).folder = .ok file := by
    rw [surroundings, hlater]
    exact hfile
  have hplaceLater : later.session.disk.place? file = some place :=
    (hfolders.place? file).trans ((hdisk.folders.place? file).trans hplace)
  have hholds : later.session.disk.Holds place db.store := by
    obtain ⟨created, content, hcontent, hfound⟩ := hdisk.holds
    exact ⟨created, content, hcontent, hnode.trans hfound⟩
  have hloaded := Disk.load_of_holds h.kept.store.isStorable htarget hnull hplaceLater hholds
  rcases loadPath_cases (later.surroundings loadTime) path later.session with
    ⟨e, -, hfail⟩ | ⟨file', store, hfile', hstore, hdone⟩
  · obtain ⟨e, he⟩ := hfail file hresolve
    rw [hloaded] at he
    simp at he
  · rw [hresolve] at hfile'
    obtain rfl := Except.ok.inj hfile'
    rw [hloaded] at hstore
    obtain rfl := Except.ok.inj hstore
    constructor
    · refine ⟨_, execute_of_outcome _ hstatement hbudgetLater (by
        rw [Statement.perform, hdone, Advance.follower]), ?_⟩
      rw [Outcome.render, if_neg (by simp [Outcome.ok]), Outcome.ok]
      simp only [String.toList_append, List.append_assoc]
      exact List.prefix_append _ _
    · rw [Database.store, session_execute_eq, performs_of_read hstatement (by omega)]
      dsimp only
      rw [Statement.perform, hdone]

/-- A table with an integer and a floating-point number is back after it was dropped. -/
theorem load_after_save_oneRow :
    ((oneRow.execute "" "SAVE DATABASE 'f'").2.after [("", "DROP TABLE t")]).store.names = [] ∧
      (((oneRow.execute "" "SAVE DATABASE 'f'").2.after [("", "DROP TABLE t")]).execute ""
        "LOAD DATABASE 'f'").2.store = oneRow.store := by
  refine ⟨by decide +kernel, ?_⟩
  obtain ⟨saved, hreach⟩ := exists_reachable_oneRow
  have hread : readSave (strip "SAVE DATABASE 'f'") = .ok "f" :=
    toOption_eq_some.mp (by decide +kernel)
  have hload : readLoad (strip "LOAD DATABASE 'f'") = .ok "f" :=
    toOption_eq_some.mp (by decide +kernel)
  have hrun : (oneRow.execute "" "SAVE DATABASE 'f'").1 =
      .ok "Database saved to 'f.stagedb' (0.56 KB)" := toOption_eq_some.mp (by decide +kernel)
  have hdrop : StatementKind.opening? (strip "DROP TABLE t") = some .dropTable := by
    decide +kernel
  obtain ⟨place, -, hstore⟩ := load_after_save hreach (by decide) hread hrun (by decide)
  refine (hstore [("", "DROP TABLE t")] ⟨?_, trivial⟩ "" "LOAD DATABASE 'f'" hload).2
  rw [saves?_of_opening hdrop (by decide)]
  simp

end Database

end StagedQuery
