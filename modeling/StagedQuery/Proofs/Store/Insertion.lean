import StagedQuery.Proofs.Store.Tables
import StagedQuery.Proofs.Success
import StagedQuery.Proofs.Table.Completion
import StagedQuery.Store.Execution

set_option relaxedAutoImplicit false
set_option autoImplicit false

/-!
# Insertion of several rows

An `INSERT` builds and checks all its rows, and then stores them one by one, with a second check of
each. A failure of that second check in the middle would leave the rows before it in the table. It
cannot happen: the rows are completed already and have the same labels, so the second check gives
the same answer for all of them.

## Main definitions

* `Schema.IsPrepared` — a row that the schema has completed and checked.

## Main results

* `Insert.prepared_of_rowsFor` — the rows that an `INSERT` builds are prepared.
* `Store.insertAll_prepared` — prepared rows are stored all together, or the first one is refused.
* `Insert.execute_error` — an `INSERT` that fails leaves the store.
-/

namespace StagedQuery

/-- A row that a schema has completed and checked. -/
structure Schema.IsPrepared (s : Schema) (row : Row) : Prop where
  complete : s.complete row = .ok row
  present : s.checkPresence row = .ok ()

/-! ## The rows of an `INSERT` -/

namespace Insert

/-- A row that an `INSERT` builds has the right number of values, and is what the schema completes
them to. -/
lemma rowFor_eq_ok {schema : Schema} {names : Option (List String)} {place : Option ℕ}
    {values : List Value} {row : Row} (h : rowFor schema names place values = .ok row) :
    values.length = (targets schema names).length ∧
      schema.complete (Row.ofPairs ((targets schema names).zip values)) = .ok row ∧
      schema.checkPresence row = .ok () := by
  rw [rowFor] at h
  by_cases hlen : values.length = (targets schema names).length
  · simp only [hlen, ne_eq, not_true_eq_false, ↓reduceIte] at h
    obtain ⟨complete, hcomplete, hrest⟩ := bind_eq_ok.mp h
    obtain ⟨u, hcheck, hrow⟩ := bind_eq_ok.mp hrest
    obtain rfl := Except.ok.inj hrow
    exact ⟨hlen, hcomplete, hcheck⟩
  · simp [hlen, bind, Except.bind, throw_eq_error] at h

/-- Each of the rows that an `INSERT` builds comes from one of its lists of values. -/
lemma rowsFrom_eq_ok {schema : Schema} {names : Option (List String)} {numbered : Bool}
    (lists : List (List Value)) : ∀ {next : ℕ} {rows : List Row},
      rowsFrom schema names numbered next lists = .ok rows →
      ∀ row ∈ rows, ∃ values ∈ lists, ∃ place, rowFor schema names place values = .ok row := by
  induction lists with
  | nil =>
    intro next rows h row hrow
    rw [← Except.ok.inj h] at hrow
    simp at hrow
  | cons values lists ih =>
    intro next rows h row hrow
    obtain ⟨first, hfirst, h⟩ := bind_eq_ok.mp h
    obtain ⟨rest, hrest, h⟩ := bind_eq_ok.mp h
    rw [← Except.ok.inj h] at hrow
    rcases List.mem_cons.mp hrow with rfl | hrow
    · exact ⟨values, by simp, _, hfirst⟩
    · obtain ⟨values', hmem, place, hplace⟩ := ih hrest row hrow
      exact ⟨values', by simp [hmem], place, hplace⟩

/-- Each of the rows that an `INSERT` adds to a table comes from one of its lists of values. -/
lemma rowsFor_eq_ok {s : Insert} {schema : Schema} {rows : List Row}
    (h : s.rowsFor schema = .ok rows) :
    ∀ row ∈ rows, ∃ values ∈ s.rows, ∃ place, rowFor schema s.columns place values = .ok row := by
  rw [rowsFor] at h
  cases hcolumns : s.columns with
  | none =>
    rw [hcolumns] at h
    exact rowsFrom_eq_ok s.rows h
  | some names =>
    rw [hcolumns] at h
    obtain ⟨u, -, h⟩ := bind_eq_ok.mp h
    exact rowsFrom_eq_ok s.rows h

/-- **The rows that an `INSERT` builds** are completed and checked. -/
lemma prepared_of_rowsFor {s : Insert} {schema : Schema} {rows : List Row}
    (h : s.rowsFor schema = .ok rows) : ∀ row ∈ rows, schema.IsPrepared row := by
  intro row hrow
  obtain ⟨values, -, place, hplace⟩ := rowsFor_eq_ok h row hrow
  obtain ⟨-, hcomplete, hcheck⟩ := rowFor_eq_ok hplace
  exact ⟨Schema.complete_complete hcomplete, hcheck⟩

/-- The rows of an `INSERT` are built for a table that is there. -/
lemma prepare_eq_ok {s : Insert} {store : Store} {rows : List Row}
    (h : s.prepare store = .ok rows) :
    ∃ t, store.find? s.table = some t ∧ s.rowsFor t.schema = .ok rows := by
  obtain ⟨t, ht, h⟩ := bind_eq_ok.mp h
  exact ⟨t, Store.get_eq_ok.mp ht, h⟩

end Insert

/-! ## Storing them -/

namespace Store

/-- The labels of all rows that a schema has prepared are the same. -/
lemma labels_of_prepared {s : Schema} {row : Row} (h : s.IsPrepared row) :
    row.map Prod.fst = s.labels.foldl Row.addLabel [] := Schema.labels_complete h.complete

/-- The insertion of one prepared row. -/
lemma insert_prepared {s : Store} {name : String} {t : Table} (ht : s.find? name = some t)
    {row : Row} (hrow : t.schema.IsPrepared row) :
    s.insert name row = (t.schema.require (t.schema.labels.foldl Row.addLabel [])).map fun _ =>
      (s.put ⟨t.schema, t.rows ++ [row]⟩, row) := by
  simp only [insert, bind, Except.bind, get_eq_ok.mpr ht]
  rw [t.insert_complete hrow.complete hrow.present, labels_of_prepared hrow]
  cases t.schema.require (t.schema.labels.foldl Row.addLabel []) <;> rfl

/-- **Prepared rows are stored all together**, if the schema admits their labels.

**Proof sketch.** Induction on the rows. Each one is put at the end of the table, which keeps its
schema, so the next row is prepared for it as well. -/
lemma insertAll_prepared (name : String) (rows : List Row) :
    ∀ (s : Store) (t : Table), s.find? name = some t → (∀ row ∈ rows, t.schema.IsPrepared row) →
      t.schema.require (t.schema.labels.foldl Row.addLabel []) = .ok () →
      s.insertAll name rows = (s.put ⟨t.schema, t.rows ++ rows⟩, .ok ()) := by
  induction rows with
  | nil =>
    intro s t ht _ _
    rw [insertAll, List.append_nil, put_of_find? ht]
  | cons row rows ih =>
    intro s t ht hrows hrequire
    have hname : t.schema.name = name := name_of_find? ht
    have hput : (s.put ⟨t.schema, t.rows ++ [row]⟩).find? name =
        some ⟨t.schema, t.rows ++ [row]⟩ := by
      rw [← hname]
      exact find?_put_self s ⟨t.schema, t.rows ++ [row]⟩
    rw [insertAll, insert_prepared ht (hrows row (by simp)), hrequire]
    simp only [Except.map]
    rw [ih _ _ hput (fun r hr => hrows r (by simp [hr])) hrequire]
    simp only [List.append_assoc, List.cons_append, List.nil_append]
    rw [put_put]
    rfl

/-- **The first prepared row is refused** if the schema does not admit its labels. -/
lemma insertAll_refused {name : String} {rows : List Row} {s : Store} {t : Table} {e : Failure}
    (ht : s.find? name = some t) (hrows : ∀ row ∈ rows, t.schema.IsPrepared row)
    (hrequire : t.schema.require (t.schema.labels.foldl Row.addLabel []) = .error e) :
    (s.insertAll name rows).1 = s := by
  cases rows with
  | nil => rfl
  | cons row rows =>
    rw [insertAll, insert_prepared ht (hrows row (by simp)), hrequire]
    rfl

end Store

/-- **An `INSERT` that fails leaves the store**, whatever the row and the check that fail. -/
theorem Insert.execute_error {s : Insert} {store : Store} {e : Failure}
    (h : (s.execute store).result = .error e) : (s.execute store).store = store := by
  rw [execute] at h ⊢
  cases hprepare : s.prepare store with
  | error e => rfl
  | ok rows =>
    rw [hprepare] at h
    simp only at h ⊢
    obtain ⟨t, ht, hrows⟩ := prepare_eq_ok hprepare
    have hprepared := prepared_of_rowsFor hrows
    cases hrequire : t.schema.require (t.schema.labels.foldl Row.addLabel []) with
    | error e => exact Store.insertAll_refused ht hprepared hrequire
    | ok u =>
      rw [Store.insertAll_prepared s.table rows store t ht hprepared hrequire] at h
      simp [Except.map] at h

/-- An `INSERT` that succeeds adds its rows at the end of its table. -/
theorem Insert.execute_ok {s : Insert} {store : Store} {message : String}
    (h : (s.execute store).result = .ok message) :
    ∃ t rows, store.find? s.table = some t ∧ s.rowsFor t.schema = .ok rows ∧
      message = changeMessage rows.length "inserted" (some s.table) ∧
      (s.execute store).store = store.put ⟨t.schema, t.rows ++ rows⟩ := by
  rw [execute] at h ⊢
  cases hprepare : s.prepare store with
  | error e => rw [hprepare] at h; simp at h
  | ok rows =>
    rw [hprepare] at h
    simp only at h ⊢
    obtain ⟨t, ht, hrows⟩ := prepare_eq_ok hprepare
    have hprepared := prepared_of_rowsFor hrows
    refine ⟨t, rows, ht, hrows, ?_⟩
    cases hrequire : t.schema.require (t.schema.labels.foldl Row.addLabel []) with
    | error e =>
      rcases rows with _ | ⟨row, rows⟩
      · rw [Store.insertAll] at h ⊢
        refine ⟨(Except.ok.inj h).symm, ?_⟩
        rw [List.append_nil]
        exact (Store.put_of_find? ht).symm
      · rw [Store.insertAll, Store.insert_prepared ht (hprepared row (by simp)), hrequire] at h
        simp [Except.map] at h
    | ok u =>
      rw [Store.insertAll_prepared s.table rows store t ht hprepared hrequire] at h ⊢
      exact ⟨(Except.ok.inj h).symm, rfl⟩

end StagedQuery
