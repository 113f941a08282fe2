import StagedQuery.Proofs.Store.Admission

set_option relaxedAutoImplicit false
set_option autoImplicit false

/-!
# Rows that are given in full

An `INSERT` without a column list gives all columns of its table, in the order of the schema. Its
rows are stored exactly as they are given, if their lengths fit and no required column is `null`.

## Main definitions

* `Schema.Fits` — values for all columns of a schema.

## Main results

* `Schema.WellFormed.complete_zip`, `Schema.Fits.checkPresence` — such a row is complete, and may be
  stored.
* `Insert.execute_full` — an `INSERT` that gives its rows in full.
-/

namespace StagedQuery

namespace Schema

/-- Values for all columns of a schema in order, of which those for required columns are not
`null`. -/
structure Fits (s : Schema) (values : List Value) : Prop where
  length : values.length = s.columns.length
  present : ∀ p ∈ s.columns.zip values, p.1.presence.isRequired = true → p.2.isNull = false

variable {s : Schema} {values : List Value}

/-- The labels of a row that gives all columns. -/
lemma labels_zip (hlen : values.length = s.columns.length) :
    (s.labels.zip values).map Prod.fst = s.labels := by
  refine List.map_fst_zip (Nat.le_of_eq ?_)
  rw [labels, List.length_map, hlen]

/-- The value for a column in a row that gives all columns. -/
lemma WellFormed.find?_zip (hs : s.WellFormed) (hlen : values.length = s.columns.length)
    {c : Column} {v : Value} (h : (c, v) ∈ s.columns.zip values) :
    Row.find? (s.labels.zip values) c.label = some v := by
  have hdistinct : Row.Distinct ((s.labels.zip values).map Prod.fst) := by
    rw [labels_zip hlen]
    exact hs.distinct
  have hmem : (c.label, v) ∈ s.labels.zip values := by
    rw [labels, List.zip_map_left]
    exact List.mem_map_of_mem (f := Prod.map Column.label id) h
  exact Row.find?_of_mem hdistinct hmem
    (hs.unhashable_label (List.mem_map_of_mem (List.of_mem_zip h).1))

/-- **A row that gives all columns** is complete. -/
lemma WellFormed.complete_zip (hs : s.WellFormed) (hlen : values.length = s.columns.length) :
    s.complete (Row.ofPairs (s.labels.zip values)) = .ok (s.labels.zip values) := by
  have hdistinct : Row.Distinct ((s.labels.zip values).map Prod.fst) := by
    rw [labels_zip hlen]
    exact hs.distinct
  have hcells : (s.columns.map fun c => (c.label, cell (s.labels.zip values) c)) =
      s.labels.zip values := by
    calc (s.columns.map fun c => (c.label, cell (s.labels.zip values) c))
        = ((s.columns.zip values).map Prod.fst).map
            fun c => (c.label, cell (s.labels.zip values) c) := by
          rw [List.map_fst_zip (Nat.le_of_eq hlen.symm)]
      _ = (s.columns.zip values).map fun p => (p.1.label, p.2) := by
          rw [List.map_map]
          refine List.map_congr_left fun p hp => ?_
          rw [Function.comp_apply, cell, hs.find?_zip hlen hp]
          rfl
      _ = s.labels.zip values := by
          rw [labels, List.zip_map_left]
          rfl
  rw [Row.ofPairs_of_distinct hdistinct,
    complete_of_distinct (fun _ h => hs.unhashable_label h) hs.distinct, hcells]

/-- **A row that fits** has all values that it must have. -/
lemma Fits.checkPresence (hs : s.WellFormed) (h : s.Fits values) :
    s.checkPresence (s.labels.zip values) = .ok () := by
  refine checkPresence_eq_ok.mpr fun c hc hrequired => ?_
  have hc' : c ∈ (s.columns.zip values).map Prod.fst := by
    rwa [List.map_fst_zip (Nat.le_of_eq h.length.symm)]
  obtain ⟨⟨c, v⟩, hp, rfl⟩ := List.mem_map.mp hc'
  rw [Row.get, hs.find?_zip h.length hp]
  exact h.present _ hp hrequired

end Schema

/-! ## `INSERT` -/

namespace Insert

variable {schema : Schema}

/-- The row of values that fit. -/
lemma rowFor_full (hs : schema.WellFormed) {values : List Value} (h : schema.Fits values)
    (place : Option ℕ) : rowFor schema none place values = .ok (schema.labels.zip values) := by
  have hlen : values.length = schema.labels.length := by
    rw [h.length, Schema.labels, List.length_map]
  rw [rowFor, targets, if_neg (by simp [hlen])]
  exact bind_eq_ok.mpr ⟨_, hs.complete_zip h.length, bind_eq_ok.mpr ⟨(), h.checkPresence hs, rfl⟩⟩

/-- The rows of several lists of values that fit. -/
lemma rowsFrom_full (hs : schema.WellFormed) (numbered : Bool) {lists : List (List Value)}
    (h : ∀ values ∈ lists, schema.Fits values) (next : ℕ) :
    rowsFrom schema none numbered next lists = .ok (lists.map (schema.labels.zip ·)) := by
  induction lists generalizing next with
  | nil => rfl
  | cons values lists ih =>
    obtain ⟨hvalues, hlists⟩ := List.forall_mem_cons.mp h
    exact bind_eq_ok.mpr ⟨_, rowFor_full hs hvalues _, bind_eq_ok.mpr ⟨_, ih hlists _, rfl⟩⟩

/-- **An `INSERT` that gives its rows in full** adds exactly these rows at the end of its table. -/
theorem execute_full {store : Store} (hstore : store.WellFormed) {t : Table} {s : Insert}
    (ht : store.find? s.table = some t) (hcolumns : s.columns = none)
    (h : ∀ values ∈ s.rows, t.schema.Fits values) :
    s.execute store = ⟨store.put ⟨t.schema, t.rows ++ s.rows.map (t.schema.labels.zip ·)⟩,
      .ok (changeMessage s.rows.length "inserted" (some s.table))⟩ := by
  have hrows : s.rowsFor t.schema = .ok (s.rows.map (t.schema.labels.zip ·)) := by
    rw [rowsFor, hcolumns]
    exact rowsFrom_full (hstore.find? ht).schema _ h 1
  rw [execute_of_rowsFor hstore ht hrows, List.length_map]

end Insert

end StagedQuery
