import StagedQuery.Proofs.Store.Changes
import StagedQuery.Proofs.Store.WellFormed

set_option relaxedAutoImplicit false
set_option autoImplicit false

/-!
# Which rows statements match

`UPDATE` and `DELETE` go through the rows of a table with a condition, each in its own way: one
makes every row anew and counts while it goes, the other one leaves rows out and counts what is
missing. On a well-formed store both come to what is said of single rows. A row that meets the
condition gets the assigned values, or is left out; every other row stays as it is and where it is.

## Main definitions

* `Update.assigned?`, `Update.assignedRow` — what an `UPDATE` assigns to a column, and to a row.
* `Update.Admitted` — what is asked of an `UPDATE` of a table.

## Main results

* `Update.override_changes` — the changes of an `UPDATE` put into a row.
* `Update.execute_of_admitted`, `Update.result_eq_ok_iff` — what an `UPDATE` does, and when.
* `Delete.execute_of_named`, `Delete.execute_of_missing` — what a `DELETE` does.
-/

namespace StagedQuery

/-! ## `UPDATE` -/

namespace Update

/-- The last value that an `UPDATE` assigns to a column, by the label of the column. -/
def assigned? (s : Update) (label : Value) : Option Value :=
  (s.assignments.reverse.find? fun a => (Value.text a.1).same label).map Prod.snd

/-- A row with the values that an `UPDATE` assigns in the place of the old ones. -/
def assignedRow (s : Update) (row : Row) : Row :=
  row.map fun cell => (cell.1, (s.assigned? cell.1).getD cell.2)

/-- What is asked of an `UPDATE` of a table: it assigns to columns of the schema, its condition
names columns of the schema, and it makes no required column empty. -/
structure Admitted (s : Update) (schema : Schema) : Prop where
  assigned : ∀ a ∈ s.assignments, schema.has (.text a.1) = true
  condition : ∀ name ∈ Predicate.namedColumns s.condition, schema.has (.text name) = true
  present : ∀ c ∈ schema.columns, c.presence.isRequired = true → s.assigned? c.label ≠ some .null

variable {s : Update} {schema : Schema} {store : Store}

/-! ### The changes -/

/-- The change of a column is the last value that is assigned to it. -/
lemma find?_changes (s : Update) (label : Value) : s.changes.find? label = s.assigned? label := by
  rw [changes, Row.find?_ofPairs, assigned?, ← List.map_reverse, List.find?_map, Option.map_map]
  rfl

/-- **The values after the changes**: those that are assigned, and the old ones of other columns. -/
lemma find?_override_changes (s : Update) (row : Row) (label : Value) :
    (row.override s.changes).find? label = (s.assigned? label).or (row.find? label) := by
  have hdistinct : Row.Distinct (s.changes.map Prod.fst) := Row.distinct_ofPairs _
  rw [Row.find?_override hdistinct, find?_changes]

/-- The labels of the changes are those of the assignments. -/
lemma exists_of_mem_changes {change : Value × Value} (h : change ∈ s.changes) :
    ∃ a ∈ s.assignments, change.1 = .text a.1 := by
  have hlabel : change.1 ∈ s.changes.map Prod.fst := List.mem_map_of_mem h
  rw [changes, Row.labels_ofPairs] at hlabel
  rcases Row.mem_of_mem_foldl_addLabel _ _ _ hlabel with hnil | hlabel
  · cases hnil
  · rw [List.map_map] at hlabel
    obtain ⟨a, ha, heq⟩ := List.mem_map.mp hlabel
    exact ⟨a, ha, heq.symm⟩

/-- The changes name columns if the assignments do. -/
lemma require_changes : schema.require (s.changes.map (·.1)) = .ok () ↔
    ∀ a ∈ s.assignments, schema.has (.text a.1) = true := by
  rw [Schema.require_eq_ok, List.forall_mem_map]
  constructor
  · intro h a ha
    have hsome : (s.changes.find? (.text a.1)).isSome = true := by
      refine Row.find?_ofPairs_isSome ?_ rfl
      rw [List.map_map]
      exact List.mem_map.mpr ⟨a, ha, rfl⟩
    rw [Row.find?, Option.isSome_map] at hsome
    obtain ⟨change, hchange, hsame⟩ := List.find?_isSome.mp hsome
    have hlabel := Value.same_text.mp (Value.same_symm hsame)
    rw [← hlabel]
    exact h change hchange
  · intro h change hchange
    obtain ⟨a, ha, hlabel⟩ := exists_of_mem_changes hchange
    rw [hlabel]
    exact h a ha

/-- The changes are checked one after the other. -/
lemma checkChanges_eq (schema : Schema) (changes : Row) : checkChanges schema changes =
    reportFirst (fun change => change.2.isNull &&
        ((schema.column? change.1).map (·.presence.isRequired)).getD false)
      (fun change => .constraint (.missingValue change.1)) changes := by
  rw [checkChanges, reportFirst]
  cases List.find? (fun change : Value × Value => change.2.isNull &&
    ((schema.column? change.1).map (·.presence.isRequired)).getD false) changes <;> rfl

/-- **The changes pass their check** if they make no required column empty. -/
lemma checkChanges_eq_ok (hs : schema.WellFormed) : checkChanges schema s.changes = .ok () ↔
    ∀ c ∈ schema.columns, c.presence.isRequired = true → s.assigned? c.label ≠ some .null := by
  rw [checkChanges_eq, reportFirst_eq_ok]
  constructor
  · intro h c hc hrequired hassigned
    rw [← find?_changes, Row.find?, Option.map_eq_some_iff] at hassigned
    obtain ⟨change, hfind, hnull⟩ := hassigned
    have hchange := List.mem_of_find?_eq_some hfind
    have hsame := List.find?_some hfind
    obtain ⟨a, -, hlabel⟩ := exists_of_mem_changes hchange
    rw [hlabel] at hsame
    have hcolumn : schema.column? change.1 = some c := by
      rw [hlabel, ← Value.same_text.mp hsame]
      exact hs.column?_of_mem hc
    have hpasses := h change hchange
    rw [hnull, hcolumn, Option.map_some, Option.getD_some, hrequired] at hpasses
    cases hpasses
  · intro h change hchange
    rw [Bool.and_eq_false_imp]
    intro hnull
    cases hcolumn : schema.column? change.1 with
    | none => rfl
    | some c =>
      obtain ⟨hc, hsame⟩ := Schema.of_column?_eq_some hcolumn
      obtain ⟨a, -, hlabel⟩ := exists_of_mem_changes hchange
      -- no two changes have one label, so this one is what is found for its column
      have hassigned : s.assigned? c.label = some change.2 := by
        rw [← find?_changes, Row.find?_congr hsame]
        exact Row.find?_of_mem (Row.distinct_ofPairs _) hchange (by rw [hlabel]; rfl)
      rw [Option.map_some, Option.getD_some, ← Bool.not_eq_true]
      intro hrequired
      apply h c hc hrequired
      rw [hassigned, Value.isNull_iff.mp hnull]

/-! ### The rows -/

/-- **The changes put the assigned values into a row** of the schema, in the place of its own. -/
lemma override_changes {row : Row} (hs : schema.WellFormed) (hrow : row.WellFormed schema)
    (h : ∀ a ∈ s.assignments, schema.has (.text a.1) = true) :
    row.override s.changes = s.assignedRow row := by
  have hdistinct : Row.Distinct (row.map Prod.fst) := by
    rw [hrow.labels]
    exact hs.distinct
  have hkeys : ∀ label ∈ row.map Prod.fst, label.unhashable? = none := by
    intro label hlabel
    rw [hrow.labels] at hlabel
    exact hs.unhashable_label hlabel
  have hlabels : (row.override s.changes).map Prod.fst = row.map Prod.fst := by
    refine Row.labels_override_of_mem fun change hchange => ?_
    obtain ⟨a, ha, hlabel⟩ := exists_of_mem_changes hchange
    obtain ⟨label, hmem, hsame⟩ := Schema.exists_label_of_has (h a ha)
    rw [hrow.labels, hlabel]
    exact List.any_eq_true.mpr ⟨label, hmem, hsame⟩
  calc row.override s.changes
      = (row.map Prod.fst).map fun label => (label, (row.override s.changes).get label) := by
        rw [← hlabels]
        exact Row.eq_map_get (by rwa [hlabels]) (by rwa [hlabels])
    _ = s.assignedRow row := by
        rw [List.map_map, assignedRow]
        refine List.map_congr_left fun cell hcell => ?_
        have hold := Row.find?_of_mem hdistinct hcell (hkeys _ (List.mem_map_of_mem hcell))
        rw [Function.comp_apply, Row.get, find?_override_changes, hold]
        cases s.assigned? cell.1 <;> rfl

/-- A row stays filled if no required column is made empty. -/
lemma filled_override {row : Row} (hrow : row.WellFormed schema)
    (h : ∀ c ∈ schema.columns, c.presence.isRequired = true → s.assigned? c.label ≠ some .null) :
    schema.Filled (row.override s.changes) := by
  intro c hc hrequired
  rw [Row.get, find?_override_changes]
  cases hassigned : s.assigned? c.label with
  | none => exact Schema.checkPresence_eq_ok.mp hrow.present c hc hrequired
  | some v =>
    rw [Option.some_or, Option.getD_some, ← Bool.not_eq_true, Value.isNull_iff]
    rintro rfl
    exact h c hc hrequired hassigned

/-- **Every row of the table is updated**, and none is refused. -/
lemma mapM_updateRow {t : Table} (ht : t.WellFormed) (h : s.Admitted t.schema) :
    t.rows.mapM (Table.updateRow t.schema s.changes s.condition) = .ok (t.rows.map fun row =>
      if Table.meets s.condition row then s.assignedRow row else row) := by
  rw [mapM_eq_ok, List.forall₂_map_right_iff, List.forall₂_same]
  intro row hrow
  have hrow := ht.rows row hrow
  rw [Table.updateRow, override_changes ht.schema hrow h.assigned]
  have hfilled := filled_override hrow h.present
  rw [override_changes ht.schema hrow h.assigned] at hfilled
  rw [Schema.checkPresence_eq_ok.mpr hfilled]
  split <;> rfl

/-- **An `UPDATE` that is admitted** assigns its values in the rows that meet its condition, and
leaves the other rows. -/
theorem execute_of_admitted (hstore : store.WellFormed) {t : Table}
    (ht : store.find? s.table = some t) (h : s.Admitted t.schema) :
    s.execute store = ⟨store.put ⟨t.schema, t.rows.map fun row =>
        if Table.meets s.condition row then s.assignedRow row else row⟩,
      .ok (changeMessage (t.rows.countP (Table.meets s.condition)) "updated" none)⟩ := by
  have htable := hstore.find? ht
  have hcondition : t.schema.require ((Predicate.namedColumns s.condition).map .text) = .ok () :=
    Schema.require_eq_ok.mpr (List.forall_mem_map.mpr h.condition)
  have hrows : t.update s.changes s.condition = .ok (⟨t.schema, t.rows.map fun row =>
      if Table.meets s.condition row then s.assignedRow row else row⟩,
      t.rows.countP (Table.meets s.condition)) := by
    rw [Table.update, mapM_updateRow htable h]
    rfl
  simp only [execute, Store.update, Store.get_eq_ok.mpr ht, bind, Except.bind,
    require_changes.mpr h.assigned, hcondition, (checkChanges_eq_ok htable.schema).mpr h.present,
    hrows]
  rfl

/-- **An `UPDATE` succeeds** just if there is its table and it is admitted. -/
theorem result_eq_ok_iff (hstore : store.WellFormed) :
    (∃ message, (s.execute store).result = .ok message) ↔
      ∃ t, store.find? s.table = some t ∧ s.Admitted t.schema := by
  constructor
  · rintro ⟨message, hmessage⟩
    obtain ⟨t, rows, ht, hrequire, hcondition, hchanges, -, -, -⟩ := execute_ok hmessage
    refine ⟨t, ht, require_changes.mp hrequire, ?_, ?_⟩
    · rw [Schema.require_eq_ok, List.forall_mem_map] at hcondition
      exact hcondition
    · exact (checkChanges_eq_ok (hstore.find? ht).schema).mp hchanges
  · rintro ⟨t, ht, h⟩
    exact ⟨_, by rw [execute_of_admitted hstore ht h]⟩

end Update

/-! ## `DELETE` -/

namespace Delete

variable {s : Delete} {store : Store} {t : Table}

/-- **A `DELETE` whose condition names columns of its table** leaves the rows that do not meet the
condition. -/
theorem execute_of_named (ht : store.find? s.table = some t)
    (h : ∀ name ∈ Predicate.namedColumns s.condition, t.schema.has (.text name) = true) :
    s.execute store = ⟨store.put ⟨t.schema, t.rows.filter (!Table.meets s.condition ·)⟩,
      .ok (changeMessage (t.rows.countP (Table.meets s.condition)) "deleted" none)⟩ := by
  have hcondition : t.schema.require ((Predicate.namedColumns s.condition).map .text) = .ok () :=
    Schema.require_eq_ok.mpr (List.forall_mem_map.mpr h)
  simp only [execute, Store.delete, Store.get_eq_ok.mpr ht, bind, Except.bind, hcondition,
    Table.delete]
  rfl

/-- A `DELETE` whose condition names another column leaves the store. -/
lemma execute_of_missing (ht : store.find? s.table = some t) {e : Failure}
    (h : t.schema.require ((Predicate.namedColumns s.condition).map .text) = .error e) :
    s.execute store = ⟨store, .error e⟩ := by
  simp only [execute, Store.get_eq_ok.mpr ht, bind, Except.bind, h]
  rfl

end Delete

end StagedQuery
