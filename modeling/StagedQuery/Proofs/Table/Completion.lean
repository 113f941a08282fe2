import StagedQuery.Proofs.Table.Rows
import StagedQuery.Table.Basic

set_option relaxedAutoImplicit false
set_option autoImplicit false

/-!
# Rows completed by a schema

A row is completed when an `INSERT` builds it, and again when the table stores it. The second time
changes nothing, and whether the table refuses a row that was built from its own schema depends on
the schema alone.

## Main results

* `Schema.complete_eq_ok`, `Schema.complete_of_distinct` — when a row can be completed, and to which
  row.
* `Schema.complete_complete` — a completed row is completed already.
* `Table.insert_complete` — the insertion of a completed and checked row.
-/

namespace StagedQuery

namespace Schema

/-- Labels can all be keys if none of them is found not to be one. -/
lemma unhashable_labels {labels : List Value} (h : labels.findSome? Value.unhashable? = none)
    {label : Value} (hl : label ∈ labels) : label.unhashable? = none :=
  List.findSome?_eq_none_iff.mp h label hl

/-- A row is completed to the cells of all columns, if their labels can be keys. -/
lemma complete_eq_ok {s : Schema} {given row : Row} (h : s.complete given = .ok row) :
    s.labels.findSome? Value.unhashable? = none ∧
      row = Row.ofPairs (s.columns.map fun c => (c.label, cell given c)) := by
  rw [complete] at h
  cases hkeys : s.labels.findSome? Value.unhashable? with
  | some kind => rw [hkeys] at h; simp at h
  | none =>
    rw [hkeys] at h
    exact ⟨rfl, (Except.ok.inj h).symm⟩

/-- Under distinct labels, a completed row consists of the cells of all columns. -/
lemma eq_of_complete {s : Schema} {given row : Row} (h : s.complete given = .ok row)
    (hdistinct : Row.Distinct s.labels) : row = s.columns.map fun c => (c.label, cell given c) := by
  rw [(complete_eq_ok h).2, Row.ofPairs_of_distinct]
  rwa [List.map_map]

/-- A row is completed to these cells, if the labels can be keys. -/
lemma complete_of_distinct {s : Schema} (hkeys : ∀ label ∈ s.labels, label.unhashable? = none)
    (hdistinct : Row.Distinct s.labels) (given : Row) :
    s.complete given = .ok (s.columns.map fun c => (c.label, cell given c)) := by
  rw [complete, List.findSome?_eq_none_iff.mpr hkeys, Row.ofPairs_of_distinct]
  rwa [List.map_map]

/-- The labels of a completed row do not depend on the values given. -/
lemma labels_complete {s : Schema} {given row : Row} (h : s.complete given = .ok row) :
    row.map Prod.fst = s.labels.foldl Row.addLabel [] := by
  rw [(complete_eq_ok h).2, Row.labels_ofPairs, List.map_map]
  rfl

/-- The labels of a completed row can be keys. -/
lemma hashable_labels_complete {s : Schema} {given row : Row} (h : s.complete given = .ok row)
    {label : Value} (hl : label ∈ row.map Prod.fst) : label.unhashable? = none := by
  rw [labels_complete h] at hl
  rcases Row.mem_of_mem_foldl_addLabel _ _ _ hl with hl | hl
  · simp at hl
  · exact unhashable_labels (complete_eq_ok h).1 hl

/-- **A completed row is completed already.**

**Proof sketch.** Both rows have the same labels, which are distinct. The second one takes the value
of every column from the first one, which has one for each of them, so their values agree as
well. -/
theorem complete_complete {s : Schema} {given row : Row} (h : s.complete given = .ok row) :
    s.complete row = .ok row := by
  obtain ⟨hkeys, hrow⟩ := complete_eq_ok h
  have hdistinct : Row.Distinct (row.map Prod.fst) := by
    rw [hrow]
    exact Row.distinct_ofPairs _
  have hcell : ∀ c ∈ s.columns, cell row c = row.get c.label := by
    intro c hc
    have hsome : (row.find? c.label).isSome = true := by
      rw [hrow]
      refine Row.find?_ofPairs_isSome ?_ (unhashable_labels hkeys (List.mem_map_of_mem hc))
      rw [List.map_map]
      exact List.mem_map.mpr ⟨c, hc, rfl⟩
    obtain ⟨v, hv⟩ := Option.isSome_iff_exists.mp hsome
    rw [cell, Row.get, hv]
    rfl
  rw [complete, hkeys, Except.ok.injEq]
  rw [List.map_congr_left fun c hc => by rw [hcell c hc]]
  set again := Row.ofPairs (s.columns.map fun c => (c.label, row.get c.label)) with hagain
  have hlabels : again.map Prod.fst = row.map Prod.fst := by
    rw [labels_complete h, hagain, Row.labels_ofPairs, List.map_map]
    rfl
  have hvalues : ∀ e ∈ again, e.2 = row.get e.1 := by
    refine Row.forall_override (P := fun label value => value = row.get label) ?_ _ [] (by simp) ?_
    · intro a b v hab hv
      rw [hv, Row.get_congr hab]
    · intro c hc
      obtain ⟨column, -, rfl⟩ := List.mem_map.mp hc
      rfl
  calc again = again.map fun e => (e.1, row.get e.1) := by
        refine (List.map_id _).symm.trans (List.map_congr_left fun e he => ?_)
        rw [← hvalues e he]
        rfl
    _ = (row.map Prod.fst).map fun label => (label, row.get label) := by
        rw [← hlabels, List.map_map]
        rfl
    _ = row := (Row.eq_map_get hdistinct fun label hl => hashable_labels_complete h hl).symm

end Schema

/-- **A completed and checked row** is stored as it is, unless the schema refuses its labels. -/
theorem Table.insert_complete (t : Table) {row : Row} (hrow : t.schema.complete row = .ok row)
    (hcheck : t.schema.checkPresence row = .ok ()) :
    t.insert row = (t.schema.require (row.map Prod.fst)).map fun _ =>
      (⟨t.schema, t.rows ++ [row]⟩, row) := by
  rw [Table.insert]
  cases t.schema.require (row.map Prod.fst) with
  | error e => rfl
  | ok u =>
    simp only [bind, Except.bind, hrow, hcheck]
    rfl

end StagedQuery
