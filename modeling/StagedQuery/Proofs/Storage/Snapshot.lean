import StagedQuery.Proofs.Storage.Restoring
import StagedQuery.Proofs.Store.WellFormed

set_option relaxedAutoImplicit false
set_option autoImplicit false

/-!
# Snapshots of storable stores

A storable store has a snapshot, from which it is restored exactly: with the order of its tables,
columns and rows, and with the kinds of its values. Nothing of a store is left to the defaults of
the format. Well-formed stores are storable; but rules that have to do with statements alone, such
as those for types, for required columns and for columns with one name, are of no account here.

## Main definitions

* `Value.IsStored` — the values that are restored from a document.
* `Table.IsStorable`, `Store.IsStorable` — what a store needs to be restored from its snapshot.

## Main results

* `Store.WellFormed.isStorable` — a well-formed store is storable.
* `Snapshot.column_ofColumn`, `Snapshot.row_ofRow`, `Snapshot.table_ofTable` — each part of a store
  is restored from its document.
* `Store.ofDocument_toDocument` — a storable store is restored from its snapshot, which can be
  read back from text.
-/

namespace StagedQuery

/-! ## Storable stores -/

/-- A value that is restored from a document, which can be read back. -/
def Value.IsStored (v : Value) : Prop :=
  ∃ d, v.toDocument? = some d ∧ d.toValue = v ∧ d.IsReadable

/-- A plain value is stored. -/
lemma Value.IsPlain.isStored {v : Value} (h : v.IsPlain) : v.IsStored := by
  rcases h.form with rfl | ⟨n, rfl⟩ | ⟨x, rfl⟩ | ⟨s, rfl⟩
  · exact ⟨.null, rfl, rfl, trivial⟩
  · exact ⟨.int n, rfl, rfl, h⟩
  · exact ⟨.float x, rfl, rfl, trivial⟩
  · exact ⟨.text s, rfl, rfl, trivial⟩

/-- What a table needs to be restored from its snapshot: columns are named by texts and have types
in capitals, rows have the labels of the columns in order and equal ones once, and all values are
stored. -/
structure Table.IsStorable (t : Table) : Prop where
  named : ∀ c ∈ t.schema.columns, ∃ name, c.label = .text name
  typed : ∀ c ∈ t.schema.columns, capitalize c.typeName = c.typeName
  defaults : ∀ c ∈ t.schema.columns, c.defaultValue.IsStored
  labels : ∀ r ∈ t.rows, r.map Prod.fst = t.schema.labels.eraseDupsBy Value.same
  cells : ∀ r ∈ t.rows, ∀ e ∈ r, e.2.IsStored

/-- What a store needs to be restored from its snapshot. -/
structure Store.IsStorable (s : Store) : Prop where
  names : s.names.Nodup
  tables : ∀ t ∈ s.tables, t.IsStorable

/-- The supported types are written in capitals. -/
lemma capitalize_columnTypes : ∀ name ∈ columnTypes, capitalize name = name := by
  decide +kernel

/-- A well-formed table is storable. -/
lemma Table.WellFormed.isStorable {t : Table} (h : t.WellFormed) : t.IsStorable where
  named := h.schema.named
  typed := fun c hc => capitalize_columnTypes _ (h.schema.typed c hc)
  defaults := fun c hc => (h.schema.plain c hc).isStored
  labels := fun r hr => by
    rw [(h.rows r hr).labels, ← Row.foldl_addLabel_eq_eraseDupsBy,
      Row.foldl_addLabel_of_distinct h.schema.distinct]
  cells := fun r hr e he => ((h.rows r hr).plain e he).isStored

/-- **A well-formed store is storable.** -/
lemma Store.WellFormed.isStorable {s : Store} (h : s.WellFormed) : s.IsStorable :=
  ⟨h.names, fun t ht => (h.tables t ht).isStorable⟩

namespace Snapshot

open Document

/-! ## Columns and rows -/

/-- The presence of a column is restored from its two flags. -/
lemma ofFlags_flags (p : Presence) : Presence.ofFlags p.isPrimary p.isRequired = p := by
  cases p <;> rfl

/-- A column is restored from its document. -/
lemma column_ofColumn {c : Column} (hlabel : ∃ name, c.label = .text name)
    (htype : capitalize c.typeName = c.typeName) (hdefault : c.defaultValue.IsStored) :
    ∃ d, ofColumn c = some d ∧ column d = .ok c ∧ d.IsReadable := by
  obtain ⟨name, hname⟩ := hlabel
  obtain ⟨fallback, hdocument, hvalue, hreadable⟩ := hdefault
  refine ⟨.object [("name", .text name), ("type", .text c.typeName),
    ("primary_key", .bool c.presence.isPrimary), ("not_null", .bool c.presence.isRequired),
    ("default", fallback)], ?_, ?_, ?_⟩
  · rw [ofColumn, hname, hdocument]
    rfl
  · have hcolumn : (⟨.text name, c.typeName, c.presence, c.defaultValue⟩ : Column) = c := by
      rw [← hname]
    show Except.ok (⟨.text name, capitalize c.typeName,
      .ofFlags c.presence.isPrimary c.presence.isRequired, fallback.toValue⟩ : Column) = .ok c
    rw [htype, ofFlags_flags, hvalue, hcolumn]
  · refine ⟨by simp, fieldsReadable_iff.mpr ?_⟩
    simp [IsReadable, hreadable]

/-- A row is restored from its document: the value at each column is found at its name. -/
lemma row_ofRow {columns : List Column} (hnamed : ∀ c ∈ columns, ∃ name, c.label = .text name)
    {r : Row} (hlabels : r.map Prod.fst = (columns.map Column.label).eraseDupsBy Value.same)
    (hstored : ∀ e ∈ r, e.2.IsStored) :
    ∃ d, ofRow r = some d ∧ row columns d = .ok r ∧ d.IsReadable := by
  rw [← Row.foldl_addLabel_eq_eraseDupsBy] at hlabels
  have htext : ∀ e ∈ r, ∃ name, e.1 = .text name := by
    intro e he
    have hmem : e.1 ∈ r.map Prod.fst := List.mem_map_of_mem he
    rw [hlabels] at hmem
    have hlabel : e.1 ∈ columns.map Column.label :=
      (Row.mem_of_mem_foldl_addLabel _ _ _ hmem).resolve_left List.not_mem_nil
    obtain ⟨c, hc, heq⟩ := List.mem_map.mp hlabel
    rw [← heq]
    exact hnamed c hc
  have hcells : ∀ e ∈ r, ∃ field, ofCell e = some field ∧
      e.1 = .text field.1 ∧ field.2.toValue = e.2 ∧ field.2.IsReadable := by
    intro e he
    obtain ⟨name, hname⟩ := htext e he
    obtain ⟨d, hdocument, hvalue, hreadable⟩ := hstored e he
    refine ⟨(name, d), ?_, hname, hvalue, hreadable⟩
    rw [ofCell, hname, hdocument]
    rfl
  obtain ⟨fields, hfields, hrelated⟩ := exists_mapM_eq_some hcells
  -- The keys of the fields are the labels of the row, of which no two are equal.
  have hkeys : r.map Prod.fst = (fields.map Prod.fst).map Value.text := by
    clear hfields hcells htext hlabels hstored
    induction hrelated with
    | nil => rfl
    | cons h _ ih => rw [List.map_cons, List.map_cons, List.map_cons, h.1, ih]
  have hdistinct : Row.Distinct (r.map Prod.fst) := by
    rw [hlabels]
    exact Row.distinct_foldl_addLabel _ [] List.Pairwise.nil
  have hnodup : (fields.map Prod.fst).Nodup := (hkeys ▸ hdistinct).nodup_names
  have hrow : r = (object fields).asRow (columns.map Column.label) := by
    rw [asRow, ← Row.foldl_addLabel_eq_eraseDupsBy, ← hlabels, List.map_map]
    refine (List.map_id r).symm.trans (List.map_congr_left fun e he => ?_)
    obtain ⟨⟨key, d⟩, hfield, hkey, hvalue, -⟩ := exists_mem_of_forall₂ hrelated he
    have hfound : (object fields).valueAt e.1 = e.2 := by
      rw [hkey, valueAt, at?, field?_of_mem hnodup hfield, Option.map_some, Option.getD_some,
        hvalue]
    exact Prod.ext rfl hfound.symm
  refine ⟨.object fields, by rw [ofRow, hfields]; rfl, row_eq_ok.mpr ⟨?_, hrow⟩, hnodup, ?_⟩
  · intro label hlabel
    obtain ⟨c, hc, rfl⟩ := List.mem_map.mp hlabel
    obtain ⟨name, hname⟩ := hnamed c hc
    exact ⟨rfl, by rw [hname]; rfl⟩
  · refine fieldsReadable_iff.mpr fun f hf => ?_
    obtain ⟨e, -, -, -, hreadable⟩ := exists_mem_of_forall₂ hrelated.flip hf
    exact hreadable

/-! ## Tables -/

/-- A table is restored from its document under its name. -/
lemma table_ofTable {t : Table} (h : t.IsStorable) :
    ∃ d, ofTable t = some (t.schema.name, d) ∧ table t.schema.name d = .ok t ∧ d.IsReadable := by
  obtain ⟨columns, hcolumns, hcolumn⟩ := exists_mapM_eq_some
    (P := fun c d => column d = .ok c ∧ d.IsReadable) fun c hc =>
      column_ofColumn (h.named c hc) (h.typed c hc) (h.defaults c hc)
  obtain ⟨rows, hrows, hrow⟩ := exists_mapM_eq_some
    (P := fun r d => row t.schema.columns d = .ok r ∧ d.IsReadable) fun r hr =>
      row_ofRow h.named (h.labels r hr) (h.cells r hr)
  refine ⟨.object [("schema", .object [("name", .text t.schema.name), ("columns", .list columns)]),
    ("rows", .list rows)], ?_, ?_, ?_⟩
  · rw [ofTable, hcolumns, hrows]
    rfl
  · show ((columns.mapM column) >>= fun columns => (rows.mapM (row columns)) >>= fun rows =>
      Except.ok (⟨⟨t.schema.name, columns⟩, rows⟩ : Table)) = .ok t
    refine bind_eq_ok.mpr ⟨t.schema.columns, mapM_eq_ok.mpr (hcolumn.flip.imp fun _ _ h => h.1), ?_⟩
    exact bind_eq_ok.mpr ⟨t.rows, mapM_eq_ok.mpr (hrow.flip.imp fun _ _ h => h.1), rfl⟩
  · have hreadable : ∀ {α : Type} {P : α → Document → Prop} {l : List α} {ds : List Document},
        List.Forall₂ (fun a d => P a d ∧ d.IsReadable) l ds → AreReadable ds := by
      intro α P l ds hds
      refine areReadable_iff.mpr fun d hd => ?_
      obtain ⟨a, -, -, hd⟩ := exists_mem_of_forall₂ hds.flip hd
      exact hd
    refine ⟨by simp, fieldsReadable_iff.mpr ?_⟩
    simp [IsReadable, FieldsReadable, hreadable hcolumn, hreadable hrow]

/-- Tables of different names are restored from the fields that were written for them. -/
lemma addTables_ofTables {ts : List Table} (hts : ∀ t ∈ ts, t.IsStorable)
    (hnames : (ts.map (·.schema.name)).Nodup) :
    ∃ fields, ts.mapM ofTable = some fields ∧ addTables .empty fields = .ok ⟨ts⟩ ∧
      (object fields).IsReadable := by
  obtain ⟨fields, hfields, hrelated⟩ := exists_mapM_eq_some
    (P := fun (t : Table) (f : String × Document) =>
      (f.2.IsTable ∧ t = f.2.asTable f.1) ∧ f.2.IsReadable) fun t ht => by
      obtain ⟨d, hd, htable, hreadable⟩ := table_ofTable (hts t ht)
      exact ⟨(t.schema.name, d), hd, table_eq_ok.mp htable, hreadable⟩
  have htables : ts = fields.map fun f => f.2.asTable f.1 := by
    rw [← List.forall₂_eq_eq_eq, List.forall₂_map_right_iff]
    exact hrelated.imp fun t f h => h.1.2
  have hkeys : ts.map (·.schema.name) = fields.map Prod.fst := by
    rw [htables, List.map_map]
    rfl
  rw [hkeys] at hnames
  refine ⟨fields, hfields, ?_, hnames, fieldsReadable_iff.mpr fun f hf => ?_⟩
  · refine (addTables_eq_ok [] hnames).mpr ⟨fun f hf => ?_, ?_⟩
    · obtain ⟨t, -, h⟩ := exists_mem_of_forall₂ hrelated.flip hf
      exact h.1.1
    · rw [htables, List.nil_append]
  · obtain ⟨t, -, h⟩ := exists_mem_of_forall₂ hrelated.flip hf
    exact h.2

end Snapshot

/-! ## Stores -/

/-- **A storable store is restored from its snapshot**, which can be read back from text. -/
theorem Store.ofDocument_toDocument {s : Store} (h : s.IsStorable) (created : String) :
    ∃ d, s.toDocument created = some d ∧ Store.ofDocument d = .ok s ∧ d.IsReadable := by
  obtain ⟨fields, hfields, hadd, hreadable⟩ := Snapshot.addTables_ofTables h.tables h.names
  refine ⟨.object [("version", .int formatVersion), ("created", .text created),
    ("tables", .object fields)], ?_, ?_, ?_⟩
  · rw [toDocument, hfields]
    rfl
  · show (Snapshot.addTables .empty fields).mapError FileError.malformed = .ok s
    rw [hadd]
    rfl
  · have hversion : (Document.int formatVersion).IsReadable := by
      show (digitsOf formatVersion.natAbs).length ≤ integerDigitLimit
      decide +kernel
    exact ⟨by simp, hversion, trivial, hreadable, trivial⟩

end StagedQuery
