import StagedQuery.Proofs.Document.Readable
import StagedQuery.Proofs.Store.Changes
import StagedQuery.Proofs.Store.Tables
import StagedQuery.Proofs.Table.Rows
import StagedQuery.Storage.Snapshot

set_option relaxedAutoImplicit false
set_option autoImplicit false

/-!
# What a document describes

A document need not have been written as a snapshot. Each part of it can be of any kind, and parts
may be missing or come in excess. So it is said apart from the reader which documents describe a
store, and what store that is; then the reader is shown to accept just these documents and to
restore just this store. It cannot end in any other way than with a store or with a file error.

## Main definitions

* `Document.at?`, `Document.parts?` — a field of a document, and what a loop goes through.
* `Document.tableFields?`, `Document.columnParts?`, `Document.rowParts?` — the parts that describe
  tables, columns and rows.
* `Document.asColumn`, `Document.asRow`, `Document.asTable` — what such a part describes.
* `Document.IsTable`, `Document.IsSnapshot` — the documents that describe a table and a store.

## Main results

* `Snapshot.column_eq_ok`, `Snapshot.row_eq_ok`, `Snapshot.table_eq_ok` — when each part is
  accepted, and what is restored from it.
* `Store.ofDocument_eq_ok` — the documents that are accepted, and the stores restored from them.
* `Store.ofDocument_described` — what becomes of any text that holds a document.
-/

namespace StagedQuery

/-! ## The parts of a document -/

namespace Document

/-- The document in a field. A document that is no object has no fields. -/
def at? (d : Document) (key : String) : Option Document :=
  match d with
  | object fields => field? fields key
  | _ => none

/-- What a loop over a document goes through: the items of a list, the keys of an object and the
characters of a text. There is no loop over any other document. -/
def parts? : Document → Option (List Document)
  | list items => some items
  | object fields => some (fields.map fun field => text field.1)
  | text s => some (s.toList.map fun c => text (String.singleton c))
  | _ => none

/-- Whether a document is an object. -/
def isObject : Document → Bool
  | object _ => true
  | _ => false

/-- The fields that describe tables, each under the name of its table. -/
def tableFields? (d : Document) : Option (List (String × Document)) :=
  match (d.at? "tables").getD (object []) with
  | object fields => some fields
  | _ => none

/-- The parts of a table that describe columns. -/
def columnParts? (d : Document) : Option (List Document) :=
  ((d.at? "schema").bind (·.at? "columns")).bind parts?

/-- The parts of a table that describe rows. -/
def rowParts? (d : Document) : Option (List Document) := ((d.at? "rows").getD (list [])).parts?

/-- The parts that describe columns are in a field of a field. -/
lemma columnParts?_eq_some {d : Document} {cs : List Document} :
    d.columnParts? = some cs ↔ ∃ schema, d.at? "schema" = some schema ∧
      ∃ columns, schema.at? "columns" = some columns ∧ columns.parts? = some cs := by
  rw [columnParts?, Option.bind_assoc]
  simp only [Option.bind_eq_some_iff]

/-! ## What the parts describe -/

/-- The column that a document describes. -/
def asColumn (d : Document) : Column :=
  let flag := fun key => ((d.at? key).getD (bool false)).toValue.truthy
  ⟨((d.at? "name").getD null).toValue,
    capitalize ((d.at? "type").getD (text "TEXT")).toValue.display,
    .ofFlags (flag "primary_key") (flag "not_null"), ((d.at? "default").getD null).toValue⟩

/-- The value that a document gives for a label. Only a text can be the key of a field. -/
def valueAt (d : Document) : Value → Value
  | .text key => ((d.at? key).map toValue).getD .null
  | _ => .null

/-- The row that a document describes under labels: each of them once, with the value at it. -/
def asRow (labels : List Value) (d : Document) : Row :=
  (labels.eraseDupsBy Value.same).map fun label => (label, d.valueAt label)

/-- The columns of the table that a document describes. -/
def asColumns (d : Document) : List Column := (d.columnParts?.getD []).map asColumn

/-- The table that a document describes, under a name. -/
def asTable (name : String) (d : Document) : Table :=
  ⟨⟨name, d.asColumns⟩, (d.rowParts?.getD []).map (asRow (d.asColumns.map Column.label))⟩

/-- The store that a document describes. -/
def asStore (d : Document) : Store := ⟨(d.tableFields?.getD []).map fun f => f.2.asTable f.1⟩

/-! ## Which parts describe something -/

/-- A document describes a row under labels: without labels every document does, and else an object
does if all labels can be keys. -/
def IsRow (labels : List Value) (d : Document) : Prop :=
  ∀ label ∈ labels, d.isObject = true ∧ label.unhashable? = none

/-- A document describes a table: there are parts for columns and for rows, every column has a name,
and every row describes one under the labels of the columns. -/
def IsTable (d : Document) : Prop :=
  d.columnParts?.isSome = true ∧ d.rowParts?.isSome = true ∧
    (∀ c ∈ d.columnParts?.getD [], (c.at? "name").isSome = true) ∧
    ∀ r ∈ d.rowParts?.getD [], r.IsRow (d.asColumns.map Column.label)

/-- A document has the version of the format, as any number that is equal to it. -/
def HasVersion (d : Document) : Prop :=
  ((d.at? "version").getD null).toValue.same (.int formatVersion) = true

/-- A document describes a store. -/
def IsSnapshot (d : Document) : Prop :=
  d.HasVersion ∧ d.tableFields?.isSome = true ∧ ∀ f ∈ d.tableFields?.getD [], f.2.IsTable

instance (labels : List Value) (d : Document) : Decidable (d.IsRow labels) :=
  inferInstanceAs (Decidable (∀ label ∈ labels, _ ∧ _))

instance (d : Document) : Decidable d.IsTable := inferInstanceAs (Decidable (_ ∧ _))

instance (d : Document) : Decidable d.HasVersion := inferInstanceAs (Decidable (_ = true))

instance (d : Document) : Decidable d.IsSnapshot := inferInstanceAs (Decidable (_ ∧ _))

/-- Labels that are the same key have one value. -/
lemma valueAt_congr (d : Document) {a b : Value} (h : a.same b = true) :
    d.valueAt a = d.valueAt b := by
  have htext : ∀ {a b : Value} {key : String}, a.same b = true → a = .text key → b = .text key := by
    rintro a b key h rfl
    exact Value.same_text.mp h
  unfold valueAt
  split
  · rw [htext h rfl]
  · next ha =>
    split
    · next key => exact absurd (htext (Value.same_symm h) rfl) (ha key)
    · rfl

end Document

/-! ## The reader, part by part -/

namespace Snapshot

open Document

/-- A field that must be there is read if it is. -/
lemma requiredField_eq_ok {d value : Document} {key : String} :
    requiredField d key = .ok value ↔ d.at? key = some value := by
  cases d with
  | object fields =>
    simp only [requiredField, at?]
    cases field? fields key <;> simp
  | null | bool | int | float | text | list => simp [requiredField, at?]

/-- The items of a document are what a loop goes through. -/
lemma items_eq_ok {d : Document} {ds : List Document} :
    items d = .ok ds ↔ d.parts? = some ds := by
  cases d <;> simp [items, parts?]

/-- A column is restored from every document with a name. -/
lemma column_eq_ok {d : Document} {c : Column} :
    column d = .ok c ↔ (d.at? "name").isSome = true ∧ c = d.asColumn := by
  rw [column, bind_eq_ok]
  simp only [requiredField_eq_ok, Option.isSome_iff_exists]
  cases d with
  | object fields =>
    constructor
    · rintro ⟨label, hlabel, h⟩
      refine ⟨⟨label, hlabel⟩, ?_⟩
      rw [asColumn, hlabel]
      exact (Except.ok.inj h).symm
    · rintro ⟨⟨label, hlabel⟩, rfl⟩
      refine ⟨label, hlabel, ?_⟩
      rw [asColumn, hlabel]
      rfl
  | null | bool | int | float | text | list => simp [at?]

/-- A cell is restored from an object, for a label that can be a key. -/
lemma cell_eq_ok {d : Document} {c : Column} {e : Value × Value} :
    cell d c = .ok e ↔
      (d.isObject = true ∧ c.label.unhashable? = none) ∧ e = (c.label, d.valueAt c.label) := by
  cases d with
  | object fields =>
    rw [cell]
    split
    · next key hlabel => simp [isObject, valueAt, at?, hlabel, Value.unhashable?, eq_comm]
    · next hlabel =>
      have hvalue : (object fields).valueAt c.label = .null := by
        unfold valueAt
        split
        · next key heq => exact absurd heq (hlabel key)
        · rfl
      rw [hvalue]
      cases c.label.unhashable? <;> simp [isObject, eq_comm]
  | null | bool | int | float | text | list => simp [cell, isObject]

/-- **A row** is restored from a document that describes one. -/
lemma row_eq_ok {columns : List Column} {d : Document} {r : Row} :
    row columns d = .ok r ↔
      d.IsRow (columns.map Column.label) ∧ r = d.asRow (columns.map Column.label) := by
  -- labels that are the same key get the same value, so it does not matter which of them wins
  have hrow : Row.ofPairs (columns.map fun c => (c.label, d.valueAt c.label)) =
      d.asRow (columns.map Column.label) := by
    rw [asRow, ← Row.ofPairs_map fun a b => d.valueAt_congr, List.map_map]
    rfl
  rw [row, map_eq_ok, IsRow, List.forall_mem_map]
  simp only [mapM_eq_ok_map fun c e => cell_eq_ok]
  constructor
  · rintro ⟨pairs, ⟨hcells, rfl⟩, rfl⟩
    exact ⟨hcells, hrow⟩
  · rintro ⟨hcells, rfl⟩
    exact ⟨_, ⟨hcells, rfl⟩, hrow⟩

/-- **A table** is restored from a document that describes one. -/
lemma table_eq_ok {name : String} {d : Document} {t : Table} :
    table name d = .ok t ↔ d.IsTable ∧ t = d.asTable name := by
  rw [table]
  simp only [bind_eq_ok, requiredField_eq_ok, items_eq_ok, mapM_eq_ok_map fun d c => column_eq_ok]
  cases d with
  | object fields =>
    simp only [bind_eq_ok, items_eq_ok, mapM_eq_ok_map fun d r => row_eq_ok]
    constructor
    · rintro ⟨schema, hschema, columns, hcolumns, cs, hcs, _, ⟨hnamed, rfl⟩, rs, hrs, _,
        ⟨hrows, rfl⟩, ht⟩
      have hcolumnParts := columnParts?_eq_some.mpr ⟨schema, hschema, columns, hcolumns, hcs⟩
      have hrowParts : (object fields).rowParts? = some rs := hrs
      simp only [IsTable, asTable, asColumns, hcolumnParts, hrowParts, Option.isSome_some,
        Option.getD_some]
      exact ⟨⟨trivial, trivial, hnamed, hrows⟩, (Except.ok.inj ht).symm⟩
    · rintro ⟨⟨hcolumns, hrows, hnamed, hlabelled⟩, rfl⟩
      obtain ⟨cs, hcolumnParts⟩ := Option.isSome_iff_exists.mp hcolumns
      obtain ⟨rs, hrowParts⟩ := Option.isSome_iff_exists.mp hrows
      obtain ⟨schema, hschema, columns, hcolumns, hcs⟩ := columnParts?_eq_some.mp hcolumnParts
      simp only [asColumns, hcolumnParts, hrowParts, Option.getD_some] at hnamed hlabelled
      simp only [asTable, asColumns, hcolumnParts, hrowParts, Option.getD_some]
      exact ⟨schema, hschema, columns, hcolumns, cs, hcs, _, ⟨hnamed, rfl⟩, rs, hrowParts, _,
        ⟨hlabelled, rfl⟩, rfl⟩
  -- a document without fields has no schema
  | null | bool | int | float | text | list => simp [at?, IsTable, columnParts?]

/-- Tables are restored one behind the other, if no two of them have one name. -/
lemma addTables_eq_ok {fields : List (String × Document)} {s : Store} :
    ∀ before : List Table, (before.map (·.schema.name) ++ fields.map Prod.fst).Nodup →
      (addTables ⟨before⟩ fields = .ok s ↔
        (∀ f ∈ fields, f.2.IsTable) ∧ s = ⟨before ++ fields.map fun f => f.2.asTable f.1⟩) := by
  induction fields with
  | nil =>
    intro before _
    simp [addTables, eq_comm]
  | cons f fields ih =>
    obtain ⟨name, d⟩ := f
    intro before hnodup
    rw [addTables, bind_eq_ok]
    simp only [table_eq_ok]
    have hnew : name ∉ before.map (·.schema.name) := fun hmem =>
      (List.nodup_append.mp hnodup).2.2 _ hmem _ (by simp) rfl
    have hput : Store.put ⟨before⟩ (d.asTable name) = ⟨before ++ [d.asTable name]⟩ := by
      rw [Store.put, Store.putTable_of_not_mem hnew]
    have hrest := ih (before ++ [d.asTable name]) (by simpa [asTable] using hnodup)
    rw [List.append_assoc, List.singleton_append] at hrest
    rw [List.forall_mem_cons, List.map_cons]
    constructor
    · rintro ⟨_, ⟨htable, rfl⟩, h⟩
      rw [hput, hrest] at h
      exact ⟨⟨htable, h.1⟩, h.2⟩
    · rintro ⟨⟨htable, htables⟩, hs⟩
      refine ⟨_, ⟨htable, rfl⟩, ?_⟩
      rw [hput, hrest]
      exact ⟨htables, hs⟩

end Snapshot

/-! ## Whole documents -/

namespace Document

/-- The document in a field of one that was read could have been read by itself. -/
lemma IsReadable.at? {d part : Document} (h : d.IsReadable) {key : String}
    (hpart : d.at? key = some part) : part.IsReadable := by
  cases d with
  | object fields =>
    obtain ⟨f, hf, rfl⟩ := mem_of_field? hpart
    exact fieldsReadable_iff.mp h.2 f hf
  | null | bool | int | float | text | list => cases hpart

/-- So could what a loop over it goes through. -/
lemma IsReadable.parts? {d : Document} (h : d.IsReadable) {parts : List Document}
    (hparts : d.parts? = some parts) : ∀ part ∈ parts, part.IsReadable := by
  cases d with
  | list items =>
    obtain rfl := Option.some.inj hparts
    exact areReadable_iff.mp h
  | object fields =>
    obtain rfl := Option.some.inj hparts
    exact List.forall_mem_map.mpr fun _ _ => trivial
  | text s =>
    obtain rfl := Option.some.inj hparts
    exact List.forall_mem_map.mpr fun _ _ => trivial
  | null | bool | int | float => cases hparts

/-- A document that stands for a field which is missing may do so if it could have been read. -/
lemma IsReadable.getD {d : Document} (h : d.IsReadable) (fallback : Document)
    (hfallback : fallback.IsReadable) (key : String) : ((d.at? key).getD fallback).IsReadable := by
  cases hpart : d.at? key with
  | none => exact hfallback
  | some part => exact h.at? hpart

/-- The fields that describe tables could have been read; so no two tables have one name. -/
lemma IsReadable.tableFields {d : Document} (h : d.IsReadable) :
    (object (d.tableFields?.getD [])).IsReadable := by
  have htables := h.getD (object []) ⟨List.nodup_nil, trivial⟩ "tables"
  rw [tableFields?]
  generalize (d.at? "tables").getD (object []) = tables at htables
  cases tables with
  | object fields => exact htables
  | null | bool | int | float | text | list => exact ⟨List.nodup_nil, trivial⟩

end Document

namespace Store

/-- A document without the version of the format is refused. -/
lemma ofDocument_of_not_hasVersion {d : Document} (h : ¬ d.HasVersion) :
    ofDocument d = .error .unknownVersion := by
  cases d with
  | object fields => exact if_neg h
  | null | bool | int | float | text | list => rfl

/-- A document with the version of the format is restored by its tables. -/
lemma ofDocument_of_hasVersion {d : Document} (h : d.HasVersion) : ofDocument d =
    (Snapshot.tables ((d.at? "tables").getD (.object []))).mapError .malformed := by
  cases d with
  | object fields => exact if_pos h
  | null | bool | int | float | text | list => cases h

/-- **The documents that are accepted** are those that describe a store, and that store is restored
from them. -/
theorem ofDocument_eq_ok {d : Document} (hd : d.IsReadable) {s : Store} :
    ofDocument d = .ok s ↔ d.IsSnapshot ∧ s = d.asStore := by
  by_cases hversion : d.HasVersion
  · have hnodup := hd.tableFields.1
    rw [ofDocument_of_hasVersion hversion, mapError_eq_ok]
    simp only [Document.IsSnapshot, Document.asStore, hversion, true_and]
    rw [Document.tableFields?] at hnodup ⊢
    generalize (d.at? "tables").getD (.object []) = tables at hnodup ⊢
    cases tables with
    | object fields =>
      have hfresh : (fields.map Prod.fst).Nodup := hnodup
      have hadded := Snapshot.addTables_eq_ok (s := s) [] hfresh
      show Snapshot.addTables ⟨[]⟩ fields = .ok s ↔ ((some fields).isSome = true ∧ _) ∧ _
      rw [hadded, Option.isSome_some, eq_self, true_and]
      rfl
    | null | bool | int | float | text | list => simp [Snapshot.tables]
  · rw [ofDocument_of_not_hasVersion hversion]
    simp [Document.IsSnapshot, hversion]

/-- **What becomes of a text that holds a document**, whichever it is. Either the document describes
a store, and a store is restored; or it does not, and the error is that the version of the format is
another one, or else that some part is malformed.

The tables of a restored store are those of the document in their order, each found and named by its
key. Each row has exactly the labels of the columns, in the order of the schema and equal ones once.
Its value at a label is that of the document if the part for the row has the label as a key, and
`null` if it has not; what else the part has is left out. -/
theorem ofDocument_described {text : String} {d : Document} (h : Document.read? text = some d) :
    (d.IsSnapshot ∧ ∃ fields s, d.tableFields? = some fields ∧ ofDocument d = .ok s ∧
      s.names = fields.map Prod.fst ∧
      List.Forall₂ (fun f t => s.find? f.1 = some t ∧ t.schema = ⟨f.1, f.2.asColumns⟩ ∧
        ∃ parts, f.2.rowParts? = some parts ∧
          t.rows = parts.map fun part => (t.schema.labels.eraseDupsBy Value.same).map fun label =>
            (label, part.valueAt label)) fields s.tables) ∨
    (¬ d.IsSnapshot ∧
      ((¬ d.HasVersion ∧ ofDocument d = .error .unknownVersion) ∨
        (d.HasVersion ∧ ∃ mismatch, ofDocument d = .error (.malformed mismatch)))) := by
  have hd : d.IsReadable := Document.isReadable_iff.mpr ⟨text, h⟩
  by_cases hsnapshot : d.IsSnapshot
  · obtain ⟨fields, hfields⟩ := Option.isSome_iff_exists.mp hsnapshot.2.1
    have hnodup := hd.tableFields.1
    have htables := hsnapshot.2.2
    rw [hfields, Option.getD_some] at hnodup htables
    have hstore : d.asStore = ⟨fields.map fun f => f.2.asTable f.1⟩ := by
      rw [Document.asStore, hfields, Option.getD_some]
    have hrestored := (ofDocument_eq_ok hd).mpr ⟨hsnapshot, hstore.symm⟩
    have hnames : names ⟨fields.map fun f => f.2.asTable f.1⟩ = fields.map Prod.fst := by
      rw [names, List.map_map]
      rfl
    refine .inl ⟨hsnapshot, fields, _, hfields, hrestored, hnames, ?_⟩
    rw [List.forall₂_map_right_iff, List.forall₂_same]
    intro f hf
    obtain ⟨parts, hparts⟩ := Option.isSome_iff_exists.mp (htables f hf).2.1
    refine ⟨?_, rfl, parts, hparts, ?_⟩
    · exact find?_of_mem (t := f.2.asTable f.1) (hnames ▸ hnodup) (List.mem_map_of_mem hf)
    · rw [Document.asTable, hparts]
      rfl
  · refine .inr ⟨hsnapshot, ?_⟩
    by_cases hversion : d.HasVersion
    · refine .inr ⟨hversion, ?_⟩
      cases hrestored : ofDocument d with
      | ok s => exact absurd ((ofDocument_eq_ok hd).mp hrestored).1 hsnapshot
      | error e =>
        rw [ofDocument_of_hasVersion hversion] at hrestored
        cases htables : Snapshot.tables ((d.at? "tables").getD (.object [])) with
        | ok s =>
          rw [htables] at hrestored
          cases hrestored
        | error mismatch =>
          rw [htables] at hrestored
          exact ⟨mismatch, congrArg Except.error (Except.error.inj hrestored).symm⟩
    · exact .inl ⟨hversion, ofDocument_of_not_hasVersion hversion⟩

end Store

/-- A document that was not saved as a snapshot. The version is a truth value, the schema has
another name than the key of the table, a column is described twice, most fields are missing, and
the row has a list at one label, nothing at the other one, and a field too many. -/
def Document.foreign : Document :=
  .object [("version", .bool true), ("tables", .object [("t", .object [
    ("schema", .object [("name", .text "u"), ("columns", .list [
      .object [("name", .text "a"), ("type", .text "text")],
      .object [("name", .text "b"), ("primary_key", .int 1), ("default", .object [("k", .null)])],
      .object [("name", .text "a")]])]),
    ("rows", .list [.object [("c", .int 2), ("a", .list [.null])]])])])]

/-- No key occurs twice in the document, and its integers are short. -/
lemma Document.isReadable_foreign : foreign.IsReadable := by
  have hone : (digitsOf 1).length ≤ integerDigitLimit := by decide +kernel
  have htwo : (digitsOf 2).length ≤ integerDigitLimit := by decide +kernel
  simp [foreign, IsReadable, FieldsReadable, AreReadable, hone, htwo]

/-- The table is named by its key, and its row has the two labels in the order of the schema. -/
theorem Store.ofDocument_described_foreign :
    ∃ s, ofDocument .foreign = .ok s ∧ s.names = ["t"] ∧
      s.tables.map Table.rows = [[[(.text "a", .list [.null]), (.text "b", .null)]]] := by
  have hread := Document.read_write .oneLine Document.isReadable_foreign
  have hsnapshot : Document.foreign.IsSnapshot := by decide +kernel
  obtain ⟨-, fields, s, hfields, hrestored, hnames, htables⟩ | ⟨hnot, -⟩ :=
    ofDocument_described hread
  · obtain rfl := Option.some.inj hfields
    obtain ⟨t, rest, ⟨-, hschema, parts, hparts, hrows⟩, hrest, heq⟩ :=
      List.forall₂_cons_left_iff.mp htables
    obtain rfl := List.forall₂_nil_left_iff.mp hrest
    obtain rfl := Option.some.inj hparts
    refine ⟨s, hrestored, hnames, ?_⟩
    rw [heq, List.map_singleton, hrows, hschema]
    rfl
  · exact absurd hsnapshot hnot

end StagedQuery
