import StagedQuery.Proofs.Storage.Restoring
import StagedQuery.Proofs.Store.Building

set_option relaxedAutoImplicit false
set_option autoImplicit false

/-!
# Which restored tables are valid

A store is restored from every document that has the parts for one. No rule of a schema or of a row
is checked on the way: what was saved was valid. This file says of any document, which need not have
been saved, whether the tables restored from it are valid, and whether they could have been built by
creating them and inserting rows.

## Main definitions

* `Document.flag` — whether a field counts as set.
* `Document.ValidColumns`, `Document.FillsColumns` — the parts for columns that pass the check of a
  schema, and the parts for rows with a value under every required column.
* `Document.IsValidTable` — the documents that describe a valid table.
* `Document.LeavesUnnamed` — no row needs a value under a name by which no column is found.

## Main results

* `Document.isValid_asTable`, `Document.isBuildable_asTable` — the tables that a document describes.
* `Store.ofDocument_valid` — the tables restored from any text that holds a document.
* `Store.ofDocument_broken` — a store with a table that is not valid.
-/

namespace StagedQuery

namespace Document

/-! ## Documents that describe valid tables -/

/-- Whether a field of a document counts as set; one that is missing does not. -/
def flag (d : Document) (key : String) : Bool := ((d.at? key).getD (bool false)).toValue.truthy

/-- Parts for columns that pass the check of a schema: there is one, their names can be keys and are
different ones, their types are supported, and at most one is marked as the primary key. -/
def ValidColumns (columns : List Document) : Prop :=
  columns ≠ [] ∧
    (∀ c ∈ columns, c.asColumn.label.unhashable? = none ∧ c.asColumn.typeName ∈ columnTypes) ∧
    Row.Distinct (columns.map fun c => c.asColumn.label) ∧
    (columns.filter (·.flag "primary_key")).length ≤ 1

/-- A part for a row that has a value other than `null` under the name of every column that is
marked as the primary key or as required. -/
def FillsColumns (columns : List Document) (row : Document) : Prop :=
  ∀ c ∈ columns, (c.flag "primary_key" || c.flag "not_null") = true →
    (row.valueAt c.asColumn.label).isNull = false

/-- **A document describes a valid table**: its parts for columns pass the check of a schema, and
its parts for rows have values under the required columns. -/
def IsValidTable (d : Document) : Prop :=
  ValidColumns (d.columnParts?.getD []) ∧
    ∀ row ∈ d.rowParts?.getD [], FillsColumns (d.columnParts?.getD []) row

/-- Whether a document is the number that is not a number. -/
def isNaN : Document → Bool
  | float .nan => true
  | _ => false

/-- No row needs a value under a name by which no column is found: there is no row, or no column
called `NaN` has a default. -/
def LeavesUnnamed (d : Document) : Prop :=
  d.rowParts?.getD [] = [] ∨ ∀ c ∈ d.columnParts?.getD [],
    ((c.at? "name").getD null).isNaN = true → c.asColumn.defaultValue.isNull = true

instance (columns : List Document) : Decidable (ValidColumns columns) :=
  inferInstanceAs (Decidable (_ ∧ _ ∧ List.Pairwise _ _ ∧ _))

instance (columns : List Document) (row : Document) : Decidable (FillsColumns columns row) :=
  inferInstanceAs (Decidable (∀ c ∈ columns, _ → _))

instance (d : Document) : Decidable d.IsValidTable := inferInstanceAs (Decidable (_ ∧ _))

instance (d : Document) : Decidable d.LeavesUnnamed := inferInstanceAs (Decidable (_ ∨ _))

variable {d : Document} {name : String}

/-! ## The tables that they describe -/

/-- A column is the primary key just if the part for it is marked so. -/
lemma isPrimary_asColumn (c : Document) :
    c.asColumn.presence.isPrimary = c.flag "primary_key" := by
  show (Presence.ofFlags (c.flag "primary_key") (c.flag "not_null")).isPrimary = _
  cases c.flag "primary_key" <;> cases c.flag "not_null" <;> rfl

/-- A column is required just if the part for it is marked so, or as the primary key. -/
lemma isRequired_asColumn (c : Document) :
    c.asColumn.presence.isRequired = (c.flag "primary_key" || c.flag "not_null") := by
  show (Presence.ofFlags (c.flag "primary_key") (c.flag "not_null")).isRequired = _
  cases c.flag "primary_key" <;> cases c.flag "not_null" <;> rfl

/-- **The schema that a document describes** passes its check just if the parts for columns do. -/
lemma check_asColumns :
    (⟨name, d.asColumns⟩ : Schema).check = .ok () ↔ ValidColumns (d.columnParts?.getD []) := by
  rw [Schema.check_eq_ok, ValidColumns, Schema.labels]
  dsimp only
  rw [asColumns, ne_eq, List.map_eq_nil_iff, List.forall_mem_map, List.map_map, List.filter_map,
    List.length_map]
  simp only [Function.comp_def, isPrimary_asColumn]

/-- The labels of columns that pass the check are distinct. -/
lemma ValidColumns.distinct (h : ValidColumns (d.columnParts?.getD [])) :
    Row.Distinct (d.asColumns.map Column.label) := by
  rw [asColumns, List.map_map]
  exact h.2.2.1

/-- A row that a document describes under distinct labels has each of them, with the value at it. -/
lemma asRow_of_distinct {labels : List Value} (h : Row.Distinct labels) (row : Document) :
    row.asRow labels = labels.map fun label => (label, row.valueAt label) := by
  rw [asRow, ← Row.foldl_addLabel_eq_eraseDupsBy, Row.foldl_addLabel_of_distinct h]

/-- The value of such a row at a label that can be a key. -/
lemma get_asRow {labels : List Value} (h : Row.Distinct labels) (row : Document) {label : Value}
    (hlabel : label ∈ labels) (hkey : label.unhashable? = none) :
    (row.asRow labels).get label = row.valueAt label := by
  have hlabels : (labels.map fun label => (label, row.valueAt label)).map Prod.fst = labels := by
    rw [List.map_map]
    exact List.map_id _
  have hmem : (label, row.valueAt label) ∈ labels.map fun label => (label, row.valueAt label) :=
    List.mem_map.mpr ⟨label, hlabel, rfl⟩
  rw [asRow_of_distinct h]
  exact Row.get_of_mem (hlabels.symm ▸ h) hmem hkey

/-- **A row that a document describes** passes the check of a valid schema just if it has values
under the required columns. -/
lemma checkPresence_asRow (h : ValidColumns (d.columnParts?.getD [])) (row : Document) :
    (⟨name, d.asColumns⟩ : Schema).checkPresence (row.asRow (d.asColumns.map Column.label)) =
      .ok () ↔ FillsColumns (d.columnParts?.getD []) row := by
  rw [Schema.checkPresence_eq_ok, Schema.Filled, FillsColumns]
  refine List.forall_mem_map.trans (forall₂_congr fun c hc => ?_)
  rw [isRequired_asColumn, get_asRow h.distinct row (List.mem_map_of_mem (List.mem_map_of_mem hc))
    (h.2.1 c hc).1]

/-- **The table that a document describes** is valid just if the document describes a valid
table. -/
theorem isValid_asTable : (d.asTable name).IsValid ↔ d.IsValidTable := by
  constructor
  · rintro ⟨hcheck, hrows⟩
    have hcolumns := check_asColumns.mp hcheck
    exact ⟨hcolumns, fun row hrow =>
      (checkPresence_asRow hcolumns row).mp (hrows _ (List.mem_map_of_mem hrow))⟩
  · rintro ⟨hcolumns, hrows⟩
    exact ⟨check_asColumns.mpr hcolumns, List.forall_mem_map.mpr fun row hrow =>
      (checkPresence_asRow hcolumns row).mpr (hrows row hrow)⟩

/-! ## The tables that could have been built -/

/-- Only the float that is not a number stands for a label that is none. -/
lemma toValue_eq_nan : d.toValue = .float .nan ↔ d.isNaN = true := by
  cases d with
  | float x => cases x <;> simp [toValue, isNaN]
  | null | bool | int | text | list | object => simp [toValue, isNaN]

/-- **A row that a document describes** can be stored under a valid schema just if it has values
under the required columns, and columns called `NaN` have no default. -/
lemma holds_asRow (h : ValidColumns (d.columnParts?.getD [])) (row : Document) :
    (⟨name, d.asColumns⟩ : Schema).Holds (row.asRow (d.asColumns.map Column.label)) ↔
      FillsColumns (d.columnParts?.getD []) row ∧ ∀ c ∈ d.columnParts?.getD [],
        ((c.at? "name").getD null).isNaN = true → c.asColumn.defaultValue.isNull = true := by
  -- No part for a row has a value under such a name, which is not the key of a field.
  have hunnamed : ∀ c ∈ d.columnParts?.getD [],
      ((⟨name, d.asColumns⟩ : Schema).has c.asColumn.label = false →
        (row.asRow (d.asColumns.map Column.label)).get c.asColumn.label =
          c.asColumn.defaultValue) ↔
      (((c.at? "name").getD null).isNaN = true → c.asColumn.defaultValue.isNull = true) := by
    intro c hc
    have hmem : c.asColumn ∈ d.asColumns := List.mem_map_of_mem hc
    have hkey := (h.2.1 c hc).1
    rw [Schema.has_label_eq_false hmem hkey, ← toValue_eq_nan]
    refine forall_congr' fun hnan => ?_
    rw [get_asRow h.distinct row (List.mem_map_of_mem hmem) hkey, hnan, Value.isNull_iff, eq_comm]
    rfl
  have hlabels : (row.asRow (d.asColumns.map Column.label)).map Prod.fst =
      d.asColumns.map Column.label := by
    rw [asRow_of_distinct h.distinct, List.map_map]
    exact List.map_id _
  constructor
  · rintro ⟨-, hpresent, hdefaults⟩
    exact ⟨(checkPresence_asRow h row).mp hpresent, fun c hc =>
      (hunnamed c hc).mp (hdefaults _ (List.mem_map_of_mem hc))⟩
  · rintro ⟨hfills, hdefaults⟩
    exact ⟨hlabels, (checkPresence_asRow h row).mpr hfills,
      List.forall_mem_map.mpr fun c hc => (hunnamed c hc).mpr (hdefaults c hc)⟩

/-- **The table that a document describes** could have been built just if the document describes a
valid table, and no row needs a value under a name by which no column is found. -/
theorem isBuildable_asTable :
    (d.asTable name).IsBuildable ↔ d.IsValidTable ∧ d.LeavesUnnamed := by
  have hrows : ∀ P : Row → Prop, (∀ row ∈ (d.asTable name).rows, P row) ↔
      ∀ row ∈ d.rowParts?.getD [], P (row.asRow (d.asColumns.map Column.label)) :=
    fun P => List.forall_mem_map
  have hcheck : (d.asTable name).schema.check = .ok () ↔ ValidColumns (d.columnParts?.getD []) :=
    check_asColumns
  rw [Table.isBuildable_iff, hrows, hcheck, IsValidTable, and_assoc, LeavesUnnamed]
  refine and_congr_right fun hcolumns => ?_
  cases d.rowParts?.getD [] with
  | nil => simp
  | cons row rows =>
    refine (forall₂_congr fun row _ => holds_asRow hcolumns row).trans ?_
    simp only [reduceCtorEq, false_or]
    exact ⟨fun h => ⟨fun row hrow => (h row hrow).1, (h row List.mem_cons_self).2⟩,
      fun h row hrow => ⟨h.1 row hrow, h.2⟩⟩

end Document

/-! ## Restored stores -/

/-- **Which restored tables are valid.** Take any text that holds a document. Either the document
describes a store and a store is restored, with a table for each part that describes one, or it
describes none and is refused with a file error.

No restored table is checked. It is valid, that is, its schema passes its check and so does every
row, just if the part for it describes a valid table; and then it could also have been built by
creating it and inserting rows, unless a row needs a value under a name by which no column is
found. -/
theorem Store.ofDocument_valid {text : String} {d : Document} (h : Document.read? text = some d) :
    (d.IsSnapshot ∧ ∃ fields s, d.tableFields? = some fields ∧ ofDocument d = .ok s ∧
      List.Forall₂ (fun f t => t.schema.name = f.1 ∧ (t.IsValid ↔ f.2.IsValidTable) ∧
        (t.IsBuildable ↔ f.2.IsValidTable ∧ f.2.LeavesUnnamed)) fields s.tables) ∨
    (¬ d.IsSnapshot ∧ ∃ e : FileError, ofDocument d = .error e) := by
  have hd : d.IsReadable := Document.isReadable_iff.mpr ⟨text, h⟩
  by_cases hsnapshot : d.IsSnapshot
  · obtain ⟨fields, hfields⟩ := Option.isSome_iff_exists.mp hsnapshot.2.1
    refine .inl ⟨hsnapshot, fields, d.asStore, hfields, (ofDocument_eq_ok hd).mpr ⟨hsnapshot, rfl⟩,
      ?_⟩
    rw [Document.asStore, hfields, Option.getD_some, List.forall₂_map_right_iff, List.forall₂_same]
    exact fun f _ => ⟨rfl, Document.isValid_asTable, Document.isBuildable_asTable⟩
  · refine .inr ⟨hsnapshot, ?_⟩
    cases hrestored : ofDocument d with
    | ok s => exact absurd ((ofDocument_eq_ok hd).mp hrestored).1 hsnapshot
    | error e => exact ⟨e, rfl⟩

namespace Document

/-- The document of a store with one table, which has one column and one row. -/
def oneTable (column row : List (String × Document)) : Document :=
  .object [("version", .int 1), ("tables", .object [("t", .object [
    ("schema", .object [("columns", .list [.object column])]), ("rows", .list [.object row])])])]

/-- A column that is required, and a row with a value under it. -/
def sound : Document := oneTable [("name", .text "a"), ("not_null", .bool true)] [("a", .bool true)]

/-- A column that is required and has no supported type, and a row without a value under it. -/
def broken : Document :=
  oneTable [("name", .text "a"), ("type", .text "DATE"), ("not_null", .bool true)] []

/-- No key occurs twice in the two documents, and their integers are short. -/
lemma isReadable_sound_broken : sound.IsReadable ∧ broken.IsReadable := by
  have hone : (digitsOf 1).length ≤ integerDigitLimit := by decide +kernel
  simp [sound, broken, oneTable, IsReadable, FieldsReadable, AreReadable, hone]

end Document

/-- The table of the sound document is valid, and could have been built. -/
theorem Store.ofDocument_valid_sound :
    ∃ s t, ofDocument .sound = .ok s ∧ s.tables = [t] ∧ t.IsValid ∧ t.IsBuildable := by
  have hread := Document.read_write .oneLine Document.isReadable_sound_broken.1
  have hsnapshot : Document.sound.IsSnapshot := by decide +kernel
  obtain ⟨-, fields, s, hfields, hrestored, htables⟩ | ⟨hnot, -⟩ := ofDocument_valid hread
  · obtain rfl := Option.some.inj hfields
    obtain ⟨t, rest, ⟨-, hvalid, hbuildable⟩, hrest, heq⟩ := List.forall₂_cons_left_iff.mp htables
    obtain rfl := List.forall₂_nil_left_iff.mp hrest
    exact ⟨s, t, hrestored, heq, hvalid.mpr (by decide +kernel),
      hbuildable.mpr (by decide +kernel)⟩
  · exact absurd hsnapshot hnot

/-- The broken document can be read, and a store is restored from it. Its table has a schema that
does not pass its check, and a row that does not pass its own. -/
theorem Store.ofDocument_broken :
    (∃ text, Document.read? text = some .broken) ∧
      ∃ t row, ofDocument .broken = .ok ⟨[t]⟩ ∧ row ∈ t.rows ∧
        t.schema.check = .error (.statement (.unsupportedType "DATE")) ∧
        t.schema.checkPresence row = .error (.constraint (.missingValue (.text "a"))) := by
  refine ⟨⟨_, Document.read_write .oneLine Document.isReadable_sound_broken.2⟩, _,
    [(.text "a", .null)], rfl, List.mem_singleton.mpr rfl, rfl, rfl⟩

end StagedQuery
