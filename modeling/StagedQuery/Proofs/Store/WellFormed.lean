import StagedQuery.Proofs.Store.Changes
import StagedQuery.Proofs.Table.Checks

set_option relaxedAutoImplicit false
set_option autoImplicit false

/-!
# Well-formed stores

What holds of every store that statements build: the rules of its schemas, and the rules of its
rows. Each change by a statement keeps them, provided that the statement holds plain values, as
every statement does that was read from a text.

## Main definitions

* `Value.IsPlain` — the values that statements hold.
* `Schema.WellFormed`, `Row.WellFormed`, `Table.WellFormed`, `Store.WellFormed` — the rules.
* `Statement.IsPlain` — the statements that can be read from a text.

## Main results

* `Schema.check_eq_ok` — the schemas that pass their check.
* `Store.WellFormed.put` — a well-formed table put into a store.
* `CreateTable.wellFormed_execute`, `DropTable.wellFormed_execute`, `Insert.wellFormed_execute`,
  `Update.wellFormed_execute`, `Delete.wellFormed_execute` — each statement keeps the rules.
* `Statement.wellFormed_storeAfter` — so any statement keeps them.

## Design

The bound on the digits of an integer is part of the rules although no rule of a table speaks of it.
It is what makes a store readable again after it was saved.
-/

namespace StagedQuery

/-! ## The rules -/

/-- A value that a statement can hold: `null`, an integer that is not too long, a floating-point
number that is a number, or text. -/
def Value.IsPlain : Value → Prop
  | .null => True
  | .int n => (digitsOf n.natAbs).length ≤ integerDigitLimit
  | .float x => x ≠ .nan
  | .text _ => True
  | _ => False

/-- A value is empty just if it is `null`. -/
lemma Value.isNull_iff {v : Value} : v.isNull = true ↔ v = .null := by
  cases v <;> simp [isNull]

/-- A plain value is `null`, an integer, a floating-point number or text. -/
lemma Value.IsPlain.form {v : Value} (h : v.IsPlain) :
    v = .null ∨ (∃ n, v = .int n) ∨ (∃ x, v = .float x) ∨ ∃ s, v = .text s := by
  cases v with
  | null => exact .inl rfl
  | int n => exact .inr (.inl ⟨n, rfl⟩)
  | float x => exact .inr (.inr (.inl ⟨x, rfl⟩))
  | text s => exact .inr (.inr (.inr ⟨s, rfl⟩))
  | bool b | list l | object l | range a b | tuple l => exact absurd h (by simp [IsPlain])

/-- The rules of a schema: there is a column, columns are named by different texts, types are
supported, at most one column is the primary key, and defaults are plain. -/
structure Schema.WellFormed (s : Schema) : Prop where
  nonempty : s.columns ≠ []
  named : ∀ c ∈ s.columns, ∃ name, c.label = .text name
  distinct : Row.Distinct s.labels
  typed : ∀ c ∈ s.columns, c.typeName ∈ columnTypes
  onePrimary : (s.columns.filter (·.presence.isPrimary)).length ≤ 1
  plain : ∀ c ∈ s.columns, c.defaultValue.IsPlain

/-- The rules of a row: its labels are those of the schema in order, its values are plain, and no
required column is `null`. -/
structure Row.WellFormed (s : Schema) (row : Row) : Prop where
  labels : row.map Prod.fst = s.labels
  plain : ∀ e ∈ row, e.2.IsPlain
  present : s.checkPresence row = .ok ()

/-- The rules of a table. -/
structure Table.WellFormed (t : Table) : Prop where
  schema : t.schema.WellFormed
  rows : ∀ row ∈ t.rows, row.WellFormed t.schema

/-- The rules of a store: no two tables have one name, and every table keeps its rules. -/
structure Store.WellFormed (s : Store) : Prop where
  names : s.names.Nodup
  tables : ∀ t ∈ s.tables, t.WellFormed

/-- A statement that holds plain values only; a column of `CREATE TABLE` is named by a text and has
a supported type. -/
def Statement.IsPlain : Statement → Prop
  | .createTable s => ∀ c ∈ s.columns,
      (∃ name, c.label = .text name) ∧ c.typeName ∈ columnTypes ∧ c.defaultValue.IsPlain
  | .insert s => ∀ values ∈ s.rows, ∀ v ∈ values, v.IsPlain
  | .update s => ∀ a ∈ s.assignments, a.2.IsPlain
  | _ => True

/-! ## Schemas and rows -/

namespace Schema

/-- A column that is found by a label has a label that is the same key. -/
lemma of_column?_eq_some {s : Schema} {label : Value} {c : Column}
    (h : s.column? label = some c) : c ∈ s.columns ∧ c.label.same label = true := by
  have hfind : s.columns.find? (·.label.same label) = some c := by
    unfold column? at h
    split at h
    · simp at h
    · exact h
  have hsame := List.find?_some (p := fun c : Column => c.label.same label) hfind
  exact ⟨List.mem_of_find?_eq_some hfind, hsame⟩

/-- A label that a schema has is the same key as that of some column. -/
lemma exists_label_of_has {s : Schema} {label : Value} (h : s.has label = true) :
    ∃ l ∈ s.labels, l.same label = true := by
  obtain ⟨c, hcolumn⟩ := Option.isSome_iff_exists.mp h
  obtain ⟨hc, hsame⟩ := of_column?_eq_some hcolumn
  exact ⟨c.label, List.mem_map_of_mem hc, hsame⟩

/-- The labels of a well-formed schema are texts. -/
lemma WellFormed.text_of_mem {s : Schema} (h : s.WellFormed) {label : Value}
    (hl : label ∈ s.labels) : ∃ name, label = .text name := by
  obtain ⟨c, hc, rfl⟩ := List.mem_map.mp hl
  exact h.named c hc

/-- The labels of a well-formed schema can be keys. -/
lemma WellFormed.unhashable_label {s : Schema} (hs : s.WellFormed) {label : Value}
    (h : label ∈ s.labels) : label.unhashable? = none := by
  obtain ⟨name, rfl⟩ := hs.text_of_mem h
  rfl

/-- Labels of a well-formed schema are admitted. -/
lemma WellFormed.require_labels {s : Schema} (hs : s.WellFormed) :
    s.require s.labels = .ok () := by
  refine require_eq_ok.mpr fun label hlabel => ?_
  obtain ⟨name, rfl⟩ := hs.text_of_mem hlabel
  obtain ⟨c, hc, hname⟩ := List.mem_map.mp hlabel
  show (s.columns.find? (·.label.same (.text name))).isSome = true
  exact List.find?_isSome.mpr ⟨c, hc, by rw [hname]; exact Value.same_refl rfl⟩

/-- Every column of a well-formed schema is found by its label. -/
lemma WellFormed.column?_of_mem {s : Schema} (hs : s.WellFormed) {c : Column}
    (hc : c ∈ s.columns) : s.column? c.label = some c := by
  obtain ⟨name, hname⟩ := hs.named c hc
  have hdistinct := hs.distinct
  rw [Schema.labels] at hdistinct
  rw [hname]
  show s.columns.find? (·.label.same (.text name)) = some c
  rw [← hname]
  generalize s.columns = columns at hc hdistinct
  induction columns with
  | nil => simp at hc
  | cons first columns ih =>
    obtain ⟨hfirst, hrest⟩ := List.pairwise_cons.mp hdistinct
    rw [List.find?_cons]
    rcases List.mem_cons.mp hc with rfl | hc
    · rw [hname, Value.same_refl rfl]
    · rw [hfirst c.label (List.mem_map_of_mem hc)]
      exact ih hc hrest

/-- **The columns that pass their check** after columns whose labels were seen: their labels can be
keys, differ from each other and from those seen, and their types are supported.

**Proof sketch.** Induction on the columns. The label of the first one is checked against those seen
before, and is among those seen before the others are checked. -/
lemma checkColumns_eq_ok {table : String} {columns : List Column} :
    ∀ {seen : List Value}, checkColumns table seen columns = .ok () ↔
      (∀ c ∈ columns, c.label.unhashable? = none ∧ c.typeName ∈ columnTypes ∧
        ∀ l ∈ seen, l.same c.label = false) ∧ Row.Distinct (columns.map Column.label) := by
  induction columns with
  | nil => exact fun {seen} => iff_of_true rfl ⟨by simp, List.Pairwise.nil⟩
  | cons c columns ih =>
    intro seen
    rw [checkColumns, List.forall_mem_cons, List.map_cons, Row.Distinct, List.pairwise_cons,
      List.forall_mem_map]
    cases hkey : c.label.unhashable? with
    | some kind => simp
    | none =>
      by_cases hseen : seen.any (·.same c.label) = true
      · obtain ⟨l, hl, hsame⟩ := List.any_eq_true.mp hseen
        refine iff_of_false (by simp [hseen]) fun h => ?_
        rw [h.1.1.2.2 l hl] at hsame
        cases hsame
      · by_cases htype : c.typeName ∈ columnTypes
        · rw [if_neg hseen, if_pos (List.contains_iff_mem.mpr htype), ih]
          simp only [List.any_eq_true, not_exists, not_and, Bool.not_eq_true] at hseen
          simp only [List.forall_mem_cons, htype, true_and]
          constructor
          · rintro ⟨hrest, hdistinct⟩
            exact ⟨⟨hseen, fun d hd => ⟨(hrest d hd).1, (hrest d hd).2.1, (hrest d hd).2.2.2⟩⟩,
              fun d hd => (hrest d hd).2.2.1, hdistinct⟩
          · rintro ⟨⟨-, hrest⟩, hfirst, hdistinct⟩
            exact ⟨fun d hd => ⟨(hrest d hd).1, (hrest d hd).2.1, hfirst d hd, (hrest d hd).2.2⟩,
              hdistinct⟩
        · refine iff_of_false (by simp [hseen, htype]) fun h => htype h.1.1.2.1

/-- **The schemas that pass their check**: there is a column, labels can be keys and differ, types
are supported, and at most one column is the primary key. -/
lemma check_eq_ok {s : Schema} : s.check = .ok () ↔
    s.columns ≠ [] ∧
      (∀ c ∈ s.columns, c.label.unhashable? = none ∧ c.typeName ∈ columnTypes) ∧
      Row.Distinct s.labels ∧ (s.columns.filter (·.presence.isPrimary)).length ≤ 1 := by
  have hcolumns : checkColumns s.name [] s.columns = .ok () ↔
      (∀ c ∈ s.columns, c.label.unhashable? = none ∧ c.typeName ∈ columnTypes) ∧
        Row.Distinct s.labels := by
    rw [checkColumns_eq_ok, labels]
    simp
  rw [check, ← and_assoc (b := Row.Distinct _), ← hcolumns, ← List.isEmpty_eq_false_iff]
  cases s.columns.isEmpty with
  | true => simp
  | false =>
    cases checkColumns s.name [] s.columns with
    | error e => simp
    | ok u =>
      rw [← Nat.not_lt]
      by_cases hprimary : 1 < (s.columns.filter (·.presence.isPrimary)).length <;> simp [hprimary]

/-- A schema that was checked keeps the rules, if its columns are named by texts and have plain
defaults. -/
lemma wellFormed_of_check {s : Schema} (h : s.check = .ok ())
    (hnamed : ∀ c ∈ s.columns, ∃ name, c.label = .text name)
    (hplain : ∀ c ∈ s.columns, c.defaultValue.IsPlain) : s.WellFormed := by
  obtain ⟨hnonempty, hcolumns, hdistinct, hprimary⟩ := check_eq_ok.mp h
  exact ⟨hnonempty, hnamed, hdistinct, fun c hc => (hcolumns c hc).2, hprimary, hplain⟩

end Schema

namespace Row

/-- The value that is found at a label in a row of plain values is plain. -/
lemma plain_of_find? {row : Row} (h : ∀ e ∈ row, e.2.IsPlain) {label v : Value}
    (hv : row.find? label = some v) : v.IsPlain := by
  rw [find?, Option.map_eq_some_iff] at hv
  obtain ⟨e, he, rfl⟩ := hv
  exact h e (List.mem_of_find?_eq_some he)

/-- The value at a label in a row of plain values is plain. -/
lemma plain_get {row : Row} (h : ∀ e ∈ row, e.2.IsPlain) (label : Value) :
    (row.get label).IsPlain := by
  rw [get]
  cases hv : row.find? label with
  | none => exact trivial
  | some v => exact plain_of_find? h hv

/-- Plain values put into a row of plain values. -/
lemma plain_override {row changes : Row} (hrow : ∀ e ∈ row, e.2.IsPlain)
    (hchanges : ∀ c ∈ changes, c.2.IsPlain) : ∀ e ∈ row.override changes, e.2.IsPlain :=
  forall_override (P := fun _ v => v.IsPlain) (fun _ _ _ _ h => h) changes row hrow hchanges

/-- A row that was completed from plain values keeps the rules once it is checked. -/
lemma wellFormed_of_complete {s : Schema} (hs : s.WellFormed) {given row : Row}
    (hgiven : ∀ e ∈ given, e.2.IsPlain) (hrow : s.complete given = .ok row)
    (hcheck : s.checkPresence row = .ok ()) : row.WellFormed s := by
  have hlabels :
      (s.columns.map fun c => (c.label, Schema.cell given c)).map Prod.fst = s.labels := by
    rw [List.map_map]
    rfl
  have heq := Schema.eq_of_complete hrow hs.distinct
  refine ⟨by rw [heq, hlabels], fun e he => ?_, hcheck⟩
  rw [heq] at he
  obtain ⟨c, hc, rfl⟩ := List.mem_map.mp he
  show (Schema.cell given c).IsPlain
  rw [Schema.cell]
  cases hfind : given.find? c.label with
  | none => exact hs.plain c hc
  | some v => exact plain_of_find? hgiven hfind

end Row

/-! ## Stores -/

namespace Store

/-- The store without tables keeps the rules. -/
lemma wellFormed_empty : Store.empty.WellFormed := ⟨List.nodup_nil, by simp [Store.empty]⟩

/-- A table that is found keeps the rules. -/
lemma WellFormed.find? {s : Store} (h : s.WellFormed) {name : String} {t : Table}
    (ht : s.find? name = some t) : t.WellFormed := h.tables t (mem_of_find? ht)

/-- **A table that keeps the rules** can be put into a store. -/
lemma WellFormed.put {s : Store} (h : s.WellFormed) {t : Table} (ht : t.WellFormed) :
    (s.put t).WellFormed := by
  refine ⟨?_, fun u hu => ?_⟩
  · rw [Store.names, Store.put]
    by_cases hname : t.schema.name ∈ s.tables.map (·.schema.name)
    · rw [names_putTable_of_mem hname]
      exact h.names
    · rw [putTable_of_not_mem hname, List.map_append]
      refine List.nodup_append.mpr ⟨h.names, List.pairwise_singleton _ _, fun a ha b hb => ?_⟩
      rw [List.mem_singleton.mp hb]
      rintro rfl
      exact hname ha
  · rcases mem_putTable hu with rfl | hu
    · exact ht
    · exact h.tables u hu

end Store

/-! ## Statements -/

section

variable {store : Store}

/-- `CREATE TABLE` keeps the rules. -/
lemma CreateTable.wellFormed_execute {s : CreateTable} (hs : (Statement.createTable s).IsPlain)
    (h : store.WellFormed) : (s.execute store).store.WellFormed := by
  cases hresult : (s.execute store).result with
  | error e =>
    rw [execute_error hresult]
    exact h
  | ok message =>
    rcases execute_ok hresult with ⟨-, -, hstore, -⟩ | ⟨-, hcheck, hstore, -⟩
    · rw [hstore]
      exact h
    · rw [hstore]
      refine h.put ⟨?_, by simp⟩
      exact Schema.wellFormed_of_check hcheck (fun c hc => (hs c hc).1) fun c hc => (hs c hc).2.2

/-- `DROP TABLE` keeps the rules. -/
lemma DropTable.wellFormed_execute {s : DropTable} (h : store.WellFormed) :
    (s.execute store).store.WellFormed := by
  cases hresult : (s.execute store).result with
  | error e =>
    rw [execute_error hresult]
    exact h
  | ok message =>
    rcases execute_ok hresult with ⟨-, -, hstore, -⟩ | ⟨-, hstore, -⟩
    · rw [hstore]
      exact h
    · rw [hstore]
      refine ⟨?_, fun t ht => h.tables t (List.mem_filter.mp ht).1⟩
      exact List.Nodup.sublist (List.Sublist.map _ List.filter_sublist) h.names

/-- The rows that an `INSERT` adds keep the rules. -/
lemma Insert.wellFormed_of_rowsFor {s : Insert} (hs : (Statement.insert s).IsPlain)
    {schema : Schema} (hschema : schema.WellFormed) {rows : List Row}
    (h : s.rowsFor schema = .ok rows) :
    ∀ row ∈ rows, row.WellFormed schema := by
  intro row hrow
  obtain ⟨values, hvalues, place, hplace⟩ := rowsFor_eq_ok h row hrow
  obtain ⟨-, hcomplete, hcheck⟩ := rowFor_eq_ok hplace
  refine Row.wellFormed_of_complete hschema ?_ hcomplete hcheck
  refine Row.plain_override (by simp) fun c hc => ?_
  exact hs values hvalues c.2 (List.of_mem_zip hc).2

/-- `INSERT` keeps the rules. -/
lemma Insert.wellFormed_execute {s : Insert} (hs : (Statement.insert s).IsPlain)
    (h : store.WellFormed) : (s.execute store).store.WellFormed := by
  cases hresult : (s.execute store).result with
  | error e =>
    rw [execute_error hresult]
    exact h
  | ok message =>
    obtain ⟨t, rows, ht, hrows, -, hstore⟩ := execute_ok hresult
    rw [hstore]
    have htable := h.find? ht
    refine h.put ⟨htable.schema, fun row hrow => ?_⟩
    rcases List.mem_append.mp hrow with hrow | hrow
    · exact htable.rows row hrow
    · exact wellFormed_of_rowsFor hs htable.schema hrows row hrow

/-- A row that an `UPDATE` may have changed keeps the rules.

**Proof sketch.** The changed columns are columns of the schema, so the labels of the row stay. Each
changed row is checked again for required columns. -/
lemma Row.wellFormed_updateRow {s : Schema} {changes : Row} {condition : Option Predicate}
    (hchanges : ∀ c ∈ changes, c.2.IsPlain) (hrequire : s.require (changes.map (·.1)) = .ok ())
    {row after : Row} (hrow : row.WellFormed s)
    (h : Table.updateRow s changes condition row = .ok after) : after.WellFormed s := by
  rw [Table.updateRow] at h
  split at h
  · obtain ⟨u, hcheck, rfl⟩ := map_eq_ok.mp h
    refine ⟨?_, plain_override hrow.plain hchanges, hcheck⟩
    rw [labels_override_of_mem, hrow.labels]
    intro c hc
    rw [hrow.labels]
    obtain ⟨l, hl, hsame⟩ := Schema.exists_label_of_has
      (Schema.require_eq_ok.mp hrequire c.1 (List.mem_map_of_mem hc))
    exact List.any_eq_true.mpr ⟨l, hl, hsame⟩
  · rw [← Except.ok.inj h]
    exact hrow

/-- `UPDATE` keeps the rules. -/
lemma Update.wellFormed_execute {s : Update} (hs : (Statement.update s).IsPlain)
    (h : store.WellFormed) : (s.execute store).store.WellFormed := by
  cases hresult : (s.execute store).result with
  | error e =>
    rw [execute_error hresult]
    exact h
  | ok message =>
    obtain ⟨t, rows, ht, hrequire, -, -, hrows, hstore, -⟩ := execute_ok hresult
    rw [hstore]
    have htable := h.find? ht
    refine h.put ⟨htable.schema, fun row hrow => ?_⟩
    obtain ⟨old, hold, hupdated⟩ := exists_mem_of_forall₂ (mapM_eq_ok.mp hrows).flip hrow
    refine Row.wellFormed_updateRow ?_ hrequire (htable.rows old hold) hupdated
    refine Row.plain_override (by simp) fun c hc => ?_
    obtain ⟨a, ha, rfl⟩ := List.mem_map.mp hc
    exact hs a ha

/-- `DELETE` keeps the rules. -/
lemma Delete.wellFormed_execute {s : Delete} (h : store.WellFormed) :
    (s.execute store).store.WellFormed := by
  cases hresult : (s.execute store).result with
  | error e =>
    rw [execute_error hresult]
    exact h
  | ok message =>
    obtain ⟨t, ht, -, hstore, -⟩ := execute_ok hresult
    rw [hstore]
    have htable := h.find? ht
    exact h.put ⟨htable.schema, fun row hrow => htable.rows row (List.mem_filter.mp hrow).1⟩

/-- **A statement that holds plain values** keeps the rules. -/
theorem Statement.wellFormed_storeAfter {s : Statement} (hs : s.IsPlain) (h : store.WellFormed) :
    (s.storeAfter store).WellFormed := by
  cases s with
  | createTable s => exact s.wellFormed_execute hs h
  | dropTable s => exact s.wellFormed_execute h
  | insert s => exact s.wellFormed_execute hs h
  | update s => exact s.wellFormed_execute hs h
  | delete s => exact s.wellFormed_execute h
  | select | save | load => exact h

end

end StagedQuery
