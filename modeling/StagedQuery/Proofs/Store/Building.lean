import StagedQuery.Proofs.Store.WellFormed

set_option relaxedAutoImplicit false
set_option autoImplicit false

/-!
# Tables that can be built

A table is built when an empty store creates it and rows are then inserted into it one by one. This
file says of every table, wherever it comes from, whether it could have been built.

## Main definitions

* `Table.IsValid` — a table whose schema and rows pass their checks.
* `Table.IsBuildable` — a table that can be built.
* `Schema.Stores`, `Schema.Holds` — a given row is stored as another one, and the rows that can be
  stored.

## Main results

* `Schema.exists_stores_iff` — a row can be stored just if the schema holds it.
* `Table.isBuildable_iff` — the tables that can be built.
-/

namespace StagedQuery

/-- A table whose schema passes its check, as do all of its rows. -/
structure Table.IsValid (t : Table) : Prop where
  schema : t.schema.check = .ok ()
  rows : ∀ row ∈ t.rows, t.schema.checkPresence row = .ok ()

/-- A table can be built: the empty store creates it, and some rows are inserted one by one, none of
which is refused, so that the store holds this table and nothing else. -/
def Table.IsBuildable (t : Table) : Prop :=
  ∃ created given, Store.empty.create t.schema = .ok created ∧
    created.insertAll t.schema.name given = (⟨[t]⟩, .ok ())

namespace Schema

/-- A row that is given is stored as another one: its labels are admitted, it is completed to that
row, and that row passes its check. -/
structure Stores (s : Schema) (given row : Row) : Prop where
  admitted : s.require (given.map Prod.fst) = .ok ()
  completed : s.complete given = .ok row
  present : s.checkPresence row = .ok ()

/-- The rows that can be stored under a schema: they have the labels of the columns in order, and
values where these are required; a column that cannot be found by its own label has its default. -/
structure Holds (s : Schema) (row : Row) : Prop where
  labels : row.map Prod.fst = s.labels
  present : s.checkPresence row = .ok ()
  unnamed : ∀ c ∈ s.columns, s.has c.label = false → row.get c.label = c.defaultValue

variable {s : Schema} {row given : Row}

/-! ## Labels that can be found -/

/-- The label of a column, if it can be a key, is found among the columns, unless it is not a
number. -/
lemma has_label_eq_false {c : Column} (hc : c ∈ s.columns) (hkey : c.label.unhashable? = none) :
    s.has c.label = false ↔ c.label = .float .nan := by
  refine ⟨fun hunnamed => ?_, fun hnan => by rw [hnan]; rfl⟩
  by_contra hnan
  have hfound : s.column? c.label = s.columns.find? (·.label.same c.label) := by
    rw [column?]
    exact hnan
  rw [has, hfound, Option.isSome_eq_false_iff, Option.isNone_iff_eq_none, List.find?_eq_none]
    at hunnamed
  exact hunnamed c hc (Value.same_refl hkey)

/-- What is given for labels that can be found is not for the label of a column that cannot. -/
lemma find?_unnamed {c : Column} (hc : c ∈ s.columns) (hkey : c.label.unhashable? = none)
    (hunnamed : s.has c.label = false) (hgiven : ∀ e ∈ given, s.has e.1 = true) :
    given.find? c.label = none := by
  refine Row.find?_eq_none.mpr fun e he hsame => ?_
  -- A label that is not a number is the same key as itself alone.
  rw [(has_label_eq_false hc hkey).mp hunnamed] at hsame
  have hnan := ((Value.same_numeral rfl e.1).mp (Value.same_symm hsame)).2.2 rfl
  have hfound := hgiven e he
  rw [← hnan] at hfound
  cases hfound

/-! ## Rows that can be stored -/

/-- What is stored has the labels of the columns, and it has the default under a label that no given
row can name. -/
lemma Stores.holds (h : s.Stores given row) (hdistinct : Row.Distinct s.labels) : s.Holds row := by
  have hrow := eq_of_complete h.completed hdistinct
  have hlabels : row.map Prod.fst = s.labels := by
    rw [hrow, List.map_map]
    rfl
  refine ⟨hlabels, h.present, fun c hc hunnamed => ?_⟩
  have hkey : c.label.unhashable? = none :=
    unhashable_labels (complete_eq_ok h.completed).1 (List.mem_map_of_mem hc)
  have hmem : (c.label, cell given c) ∈ row := hrow ▸ List.mem_map.mpr ⟨c, hc, rfl⟩
  have hgiven := List.forall_mem_map.mp (require_eq_ok.mp h.admitted)
  refine (Row.get_of_mem (hlabels ▸ hdistinct) hmem hkey).trans ?_
  rw [cell, find?_unnamed hc hkey hunnamed hgiven, Option.getD_none]

/-- A row that the schema holds is stored if those of its values are given whose labels can be
found. -/
lemma Holds.stores (h : s.Holds row) (hkeys : ∀ label ∈ s.labels, label.unhashable? = none)
    (hdistinct : Row.Distinct s.labels) : s.Stores (row.filter fun e => s.has e.1) row := by
  have hnamed : ∀ e ∈ row.filter fun e => s.has e.1, s.has e.1 = true :=
    fun e he => (List.mem_filter.mp he).2
  have hrowDistinct : Row.Distinct (row.map Prod.fst) := h.labels ▸ hdistinct
  have hrow : row = s.columns.map fun c => (c.label, row.get c.label) := by
    refine (Row.eq_map_get hrowDistinct (by rwa [h.labels])).trans ?_
    rw [h.labels, Schema.labels, List.map_map]
    rfl
  have hcell : ∀ c ∈ s.columns, cell (row.filter fun e => s.has e.1) c = row.get c.label := by
    intro c hc
    have hkey := hkeys c.label (List.mem_map_of_mem hc)
    cases hfound : s.has c.label with
    | true =>
      have hdistinct' : Row.Distinct ((row.filter fun e => s.has e.1).map Prod.fst) :=
        List.Pairwise.sublist (List.filter_sublist.map _) hrowDistinct
      have hmem : (c.label, row.get c.label) ∈ row :=
        (congrArg (_ ∈ ·) hrow).mpr (List.mem_map.mpr ⟨c, hc, rfl⟩)
      rw [cell, Row.find?_of_mem hdistinct' (List.mem_filter.mpr ⟨hmem, hfound⟩) hkey,
        Option.getD_some]
    | false =>
      rw [cell, find?_unnamed hc hkey hfound hnamed, Option.getD_none, h.unnamed c hc hfound]
  refine ⟨require_eq_ok.mpr (List.forall_mem_map.mpr hnamed), ?_, h.present⟩
  rw [complete_of_distinct hkeys hdistinct, Except.ok.injEq]
  exact (List.map_congr_left fun c hc => by rw [hcell c hc]).trans hrow.symm

/-- **A row can be stored** under a schema that passed its check just if the schema holds it. -/
lemma exists_stores_iff (h : s.check = .ok ()) : (∃ given, s.Stores given row) ↔ s.Holds row := by
  obtain ⟨-, hcolumns, hdistinct, -⟩ := check_eq_ok.mp h
  have hkeys : ∀ label ∈ s.labels, label.unhashable? = none :=
    List.forall_mem_map.mpr fun c hc => (hcolumns c hc).1
  exact ⟨fun ⟨given, hgiven⟩ => hgiven.holds hdistinct,
    fun hrow => ⟨_, hrow.stores hkeys hdistinct⟩⟩

end Schema

/-! ## Tables that can be built -/

/-- The insertion of one row into a table. -/
lemma Table.insert_eq_ok {t u : Table} {given row : Row} :
    t.insert given = .ok (u, row) ↔
      t.schema.Stores given row ∧ u = ⟨t.schema, t.rows ++ [row]⟩ := by
  rw [insert]
  simp only [bind_eq_ok]
  constructor
  · rintro ⟨_, hadmitted, row', hcompleted, _, hpresent, h⟩
    obtain ⟨rfl, rfl⟩ := Prod.mk.inj (Except.ok.inj h)
    exact ⟨⟨hadmitted, hcompleted, hpresent⟩, rfl⟩
  · rintro ⟨⟨hadmitted, hcompleted, hpresent⟩, rfl⟩
    exact ⟨_, hadmitted, _, hcompleted, _, hpresent, rfl⟩

namespace Store

/-- Inserting a row into the only table of a store. -/
lemma insert_only (t : Table) (given : Row) : insert ⟨[t]⟩ t.schema.name given =
    (t.insert given).map fun (u, row) => (put ⟨[t]⟩ u, row) := by
  have hget : get ⟨[t]⟩ t.schema.name = .ok t := get_eq_ok.mpr (by simp [find?])
  simp only [insert, hget, bind, Except.bind, pure, Except.pure]
  cases t.insert given <;> rfl

/-- **Rows inserted one by one** into the only table of a store: none of them is refused just if
each is stored as some row, and these rows come behind those before.

**Proof sketch.** Induction on the rows. Each one that is stored leaves a store with one table of
the same schema. -/
lemma insertAll_only {schema : Schema} {t : Table} (given : List Row) : ∀ before : List Row,
    insertAll ⟨[⟨schema, before⟩]⟩ schema.name given = (⟨[t]⟩, .ok ()) ↔
      ∃ rows, List.Forall₂ schema.Stores given rows ∧ t = ⟨schema, before ++ rows⟩ := by
  induction given with
  | nil =>
    intro before
    rw [insertAll]
    simp [eq_comm]
  | cons row given ih =>
    intro before
    have hinsert := insert_only ⟨schema, before⟩ row
    dsimp only at hinsert
    simp only [List.forall₂_cons_left_iff]
    rw [insertAll, hinsert]
    cases hstored : Table.insert ⟨schema, before⟩ row with
    | error e =>
      refine iff_of_false (by simp [Except.map]) ?_
      rintro ⟨-, ⟨stored, rows, hrow, -, rfl⟩, -⟩
      rw [Table.insert_eq_ok.mpr ⟨hrow, rfl⟩] at hstored
      cases hstored
    | ok r =>
      obtain ⟨u, stored⟩ := r
      obtain ⟨hrow, rfl⟩ := Table.insert_eq_ok.mp hstored
      have hput : put ⟨[⟨schema, before⟩]⟩ ⟨schema, before ++ [stored]⟩ =
          ⟨[⟨schema, before ++ [stored]⟩]⟩ := by simp [put, putTable]
      simp only [Except.map, hput, ih]
      constructor
      · rintro ⟨rows, hrows, rfl⟩
        exact ⟨stored :: rows, ⟨stored, rows, hrow, hrows, rfl⟩, by simp⟩
      · rintro ⟨-, ⟨stored', rows, hrow', hrows, rfl⟩, rfl⟩
        obtain rfl := Except.ok.inj (hrow.completed.symm.trans hrow'.completed)
        exact ⟨rows, hrows, by simp⟩

end Store

/-- **The tables that can be built**: the schema passes its check, and holds every row. -/
theorem Table.isBuildable_iff {t : Table} :
    t.IsBuildable ↔ t.schema.check = .ok () ∧ ∀ row ∈ t.rows, t.schema.Holds row := by
  have hcreate : ∀ created, Store.empty.create t.schema = .ok created ↔
      t.schema.check = .ok () ∧ created = ⟨[⟨t.schema, []⟩]⟩ := by
    intro created
    have hfresh : Store.empty.has t.schema.name = false := rfl
    rw [Store.create, hfresh]
    cases t.schema.check <;> simp [Store.put, Store.putTable, Store.empty, eq_comm]
  simp only [IsBuildable, hcreate, and_assoc, exists_and_left, exists_eq_left]
  refine and_congr_right fun hcheck => ?_
  simp only [Store.insertAll_only, List.nil_append]
  constructor
  · rintro ⟨given, rows, hrows, ht⟩ row hrow
    rw [ht] at hrow
    obtain ⟨g, -, hstores⟩ := exists_mem_of_forall₂ hrows.flip hrow
    exact (Schema.exists_stores_iff hcheck).mp ⟨g, hstores⟩
  · intro hrows
    choose! given hgiven using fun row hrow =>
      (Schema.exists_stores_iff hcheck).mpr (hrows row hrow)
    refine ⟨t.rows.map given, t.rows, ?_, rfl⟩
    rw [List.forall₂_map_left_iff, List.forall₂_same]
    exact hgiven

end StagedQuery
