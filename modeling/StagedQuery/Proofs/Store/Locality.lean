import StagedQuery.Proofs.Store.Changes
import StagedQuery.Query.Scan

set_option relaxedAutoImplicit false
set_option autoImplicit false

/-!
# Statements are local to their table

A statement reads and writes no other table than the one that it names. Two stores in which that
table is the same, or missing, give the same result and leave the same table behind; the other
tables stay as they are, in their order. So statements on the rows of different tables can be
executed in either order.

## Main definitions

* `Store.others` — the tables of other names, in order.
* `Store.KeepsOthers` — a change of one table that leaves the others in their places.
* `Effect.Agree` — effects that are the same as far as one table goes.
* `Effect.ofTable` — the effect of a change of one table; `Update.change`, `Delete.change` are such.
* `Statement.KeepsTables` — the statements that neither create nor drop a table.

## Main results

* `CreateTable.agree`, `DropTable.agree`, `Insert.agree`, `Update.agree`, `Delete.agree`,
  `Select.scan_congr` — each statement on two stores that agree on its table.
* `Statement.keepsOthers` — a statement leaves the other tables in their places.
* `Statement.storeAfter_comm` — statements on the rows of different tables commute.
-/

namespace StagedQuery

/-! ## One table and the others -/

namespace Store

variable {s s' : Store} {name : String}

/-- The tables of other names, in order. -/
def others (s : Store) (name : String) : List Table := s.tables.filter (·.schema.name != name)

/-- Look-up after a table is put into a store. -/
lemma find?_put (s : Store) (t : Table) (name : String) :
    (s.put t).find? name = if t.schema.name = name then some t else s.find? name :=
  find?_putTable s.tables t name

/-- Looking up a table depends on that table alone. -/
lemma get_congr (h : s.find? name = s'.find? name) : s.get name = s'.get name := by
  rw [get, get, h]

/-- Putting a table into a store leaves the tables of other names. -/
lemma others_put (s : Store) (t : Table) : (s.put t).others t.schema.name =
    s.others t.schema.name := by
  show (putTable s.tables t).filter _ = s.tables.filter _
  induction s.tables with
  | nil => simp [putTable]
  | cons old tables ih =>
    rw [putTable]
    split
    · next hold => simp [hold]
    · next hold => rw [List.filter_cons, List.filter_cons, ih]

/-- **Tables of different names are put into a store in either order**, if one of them is there
already. Otherwise the one that is put first would stand first. -/
lemma put_comm {t u : Table} (hne : t.schema.name ≠ u.schema.name)
    (h : s.has t.schema.name = true) : (s.put t).put u = (s.put u).put t := by
  have hmem : t.schema.name ∈ s.tables.map (·.schema.name) := by
    obtain ⟨old, hold⟩ := Option.isSome_iff_exists.mp h
    rw [← name_of_find? hold]
    exact List.mem_map_of_mem (mem_of_find? hold)
  suffices hput : putTable (putTable s.tables t) u = putTable (putTable s.tables u) t by
    rw [put, put, put, put, hput]
  generalize s.tables = tables at hmem
  induction tables with
  | nil => simp at hmem
  | cons old tables ih =>
    by_cases ht : old.schema.name = t.schema.name
    · have hu : old.schema.name ≠ u.schema.name := by rwa [ht]
      rw [putTable, if_pos ht, putTable, if_neg hne, putTable, if_neg hu, putTable, if_pos ht]
    · rw [putTable, if_neg ht]
      by_cases hu : old.schema.name = u.schema.name
      · rw [putTable, if_pos hu, putTable, if_pos hu, putTable, if_neg hne.symm]
      · have hrest := (List.mem_cons.mp hmem).resolve_left (Ne.symm ht)
        rw [putTable, if_neg hu, putTable, if_neg hu, putTable, if_neg ht, ih hrest]

/-- A change of one table: the tables of other names stay, in their order; a table that is there
before and after keeps its place among them, and one that is new comes last. -/
structure KeepsOthers (name : String) (before after : Store) : Prop where
  others : after.others name = before.others name
  place : before.has name = true → after.has name = true → after.names = before.names
  last : before.has name = false → after.has name = true → after.names = before.names ++ [name]

/-- No change. -/
lemma KeepsOthers.refl (name : String) (s : Store) : s.KeepsOthers name s where
  others := rfl
  place _ _ := rfl
  last hbefore hafter := by rw [hbefore] at hafter; cases hafter

/-- A table of another name is found among the others. -/
lemma find?_others (s : Store) {other : String} (h : other ≠ name) :
    (s.others name).find? (·.schema.name == other) = s.find? other := by
  rw [others, List.find?_filter, find?]
  congr 1
  funext t
  by_cases ht : t.schema.name = other
  · simp [ht, h]
  · simp [ht]

/-- A change of one table leaves the look-up of the others. -/
lemma KeepsOthers.find?_eq {before after : Store} (h : before.KeepsOthers name after)
    {other : String} (hne : other ≠ name) : after.find? other = before.find? other := by
  rw [← find?_others after hne, h.others, find?_others before hne]

/-- A table is put in its place, or at the end if there was none. -/
lemma keepsOthers_put (s : Store) (t : Table) : s.KeepsOthers t.schema.name (s.put t) where
  others := others_put s t
  place hbefore _ := by
    obtain ⟨old, hold⟩ := Option.isSome_iff_exists.mp hbefore
    refine names_putTable_of_mem ?_
    rw [← name_of_find? hold]
    exact List.mem_map_of_mem (mem_of_find? hold)
  last hbefore _ := by
    have hnew : t.schema.name ∉ s.tables.map (·.schema.name) := by
      intro hmem
      obtain ⟨old, hold, hname⟩ := List.mem_map.mp hmem
      rw [has, Option.isSome_eq_false_iff, Option.isNone_iff_eq_none, find?,
        List.find?_eq_none] at hbefore
      exact hbefore old hold (by simpa using hname)
    rw [names, put, putTable_of_not_mem hnew, List.map_append]
    rfl

/-- A table that is left out is not found. -/
lemma find?_filter (s : Store) (name : String) :
    (⟨s.tables.filter (·.schema.name != name)⟩ : Store).find? name = none := by
  rw [find?, List.find?_eq_none]
  intro t ht
  simpa using (List.mem_filter.mp ht).2

/-- A table is left out. -/
lemma keepsOthers_filter (s : Store) (name : String) :
    s.KeepsOthers name ⟨s.tables.filter (·.schema.name != name)⟩ := by
  have hgone : (⟨s.tables.filter (·.schema.name != name)⟩ : Store).has name = false := by
    rw [has, find?_filter]
    rfl
  refine ⟨by simp [others], fun _ hafter => ?_, fun _ hafter => ?_⟩ <;>
    · rw [hgone] at hafter
      cases hafter

end Store

/-! ## Effects on one table -/

/-- Two effects that are the same as far as one table goes: their results, and that table. -/
structure Effect.Agree (name : String) (e e' : Effect) : Prop where
  result : e.result = e'.result
  table : e.store.find? name = e'.store.find? name

variable {store store' : Store} {name : String}

/-- Two stores without a change agree as before. -/
lemma Effect.Agree.same (h : store.find? name = store'.find? name)
    (result : Except Failure String) : Effect.Agree name ⟨store, result⟩ ⟨store', result⟩ := ⟨rfl, h⟩

/-- **One change of a table**, put into two stores that agree. -/
lemma Effect.Agree.put (h : store.find? name = store'.find? name)
    (change : Except Failure (Table × String)) :
    Effect.Agree name (ofChange store (change.map fun c => (store.put c.1, c.2)))
      (ofChange store' (change.map fun c => (store'.put c.1, c.2))) := by
  cases change with
  | error e => exact ⟨rfl, h⟩
  | ok c =>
    refine ⟨rfl, ?_⟩
    show (store.put c.1).find? name = (store'.put c.1).find? name
    rw [Store.find?_put, Store.find?_put, h]

/-- The effect of a change of one table. -/
def Effect.ofTable (before : Store) (name : String)
    (change : Table → Except Failure (Table × String)) : Effect :=
  .ofChange before (((before.get name).bind change).map fun c => (before.put c.1, c.2))

/-- The same change of one table in two stores that agree on it. -/
lemma Effect.Agree.ofTable (h : store.find? name = store'.find? name)
    (change : Table → Except Failure (Table × String)) :
    Effect.Agree name (.ofTable store name change) (.ofTable store' name change) := by
  rw [Effect.ofTable, Effect.ofTable, Store.get_congr h]
  exact .put h _

/-- A `CREATE TABLE` on two stores. -/
lemma CreateTable.agree (s : CreateTable) (h : store.find? s.table = store'.find? s.table) :
    Effect.Agree s.table (s.execute store) (s.execute store') := by
  have hhas : store.has s.table = store'.has s.table := congrArg Option.isSome h
  rw [execute, execute, hhas, Store.create, Store.create, hhas]
  split
  · exact .same h _
  · split
    · exact .same h _
    · cases (⟨s.table, s.columns⟩ : Schema).check with
      | error e => exact .same h _
      | ok u => exact .put h (.ok (⟨⟨s.table, s.columns⟩, []⟩, _))

/-- A `DROP TABLE` on two stores. -/
lemma DropTable.agree (s : DropTable) (h : store.find? s.table = store'.find? s.table) :
    Effect.Agree s.table (s.execute store) (s.execute store') := by
  have hhas : store.has s.table = store'.has s.table := congrArg Option.isSome h
  have hget := Store.get_congr h
  rw [execute, execute, hhas, Store.drop, Store.drop, hget]
  split
  · exact .same h _
  · cases store'.get s.table with
    | error e => exact .same h _
    | ok t => exact ⟨rfl, (store.find?_filter s.table).trans (store'.find?_filter s.table).symm⟩

/-- A row is inserted by a change of its table. -/
lemma Store.insert_eq (s : Store) (name : String) (row : Row) :
    s.insert name row = ((s.get name).bind (·.insert row)).map fun c => (s.put c.1, c.2) := by
  rw [insert]
  cases s.get name with
  | error e => rfl
  | ok t =>
    show (t.insert row >>= fun c => pure (s.put c.1, c.2)) = _
    cases hinsert : t.insert row <;> simp [Except.bind, Except.map, hinsert, bind, pure, Except.pure]

/-- Rows are inserted one by one into two stores. -/
lemma Store.insertAll_congr (rows : List Row) :
    ∀ {s s' : Store}, s.find? name = s'.find? name →
      (s.insertAll name rows).2 = (s'.insertAll name rows).2 ∧
        (s.insertAll name rows).1.find? name = (s'.insertAll name rows).1.find? name := by
  induction rows with
  | nil => exact fun h => ⟨rfl, h⟩
  | cons row rows ih =>
    intro s s' h
    rw [insertAll, insertAll, insert_eq, insert_eq, get_congr h]
    cases (s'.get name).bind (·.insert row) with
    | error e => exact ⟨rfl, h⟩
    | ok c =>
      refine ih ?_
      show (s.put c.1).find? name = (s'.put c.1).find? name
      rw [find?_put, find?_put, h]

/-- An `INSERT` on two stores. -/
lemma Insert.agree (s : Insert) (h : store.find? s.table = store'.find? s.table) :
    Effect.Agree s.table (s.execute store) (s.execute store') := by
  have hprepare : s.prepare store = s.prepare store' := by
    rw [prepare, prepare, Store.get_congr h]
  rw [execute, execute, hprepare]
  cases s.prepare store' with
  | error e => exact .same h _
  | ok rows =>
    obtain ⟨hstored, htable⟩ := Store.insertAll_congr rows h
    exact ⟨congrArg (Except.map _) hstored, htable⟩

/-- An `UPDATE` as a change of its table. -/
def Update.change (s : Update) (table : Table) : Except Failure (Table × String) := do
  table.schema.require (s.changes.map (·.1))
  table.schema.require ((Predicate.namedColumns s.condition).map .text)
  checkChanges table.schema s.changes
  let (after, count) ← table.update s.changes s.condition
  return (after, changeMessage count "updated" none)

/-- An `UPDATE` makes its change of its table. -/
lemma Update.execute_eq (s : Update) (store : Store) :
    s.execute store = .ofTable store s.table s.change := by
  rw [execute, Store.update, Effect.ofTable]
  cases store.get s.table with
  | error e => rfl
  | ok t =>
    simp only [bind, Except.bind, change]
    cases t.schema.require (s.changes.map (·.1)) with
    | error e => rfl
    | ok u =>
      cases t.schema.require ((Predicate.namedColumns s.condition).map .text) with
      | error e => rfl
      | ok u =>
        cases checkChanges t.schema s.changes with
        | error e => rfl
        | ok u => cases t.update s.changes s.condition <;> rfl

/-- An `UPDATE` on two stores. -/
lemma Update.agree (s : Update) (h : store.find? s.table = store'.find? s.table) :
    Effect.Agree s.table (s.execute store) (s.execute store') := by
  rw [execute_eq, execute_eq]
  exact .ofTable h s.change

/-- A `DELETE` as a change of its table. -/
def Delete.change (s : Delete) (table : Table) : Except Failure (Table × String) := do
  table.schema.require ((Predicate.namedColumns s.condition).map .text)
  let (after, count) := table.delete s.condition
  return (after, changeMessage count "deleted" none)

/-- A `DELETE` makes its change of its table. -/
lemma Delete.execute_eq (s : Delete) (store : Store) :
    s.execute store = .ofTable store s.table s.change := by
  rw [execute, Store.delete, Effect.ofTable]
  cases store.get s.table with
  | error e => rfl
  | ok t =>
    simp only [bind, Except.bind, change]
    cases t.schema.require ((Predicate.namedColumns s.condition).map .text) <;> rfl

/-- A `DELETE` on two stores. -/
lemma Delete.agree (s : Delete) (h : store.find? s.table = store'.find? s.table) :
    Effect.Agree s.table (s.execute store) (s.execute store') := by
  rw [execute_eq, execute_eq]
  exact .ofTable h s.change

/-- The scan of a `SELECT` on two stores. -/
lemma Select.scan_congr (s : Select) (h : store.find? s.table = store'.find? s.table) :
    s.scan store = s.scan store' := by
  rw [scan, scan, Store.get_congr h]

/-! ## Any statement -/

namespace Statement

variable {s s' : Statement} {name' : String}

/-- A statement leaves the same table in two stores that agree on it. -/
theorem find?_storeAfter_congr (hs : s.table? = some name)
    (h : store.find? name = store'.find? name) :
    (s.storeAfter store).find? name = (s.storeAfter store').find? name := by
  cases s with
  | createTable s | dropTable s | insert s | update s | delete s =>
    obtain rfl := Option.some.inj hs
    exact (s.agree h).table
  | select s => exact h
  | save | load => cases hs

/-- **A statement leaves the other tables in their places.** -/
theorem keepsOthers (hs : s.table? = some name) (store : Store) :
    store.KeepsOthers name (s.storeAfter store) := by
  rcases s.storeAfter_cases store with hstore | ⟨c, rfl, -, -, hstore⟩ | ⟨d, rfl, hstore⟩ |
    ⟨t, rows, hname, -, hstore⟩ <;> rw [hstore]
  · exact .refl name store
  · obtain rfl := Option.some.inj hs
    exact store.keepsOthers_put ⟨⟨c.table, c.columns⟩, []⟩
  · obtain rfl := Option.some.inj hs
    exact store.keepsOthers_filter d.table
  · obtain rfl := Option.some.inj (hname.symm.trans hs)
    exact store.keepsOthers_put ⟨t.schema, rows⟩

/-- The statements that neither create nor drop a table. -/
def KeepsTables (s : Statement) : Prop := s.kind ≠ .createTable ∧ s.kind ≠ .dropTable

/-- A statement on the rows of a table that is there puts that table with some rows back. -/
lemma exists_put_storeAfter (hs : s.table? = some name) (hkeeps : s.KeepsTables)
    (hname : store.has name = true) :
    ∃ t, t.schema.name = name ∧ s.storeAfter store = store.put t := by
  rcases s.storeAfter_cases store with hstore | ⟨c, rfl, -⟩ | ⟨d, rfl, -⟩ |
    ⟨t, rows, htable, -, hstore⟩
  · obtain ⟨t, ht⟩ := Option.isSome_iff_exists.mp hname
    exact ⟨t, Store.name_of_find? ht, hstore.trans (Store.put_of_find? ht).symm⟩
  · exact absurd rfl hkeeps.1
  · exact absurd rfl hkeeps.2
  · exact ⟨⟨t.schema, rows⟩, Option.some.inj (htable.symm.trans hs), hstore⟩

/-- A statement does to a store in which another table was put what it does without that table. -/
lemma storeAfter_put (hs : s.table? = some name) (hkeeps : s.KeepsTables)
    (hname : store.has name = true) {t u : Table} (hne : u.schema.name ≠ name)
    (ht : t.schema.name = name) (hstore : s.storeAfter store = store.put t) :
    s.storeAfter (store.put u) = (store.put u).put t := by
  have hfind : (store.put u).find? name = store.find? name := by
    rw [Store.find?_put, if_neg hne]
  have hhas : (store.put u).has name = true := by rwa [Store.has, hfind]
  obtain ⟨v, hv, hafter⟩ := exists_put_storeAfter hs hkeeps hhas
  have htable := find?_storeAfter_congr hs hfind
  rw [hafter, hstore, Store.find?_put, if_pos hv, Store.find?_put, if_pos ht] at htable
  rw [hafter, Option.some.inj htable]

/-- **Statements on the rows of different tables** can be executed in either order. -/
theorem storeAfter_comm (hs : s.table? = some name) (hs' : s'.table? = some name')
    (hne : name ≠ name') (hkeeps : s.KeepsTables) (hkeeps' : s'.KeepsTables)
    (hname : store.has name = true) (hname' : store.has name' = true) :
    s'.storeAfter (s.storeAfter store) = s.storeAfter (s'.storeAfter store) := by
  obtain ⟨t, ht, hstore⟩ := exists_put_storeAfter hs hkeeps hname
  obtain ⟨u, hu, hstore'⟩ := exists_put_storeAfter hs' hkeeps' hname'
  rw [hstore, hstore', storeAfter_put hs' hkeeps' hname' (by rwa [ht]) hu hstore',
    storeAfter_put hs hkeeps hname (by rw [hu]; exact hne.symm) ht hstore]
  exact Store.put_comm (by rwa [ht, hu]) (by rwa [ht])

end Statement

end StagedQuery
