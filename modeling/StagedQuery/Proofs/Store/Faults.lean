import StagedQuery.Proofs.Store.WellFormed

set_option relaxedAutoImplicit false
set_option autoImplicit false

/-!
# Faults in the execution of statements on tables

An error has a message for whoever wrote the statement; a fault has none and ends the run. Of the
statements that define and change tables only `INSERT` can end in a fault, and it does so in one
case: the rows are for a table that was read from a file with a label that cannot be a key.

## Main definitions

* `Faultless` — a computation that does not end in a fault.

## Main results

* `bind_eq_fault`, `bind_eq_fault_left` — which of two steps ends in a fault.
* `CreateTable.faultless_execute`, `DropTable.faultless_execute`, `Update.faultless_execute`,
  `Delete.faultless_execute` — the statements that end in no fault.
* `Insert.execute_eq_fault` — when an `INSERT` ends in a fault, and in which one.
-/

namespace StagedQuery

/-! ## Computations without faults -/

/-- A computation that does not end in a fault: it succeeds, or it ends in an error. -/
def Faultless {α : Type} (x : Except Failure α) : Prop := ∀ f, x ≠ .error (.fault f)

section Faultless

variable {α β : Type}

/-- A success is no fault. -/
lemma faultless_ok (a : α) : Faultless (.ok a) := fun f h => by cases h

/-- An error is no fault. -/
lemma faultless_error (e : EngineError) : Faultless (.error (.error e) : Except Failure α) :=
  fun f h => by cases h

/-- If the first of two steps ends in no fault, the second one does it or none. -/
lemma bind_eq_fault {x : Except Failure α} {g : α → Except Failure β} {f : Fault}
    (hx : Faultless x) :
    (x >>= g) = .error (.fault f) ↔ ∃ a, x = .ok a ∧ g a = .error (.fault f) := by
  rcases x with (e | f') | a
  · simp [bind, Except.bind]
  · exact absurd rfl (hx f')
  · simp [bind, Except.bind]

/-- If the second of two steps ends in no fault, the first one does it or none. -/
lemma bind_eq_fault_left {x : Except Failure α} {g : α → Except Failure β} {f : Fault}
    (hg : ∀ a, Faultless (g a)) : (x >>= g) = .error (.fault f) ↔ x = .error (.fault f) := by
  rcases x with e | a
  · simp [bind, Except.bind]
  · exact iff_of_false (hg a f) (by simp)

/-- Two steps without faults end in no fault. -/
lemma Faultless.bind {x : Except Failure α} {g : α → Except Failure β} (hx : Faultless x)
    (hg : ∀ a, Faultless (g a)) : Faultless (x >>= g) :=
  fun f h => hx f ((bind_eq_fault_left hg).mp h)

/-- A result that is changed ends in the fault of the computation before. -/
lemma map_eq_fault {x : Except Failure α} {g : α → β} {f : Fault} :
    x.map g = .error (.fault f) ↔ x = .error (.fault f) := by
  cases x <;> simp [Except.map]

/-- Changing a result brings in no fault. -/
lemma Faultless.map {x : Except Failure α} (hx : Faultless x) (g : α → β) : Faultless (x.map g) :=
  fun f h => hx f (map_eq_fault.mp h)

/-- Steps without faults, one for each item of a list, end in no fault. -/
lemma faultless_mapM {g : α → Except Failure β} (hg : ∀ a, Faultless (g a)) (l : List α) :
    Faultless (l.mapM g) := by
  induction l with
  | nil => exact faultless_ok []
  | cons a l ih =>
    rw [List.mapM_cons]
    exact (hg a).bind fun b => ih.bind fun bs => faultless_ok (b :: bs)

end Faultless

/-! ## Tables -/

namespace Schema

/-- A label that is missing is an error. -/
lemma faultless_require (s : Schema) (labels : List Value) : Faultless (s.require labels) := by
  rw [require]
  split
  · exact faultless_error _
  · exact faultless_ok ()

/-- A value that is missing is an error. -/
lemma faultless_checkPresence (s : Schema) (row : Row) : Faultless (s.checkPresence row) := by
  rw [checkPresence]
  split
  · exact faultless_error _
  · exact faultless_ok ()

/-- The rules for columns that are named by texts end in no fault. -/
lemma faultless_checkColumns (table : String) (columns : List Column)
    (h : ∀ c ∈ columns, ∃ name, c.label = .text name) :
    ∀ seen, Faultless (checkColumns table seen columns) := by
  induction columns with
  | nil => exact fun _ => faultless_ok ()
  | cons c columns ih =>
    intro seen
    obtain ⟨name, hname⟩ := h c (by simp)
    have hkey : c.label.unhashable? = none := by rw [hname]; rfl
    rw [checkColumns, hkey]
    dsimp only
    split
    · exact faultless_error _
    · split
      · exact ih (fun d hd => h d (by simp [hd])) _
      · exact faultless_error _

/-- The rules of a schema whose columns are named by texts end in no fault. -/
lemma faultless_check {s : Schema} (h : ∀ c ∈ s.columns, ∃ name, c.label = .text name) :
    Faultless s.check := by
  have hcolumns := faultless_checkColumns s.name s.columns h []
  rw [check]
  split
  · exact faultless_error _
  · split
    · rename_i e he
      exact fun f hf => hcolumns f (he.trans hf)
    · split
      · exact faultless_error _
      · exact faultless_ok ()

end Schema

namespace Store

/-- A table that is missing is an error. -/
lemma faultless_get (s : Store) (name : String) : Faultless (s.get name) := by
  rw [get]
  split
  · exact faultless_ok _
  · exact faultless_error _

/-- A table whose columns are named by texts is created without a fault. -/
lemma faultless_create (s : Store) (schema : Schema)
    (h : ∀ c ∈ schema.columns, ∃ name, c.label = .text name) : Faultless (s.create schema) := by
  have hcheck := Schema.faultless_check h
  rw [create]
  split
  · exact faultless_error _
  · split
    · rename_i e he
      exact fun f hf => hcheck f (he.trans (congrArg Except.error (Except.error.inj hf)))
    · exact faultless_ok _

/-- A table is dropped without a fault. -/
lemma faultless_drop (s : Store) (name : String) : Faultless (s.drop name) := by
  have hget := s.faultless_get name
  rw [drop]
  split
  · rename_i e he
    exact fun f hf => hget f (he.trans (congrArg Except.error (Except.error.inj hf)))
  · exact faultless_ok _

/-- The rows of a table are changed without a fault. -/
lemma faultless_update (s : Store) (name : String) (changes : Row) (condition : Option Predicate) :
    Faultless (s.update name changes condition) := by
  have hrow : ∀ (schema : Schema) (row : Row),
      Faultless (Table.updateRow schema changes condition row) := by
    intro schema row
    rw [Table.updateRow]
    split
    · exact (schema.faultless_checkPresence _).map _
    · exact faultless_ok row
  refine (s.faultless_get name).bind fun t => Faultless.bind ?_ fun _ => faultless_ok _
  exact (faultless_mapM (hrow t.schema) t.rows).bind fun _ => faultless_ok _

/-- Rows of a table are left out without a fault. -/
lemma faultless_delete (s : Store) (name : String) (condition : Option Predicate) :
    Faultless (s.delete name condition) :=
  (s.faultless_get name).bind fun _ => faultless_ok _

end Store

/-- A change that is made as a whole or not at all ends in the fault of the change. -/
lemma Effect.ofChange_eq_fault {before : Store} {change : Except Failure (Store × String)}
    {f : Fault} : (ofChange before change).result = .error (.fault f) ↔
      change = .error (.fault f) := by
  rcases change with e | ⟨after, message⟩ <;> simp [ofChange]

variable {store : Store}

/-- **A `CREATE TABLE` ends in no fault** if its columns are named by texts. -/
lemma CreateTable.faultless_execute {s : CreateTable}
    (h : ∀ c ∈ s.columns, ∃ name, c.label = .text name) : Faultless (s.execute store).result := by
  rw [execute]
  split
  · exact faultless_ok _
  · intro f hf
    exact (store.faultless_create ⟨s.table, s.columns⟩ h).map _ f (Effect.ofChange_eq_fault.mp hf)

/-- **A `DROP TABLE` ends in no fault.** -/
lemma DropTable.faultless_execute (s : DropTable) : Faultless (s.execute store).result := by
  rw [execute]
  split
  · exact faultless_ok _
  · exact fun f hf => (store.faultless_drop s.table).map _ f (Effect.ofChange_eq_fault.mp hf)

/-- **An `UPDATE` ends in no fault.** -/
lemma Update.faultless_execute (s : Update) : Faultless (s.execute store).result := by
  have hchanges : ∀ schema, Faultless (checkChanges schema s.changes) := by
    intro schema
    rw [checkChanges]
    split
    · exact faultless_error _
    · exact faultless_ok ()
  intro f hf
  refine Faultless.bind (store.faultless_get s.table) (fun t => ?_) f
    (Effect.ofChange_eq_fault.mp hf)
  refine (t.schema.faultless_require _).bind fun _ => ?_
  refine (t.schema.faultless_require _).bind fun _ => ?_
  refine (hchanges t.schema).bind fun _ => ?_
  exact (store.faultless_update s.table s.changes s.condition).bind fun _ => faultless_ok _

/-- **A `DELETE` ends in no fault.** -/
lemma Delete.faultless_execute (s : Delete) : Faultless (s.execute store).result := by
  intro f hf
  refine Faultless.bind (store.faultless_get s.table) (fun t => ?_) f
    (Effect.ofChange_eq_fault.mp hf)
  refine (t.schema.faultless_require _).bind fun _ => ?_
  exact (store.faultless_delete s.table s.condition).bind fun _ => faultless_ok _

/-! ## Insertion -/

namespace Insert

variable {schema : Schema} {names : Option (List String)} {f : Fault}

/-- A column list that does not fit is an error. -/
lemma faultless_checkColumns (schema : Schema) (names : List String) :
    Faultless (checkColumns schema names) := by
  refine (schema.faultless_require _).bind fun _ => ?_
  split
  · exact faultless_ok ()
  · exact faultless_error _

/-- A row ends in a fault if its length is right and a label of the schema cannot be a key. -/
lemma rowFor_eq_fault {place : Option ℕ} {values : List Value} :
    rowFor schema names place values = .error (.fault f) ↔
      values.length = (targets schema names).length ∧
        ∃ kind, schema.labels.findSome? Value.unhashable? = some kind ∧ f = .unhashable kind := by
  rw [rowFor]
  by_cases hlen : values.length = (targets schema names).length
  · simp only [hlen, ne_eq, not_true_eq_false, ↓reduceIte, true_and]
    refine (bind_eq_fault_left fun complete =>
      (schema.faultless_checkPresence complete).bind fun _ => faultless_ok complete).trans ?_
    rw [Schema.complete]
    cases schema.labels.findSome? Value.unhashable? with
    | none => simp
    | some kind => simp [eq_comm]
  · simp [hlen, bind, Except.bind, throw_eq_error, Failure.statement]

/-- If all labels of the schema can be keys, no row of an `INSERT` ends in a fault. -/
lemma faultless_rowsFrom (hkeys : schema.labels.findSome? Value.unhashable? = none)
    (numbered : Bool) (lists : List (List Value)) :
    ∀ next, Faultless (rowsFrom schema names numbered next lists) := by
  have hrow : ∀ place values, Faultless (rowFor schema names place values) := by
    intro place values f hf
    obtain ⟨-, kind, hkind, -⟩ := rowFor_eq_fault.mp hf
    rw [hkeys] at hkind
    cases hkind
  induction lists with
  | nil => exact fun _ => faultless_ok []
  | cons values lists ih =>
    exact fun next => (hrow _ values).bind fun row => (ih (next + 1)).bind fun rows =>
      faultless_ok (row :: rows)

/-- Where a label of the schema cannot be a key, the first row of an `INSERT` decides how they
end: with the error of its length, or with the fault of the label. -/
lemma rowsFrom_eq_fault {numbered : Bool} {lists : List (List Value)} {next : ℕ} {kind : String}
    (hkind : schema.labels.findSome? Value.unhashable? = some kind) :
    rowsFrom schema names numbered next lists = .error (.fault f) ↔
      (∃ values rest, lists = values :: rest ∧ values.length = (targets schema names).length) ∧
        f = .unhashable kind := by
  cases lists with
  | nil => simp [rowsFrom]
  | cons values rest =>
    have hfirst : rowFor schema names (if numbered then some next else none) values =
        .error (.fault f) ↔ _ := rowFor_eq_fault
    rw [rowsFrom]
    cases hrow : rowFor schema names (if numbered then some next else none) values with
    | ok row =>
      have hnone := (Schema.complete_eq_ok (rowFor_eq_ok hrow).2.1).1
      rw [hkind] at hnone
      cases hnone
    | error e =>
      rw [hrow, Except.error.injEq] at hfirst
      simp only [bind, Except.bind, Except.error.injEq, hfirst]
      constructor
      · rintro ⟨hlen, kind', hkind', rfl⟩
        obtain rfl := Option.some.inj (hkind.symm.trans hkind')
        exact ⟨⟨values, rest, rfl, hlen⟩, rfl⟩
      · rintro ⟨⟨values', rest', hlists, hlen⟩, rfl⟩
        obtain ⟨rfl, rfl⟩ := List.cons.inj hlists
        exact ⟨hlen, kind, hkind, rfl⟩

/-- An `INSERT` comes to build its first row on a schema, and finds a label of a certain kind that
cannot be a key: its column list is right, and so is the length of its first row. -/
structure FailsOnLabel (s : Insert) (schema : Schema) (kind : String) : Prop where
  columns : ∀ names, s.columns = some names → checkColumns schema names = .ok ()
  first : ∃ values rest, s.rows = values :: rest ∧
    values.length = (targets schema s.columns).length
  label : schema.labels.findSome? Value.unhashable? = some kind

/-- The rows of an `INSERT` end in a fault if its column list is right and the first row does. -/
lemma rowsFor_eq_fault {s : Insert} : s.rowsFor schema = .error (.fault f) ↔
    ∃ kind, s.FailsOnLabel schema kind ∧ f = .unhashable kind := by
  have hchecks : s.rowsFor schema = .error (.fault f) ↔
      (∀ names, s.columns = some names → checkColumns schema names = .ok ()) ∧
        rowsFrom schema s.columns (1 < s.rows.length) 1 s.rows = .error (.fault f) := by
    rw [rowsFor]
    cases hcolumns : s.columns with
    | none => exact ⟨fun h => ⟨by simp, h⟩, fun h => h.2⟩
    | some names =>
      refine (bind_eq_fault (faultless_checkColumns schema names)).trans ?_
      constructor
      · rintro ⟨u, hcheck, hrows⟩
        exact ⟨fun names' h => Option.some.inj h ▸ hcheck, hrows⟩
      · rintro ⟨hcheck, hrows⟩
        exact ⟨(), hcheck names rfl, hrows⟩
  rw [hchecks]
  constructor
  · rintro ⟨hcolumns, hrows⟩
    cases hkeys : schema.labels.findSome? Value.unhashable? with
    | none => exact absurd hrows (faultless_rowsFrom hkeys _ _ _ f)
    | some kind =>
      obtain ⟨hfirst, rfl⟩ := (rowsFrom_eq_fault hkeys).mp hrows
      exact ⟨kind, ⟨hcolumns, hfirst, hkeys⟩, rfl⟩
  · rintro ⟨kind, h, rfl⟩
    exact ⟨h.columns, (rowsFrom_eq_fault h.label).mpr ⟨h.first, rfl⟩⟩

/-- Storing the rows that an `INSERT` has built ends in no fault. -/
lemma faultless_insertAll {name : String} {t : Table} (ht : store.find? name = some t)
    {rows : List Row} (hrows : ∀ row ∈ rows, t.schema.IsPrepared row) :
    Faultless (store.insertAll name rows).2 := by
  have hrequire := t.schema.faultless_require (t.schema.labels.foldl Row.addLabel [])
  cases hlabels : t.schema.require (t.schema.labels.foldl Row.addLabel []) with
  | ok u =>
    rw [Store.insertAll_prepared name rows store t ht hrows hlabels]
    exact faultless_ok ()
  | error e =>
    cases rows with
    | nil => exact faultless_ok ()
    | cons row rows =>
      rw [Store.insertAll, Store.insert_prepared ht (hrows row (by simp)), hlabels]
      rw [hlabels] at hrequire
      exact fun f hf => hrequire f (congrArg Except.error (Except.error.inj hf))

/-- **An `INSERT` ends in a fault** in one case: a label of its table cannot be a key. -/
theorem execute_eq_fault {s : Insert} : (s.execute store).result = .error (.fault f) ↔
    ∃ t kind, store.find? s.table = some t ∧ s.FailsOnLabel t.schema kind ∧
      f = .unhashable kind := by
  have hprepare : s.prepare store = .error (.fault f) ↔
      ∃ t kind, store.find? s.table = some t ∧ s.FailsOnLabel t.schema kind ∧
        f = .unhashable kind := by
    refine (bind_eq_fault (store.faultless_get s.table)).trans ?_
    simp only [Store.get_eq_ok, rowsFor_eq_fault, exists_and_left]
  rw [← hprepare, execute]
  cases hrows : s.prepare store with
  | error e => simp
  | ok rows =>
    obtain ⟨t, ht, hmade⟩ := prepare_eq_ok hrows
    refine iff_of_false ?_ (by simp)
    exact (faultless_insertAll ht (prepared_of_rowsFor hmade)).map _ f

end Insert

end StagedQuery
