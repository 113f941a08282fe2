import StagedQuery.Proofs.Store.Insertion

set_option relaxedAutoImplicit false
set_option autoImplicit false

/-!
# What statements do to a store

Each statement that defines or changes tables fails and leaves the store, or makes one change. For
each of them this file says which change that is, under which conditions it is made, and with which
message.

## Main definitions

* `Statement.storeAfter` — the store that a statement leaves.
* `Statement.table?` — the table that a statement names.

## Main results

* `CreateTable.execute_ok`, `DropTable.execute_ok`, `Update.execute_ok`, `Delete.execute_ok` — the
  store and the message of a statement that succeeds; `Insert.execute_ok` is the one for `INSERT`.
* `CreateTable.execute_error`, `DropTable.execute_error`, `Update.execute_error`,
  `Delete.execute_error` — a statement that fails leaves the store.
* `Statement.storeAfter_cases` — what any statement can do to a store.
* `Statement.schema_storeAfter` — the schemas of a store are old ones, or that of a new table.
-/

namespace StagedQuery

/-! ## Changes that are made as a whole -/

namespace Effect

variable {before : Store} {change : Except Failure (Store × String)}

/-- A change that is made as a whole or not at all leaves the store if it fails. -/
lemma store_ofChange_error {e : Failure} (h : (ofChange before change).result = .error e) :
    (ofChange before change).store = before := by
  rcases change with e' | ⟨after, message⟩
  · rfl
  · simp [ofChange] at h

/-- A change that is made as a whole gives the store and the message of the effect. -/
lemma ofChange_ok {message : String} (h : (ofChange before change).result = .ok message) :
    change = .ok ((ofChange before change).store, message) := by
  rcases change with e | ⟨after, message'⟩
  · simp [ofChange] at h
  · obtain rfl := Except.ok.inj h
    rfl

/-- A change that may be skipped leaves the store if it fails. -/
lemma store_unless_error {skip : Bool} {note : String} {e : Failure}
    (h : (if skip then ⟨before, .ok note⟩ else ofChange before change : Effect).result =
      .error e) :
    (if skip then ⟨before, .ok note⟩ else ofChange before change : Effect).store = before := by
  cases skip with
  | true => rfl
  | false => exact store_ofChange_error h

end Effect

variable {store : Store} {message : String} {e : Failure}

/-! ## Definition of tables -/

/-- A `CREATE TABLE` that fails leaves the store. -/
lemma CreateTable.execute_error {s : CreateTable} (h : (s.execute store).result = .error e) :
    (s.execute store).store = store := by
  rw [execute] at h ⊢
  exact Effect.store_unless_error h

/-- **A `CREATE TABLE` that succeeds** puts a new table without rows into the store, or does nothing
because there is one and it may be skipped. -/
lemma CreateTable.execute_ok {s : CreateTable} (h : (s.execute store).result = .ok message) :
    (store.has s.table = true ∧ s.ifNotExists = true ∧ (s.execute store).store = store ∧
      message = "Table '" ++ s.table ++ "' already exists (skipped)") ∨
    (store.has s.table = false ∧ (⟨s.table, s.columns⟩ : Schema).check = .ok () ∧
      (s.execute store).store = store.put ⟨⟨s.table, s.columns⟩, []⟩ ∧
      message = "Table '" ++ s.table ++ "' created") := by
  rw [execute] at h ⊢
  split at h
  · rename_i hskip
    rw [if_pos hskip]
    rw [Bool.and_eq_true] at hskip
    exact .inl ⟨hskip.1, hskip.2, rfl, (Except.ok.inj h).symm⟩
  · rename_i hskip
    rw [if_neg hskip]
    obtain ⟨after, hcreate, hpair⟩ := map_eq_ok.mp (Effect.ofChange_ok h)
    obtain ⟨hstore, rfl⟩ := Prod.mk.inj hpair
    rw [Store.create] at hcreate
    split at hcreate
    · simp at hcreate
    · rename_i hhas
      split at hcreate
      · simp at hcreate
      · rename_i hcheck
        rw [← hstore, ← Except.ok.inj hcreate]
        exact .inr ⟨by simpa using hhas, hcheck, rfl, rfl⟩

/-- A `DROP TABLE` that fails leaves the store. -/
lemma DropTable.execute_error {s : DropTable} (h : (s.execute store).result = .error e) :
    (s.execute store).store = store := by
  rw [execute] at h ⊢
  exact Effect.store_unless_error h

/-- **A `DROP TABLE` that succeeds** leaves out the table, or does nothing because there is none and
that may be skipped. -/
lemma DropTable.execute_ok {s : DropTable} (h : (s.execute store).result = .ok message) :
    (store.has s.table = false ∧ s.ifExists = true ∧ (s.execute store).store = store ∧
      message = "Table '" ++ s.table ++ "' does not exist (skipped)") ∨
    (store.has s.table = true ∧
      (s.execute store).store = ⟨store.tables.filter (·.schema.name != s.table)⟩ ∧
      message = "Table '" ++ s.table ++ "' dropped") := by
  rw [execute] at h ⊢
  split at h
  · rename_i hskip
    rw [if_pos hskip]
    rw [Bool.and_eq_true, Bool.not_eq_true'] at hskip
    exact .inl ⟨hskip.1, hskip.2, rfl, (Except.ok.inj h).symm⟩
  · rename_i hskip
    rw [if_neg hskip]
    obtain ⟨after, hdrop, hpair⟩ := map_eq_ok.mp (Effect.ofChange_ok h)
    obtain ⟨hstore, rfl⟩ := Prod.mk.inj hpair
    rw [Store.drop] at hdrop
    split at hdrop
    · simp at hdrop
    · rename_i t hget
      rw [← hstore, ← Except.ok.inj hdrop]
      exact .inr ⟨by rw [Store.has, Store.get_eq_ok.mp hget]; rfl, rfl, rfl⟩

/-! ## Changes of rows -/

/-- An `UPDATE` that fails leaves the store. -/
lemma Update.execute_error {s : Update} (h : (s.execute store).result = .error e) :
    (s.execute store).store = store := Effect.store_ofChange_error h

/-- **An `UPDATE` that succeeds** puts the changed rows in the place of the rows of its table. -/
lemma Update.execute_ok {s : Update} (h : (s.execute store).result = .ok message) :
    ∃ t rows, store.find? s.table = some t ∧
      t.schema.require (s.changes.map (·.1)) = .ok () ∧
      t.schema.require ((Predicate.namedColumns s.condition).map .text) = .ok () ∧
      checkChanges t.schema s.changes = .ok () ∧
      t.rows.mapM (Table.updateRow t.schema s.changes s.condition) = .ok rows ∧
      (s.execute store).store = store.put ⟨t.schema, rows⟩ ∧
      message = changeMessage (t.rows.countP (Table.meets s.condition)) "updated" none := by
  obtain ⟨t, ht, hrest⟩ := bind_eq_ok.mp (Effect.ofChange_ok h)
  obtain ⟨_, hrequire, hrest⟩ := bind_eq_ok.mp hrest
  obtain ⟨_, hnamed, hrest⟩ := bind_eq_ok.mp hrest
  obtain ⟨_, hchanges, hrest⟩ := bind_eq_ok.mp hrest
  obtain ⟨⟨after, count⟩, hupdate, hpair⟩ := bind_eq_ok.mp hrest
  obtain ⟨hstore, rfl⟩ := Prod.mk.inj (Except.ok.inj hpair)
  obtain ⟨t', ht', hrest⟩ := bind_eq_ok.mp hupdate
  obtain ⟨⟨made, count'⟩, hmade, hput⟩ := bind_eq_ok.mp hrest
  obtain ⟨rows, hrows, hpair⟩ := bind_eq_ok.mp hmade
  obtain rfl : t = t' := Except.ok.inj (ht.symm.trans ht')
  obtain ⟨rfl, rfl⟩ := Prod.mk.inj (Except.ok.inj hpair)
  obtain ⟨rfl, rfl⟩ := Prod.mk.inj (Except.ok.inj hput)
  exact ⟨t, rows, Store.get_eq_ok.mp ht, hrequire, hnamed, hchanges, hrows, hstore.symm, rfl⟩

/-- A `DELETE` that fails leaves the store. -/
lemma Delete.execute_error {s : Delete} (h : (s.execute store).result = .error e) :
    (s.execute store).store = store := Effect.store_ofChange_error h

/-- **A `DELETE` that succeeds** leaves out the rows of its table that meet the condition. -/
lemma Delete.execute_ok {s : Delete} (h : (s.execute store).result = .ok message) :
    ∃ t, store.find? s.table = some t ∧
      t.schema.require ((Predicate.namedColumns s.condition).map .text) = .ok () ∧
      (s.execute store).store =
        store.put ⟨t.schema, t.rows.filter (!Table.meets s.condition ·)⟩ ∧
      message = changeMessage (t.rows.countP (Table.meets s.condition)) "deleted" none := by
  obtain ⟨t, ht, hrest⟩ := bind_eq_ok.mp (Effect.ofChange_ok h)
  obtain ⟨_, hnamed, hrest⟩ := bind_eq_ok.mp hrest
  obtain ⟨⟨after, count⟩, hdelete, hpair⟩ := bind_eq_ok.mp hrest
  obtain ⟨hstore, rfl⟩ := Prod.mk.inj (Except.ok.inj hpair)
  obtain ⟨t', ht', hput⟩ := bind_eq_ok.mp hdelete
  obtain rfl : t = t' := Except.ok.inj (ht.symm.trans ht')
  obtain ⟨rfl, rfl⟩ := Prod.mk.inj (Except.ok.inj hput)
  exact ⟨t, Store.get_eq_ok.mp ht, hnamed, hstore.symm, rfl⟩

/-! ## Any statement -/

namespace Statement

/-- The store that a statement leaves, unless it loads another one. -/
def storeAfter (s : Statement) (store : Store) : Store :=
  match s with
  | .createTable s => (s.execute store).store
  | .dropTable s => (s.execute store).store
  | .insert s => (s.execute store).store
  | .update s => (s.execute store).store
  | .delete s => (s.execute store).store
  | .select _ | .save _ | .load _ => store

/-- The table that a statement names; one on a file names none. -/
def table? : Statement → Option String
  | .createTable s => some s.table
  | .dropTable s => some s.table
  | .insert s => some s.table
  | .select s => some s.table
  | .update s => some s.table
  | .delete s => some s.table
  | .save _ | .load _ => none

/-- **What a statement can do to a store**: nothing, put a new table into it, leave its table out,
or put other rows into its table. -/
theorem storeAfter_cases (s : Statement) (store : Store) :
    s.storeAfter store = store ∨
    (∃ c : CreateTable, s = .createTable c ∧ store.has c.table = false ∧
      (⟨c.table, c.columns⟩ : Schema).check = .ok () ∧
      s.storeAfter store = store.put ⟨⟨c.table, c.columns⟩, []⟩) ∨
    (∃ d : DropTable, s = .dropTable d ∧
      s.storeAfter store = ⟨store.tables.filter (·.schema.name != d.table)⟩) ∨
    ∃ t rows, s.table? = some t.schema.name ∧ store.find? t.schema.name = some t ∧
      s.storeAfter store = store.put ⟨t.schema, rows⟩ := by
  have hnamed : ∀ {name t}, store.find? name = some t →
      name = t.schema.name ∧ store.find? t.schema.name = some t := by
    intro name t ht
    rw [Store.name_of_find? ht]
    exact ⟨rfl, ht⟩
  cases s with
  | createTable s =>
    cases hresult : (s.execute store).result with
    | error e => exact .inl (CreateTable.execute_error hresult)
    | ok message =>
      rcases CreateTable.execute_ok hresult with ⟨-, -, hstore, -⟩ | ⟨hhas, hcheck, hstore, -⟩
      · exact .inl hstore
      · exact .inr (.inl ⟨s, rfl, hhas, hcheck, hstore⟩)
  | dropTable s =>
    cases hresult : (s.execute store).result with
    | error e => exact .inl (DropTable.execute_error hresult)
    | ok message =>
      rcases DropTable.execute_ok hresult with ⟨-, -, hstore, -⟩ | ⟨-, hstore, -⟩
      · exact .inl hstore
      · exact .inr (.inr (.inl ⟨s, rfl, hstore⟩))
  | insert s =>
    cases hresult : (s.execute store).result with
    | error e => exact .inl (Insert.execute_error hresult)
    | ok message =>
      obtain ⟨t, rows, ht, -, -, hstore⟩ := Insert.execute_ok hresult
      obtain ⟨hname, hfind⟩ := hnamed ht
      exact .inr (.inr (.inr ⟨t, _, congrArg some hname, hfind, hstore⟩))
  | update s =>
    cases hresult : (s.execute store).result with
    | error e => exact .inl (Update.execute_error hresult)
    | ok message =>
      obtain ⟨t, rows, ht, -, -, -, -, hstore, -⟩ := Update.execute_ok hresult
      obtain ⟨hname, hfind⟩ := hnamed ht
      exact .inr (.inr (.inr ⟨t, _, congrArg some hname, hfind, hstore⟩))
  | delete s =>
    cases hresult : (s.execute store).result with
    | error e => exact .inl (Delete.execute_error hresult)
    | ok message =>
      obtain ⟨t, ht, -, hstore, -⟩ := Delete.execute_ok hresult
      obtain ⟨hname, hfind⟩ := hnamed ht
      exact .inr (.inr (.inr ⟨t, _, congrArg some hname, hfind, hstore⟩))
  | select | save | load => exact .inl rfl

/-- **The schemas after a statement** are those before it, and that of the table that it creates. -/
theorem schema_storeAfter {s : Statement} {u : Table} (hu : u ∈ (s.storeAfter store).tables) :
    (∃ old ∈ store.tables, old.schema = u.schema) ∨
      ∃ c, s = .createTable c ∧ u.schema = ⟨c.table, c.columns⟩ := by
  rcases s.storeAfter_cases store with hstore | ⟨c, rfl, -, -, hstore⟩ |
    ⟨d, rfl, hstore⟩ | ⟨t, rows, -, ht, hstore⟩ <;> rw [hstore] at hu
  · exact .inl ⟨u, hu, rfl⟩
  · rcases Store.mem_putTable hu with rfl | hu
    · exact .inr ⟨c, rfl, rfl⟩
    · exact .inl ⟨u, hu, rfl⟩
  · exact .inl ⟨u, (List.mem_filter.mp hu).1, rfl⟩
  · rcases Store.mem_putTable hu with rfl | hu
    · exact .inl ⟨t, Store.mem_of_find? ht, rfl⟩
    · exact .inl ⟨u, hu, rfl⟩

end Statement

end StagedQuery
