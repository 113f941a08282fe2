import StagedQuery.Proofs.Store.Locality
import StagedQuery.Proofs.Store.Matching

set_option relaxedAutoImplicit false
set_option autoImplicit false

/-!
# Repeated changes of rows

An `UPDATE` may assign to the columns that its own condition tests. Executed a second time, it can
meet other rows than the first time, and among them rows that it has just rewritten. This does no
harm on any store, well-formed or not. A row that was rewritten has the assigned values already and
has passed its check with them, so it stays as it is whether or not it is met again. A row that was
not met is the same row, so it is not met by the second execution either.

## Main definitions

* `Effect.RepeatedBy` — a second effect that leaves what a first one has left.

## Main results

* `Row.override_override` — values put into a row twice.
* `Table.updateRow_again`, `Table.update_again`, `Table.delete_again` — one row and one table.
* `Effect.RepeatedBy.ofTable` — a change of a table that leaves the table that it has made.
* `Update.repeatedBy`, `Delete.repeatedBy` — the statements, on every store.
-/

namespace StagedQuery

/-! ## Rows -/

namespace Row

/-- The value at a label, put at it again, leaves the row. -/
lemma put_of_find? {row : Row} {label value : Value} (h : row.find? label = some value) :
    row.put label value = row := by
  induction row with
  | nil => simp [find?] at h
  | cons entry row ih =>
    obtain ⟨key, old⟩ := entry
    rw [find?_cons] at h
    rw [put]
    split at h
    · rename_i hkey
      rw [if_pos hkey, ← Option.some.inj h]
    · rename_i hkey
      rw [if_neg hkey, ih h]

/-- Values that a row has already leave it when they are put into it. -/
lemma override_of_find? {row changes : Row} (h : ∀ c ∈ changes, row.find? c.1 = some c.2) :
    row.override changes = row := by
  induction changes with
  | nil => rfl
  | cons c changes ih =>
    rw [override, List.foldl_cons, put_of_find? (h c (by simp))]
    exact ih fun d hd => h d (by simp [hd])

/-- **Values put into a row twice** leave what they have left the first time. -/
lemma override_override {changes : Row} (hdistinct : Distinct (changes.map Prod.fst))
    (hkeys : ∀ c ∈ changes, c.1.unhashable? = none) (row : Row) :
    (row.override changes).override changes = row.override changes := by
  refine override_of_find? fun c hc => ?_
  rw [find?_override hdistinct, find?_of_mem hdistinct hc (hkeys c hc)]
  rfl

end Row

/-- The changes of an `UPDATE` leave a row that they were made to. -/
lemma Update.override_changes_again (s : Update) (row : Row) :
    (row.override s.changes).override s.changes = row.override s.changes := by
  refine Row.override_override (Row.distinct_ofPairs _) (fun c hc => ?_) row
  obtain ⟨a, -, hlabel⟩ := exists_of_mem_changes hc
  rw [hlabel]
  rfl

/-! ## Tables -/

/-- A step for each item that leaves what it has made leaves the list that it has made. -/
lemma mapM_again {ε α : Type} {f : α → Except ε α} (hf : ∀ a b, f a = .ok b → f b = .ok b)
    {l l' : List α} (h : l.mapM f = .ok l') : l'.mapM f = .ok l' := by
  rw [mapM_eq_ok] at h ⊢
  rw [List.forall₂_same]
  intro b hb
  obtain ⟨a, -, hab⟩ := exists_mem_of_forall₂ h.flip hb
  exact hf a b hab

namespace Table

variable {s : Schema} {t after : Table} {changes row : Row} {condition : Option Predicate}
  {count : ℕ}

/-- **A row that was updated** is left by the same update. -/
lemma updateRow_again
    (hchanges : ∀ r : Row, (r.override changes).override changes = r.override changes)
    {result : Row} (h : updateRow s changes condition row = .ok result) :
    updateRow s changes condition result = .ok result := by
  rw [updateRow] at h
  split at h
  · -- the row was met, and it has passed its check with the values that it has now
    obtain ⟨u, hcheck, rfl⟩ := map_eq_ok.mp h
    rw [updateRow, hchanges, hcheck]
    split <;> rfl
  · rename_i hmeets
    obtain rfl := Except.ok.inj h
    rw [updateRow, if_neg hmeets]

/-- **A table that was updated** is left by the same update. -/
lemma update_again
    (hchanges : ∀ r : Row, (r.override changes).override changes = r.override changes)
    (h : t.update changes condition = .ok (after, count)) :
    after.schema = t.schema ∧
      after.update changes condition = .ok (after, after.rows.countP (meets condition)) := by
  obtain ⟨rows, hrows, hpair⟩ := bind_eq_ok.mp h
  obtain ⟨rfl, -⟩ := Prod.mk.inj (Except.ok.inj hpair)
  refine ⟨rfl, ?_⟩
  rw [update, mapM_again (fun _ _ => updateRow_again hchanges) hrows]
  rfl

/-- **A table from which rows were left out** has no more of them. -/
lemma delete_again (t : Table) (condition : Option Predicate) :
    (t.delete condition).1.delete condition = ((t.delete condition).1, 0) := by
  have hkept : ∀ r ∈ t.rows.filter (!meets condition ·), ¬ meets condition r = true := by
    intro r hr
    simpa using (List.mem_filter.mp hr).2
  have hrows : (t.rows.filter (!meets condition ·)).filter (!meets condition ·) =
      t.rows.filter (!meets condition ·) := by
    rw [List.filter_filter]
    simp only [Bool.and_self]
  rw [delete, delete]
  dsimp only
  rw [hrows, List.countP_eq_zero.mpr hkept]

end Table

/-! ## Effects -/

/-- A second effect leaves what the first one has left: its store is that of the first, it fails as
the first does, and after a first one that succeeds it succeeds with a message of some kind. -/
structure Effect.RepeatedBy (again : String → Prop) (first second : Effect) : Prop where
  store : second.store = first.store
  failure : ∀ e, first.result = .error e → second.result = .error e
  success : ∀ message, first.result = .ok message →
    ∃ message', second.result = .ok message' ∧ again message'

/-- **A change of a table that leaves the table that it has made** can be repeated in every store.
If there is no such table, or the change fails, the second effect finds what the first has found. -/
lemma Effect.RepeatedBy.ofTable {again : String → Prop}
    {change : Table → Except Failure (Table × String)}
    (h : ∀ t after message, change t = .ok (after, message) →
      after.schema = t.schema ∧ ∃ message', change after = .ok (after, message') ∧ again message')
    (store : Store) (name : String) :
    RepeatedBy again (.ofTable store name change)
      (.ofTable (Effect.ofTable store name change).store name change) := by
  have hfailed : ∀ e, Effect.ofTable store name change = ⟨store, .error e⟩ →
      RepeatedBy again (.ofTable store name change)
        (.ofTable (Effect.ofTable store name change).store name change) := by
    intro e he
    rw [he]
    dsimp only
    rw [he]
    exact ⟨rfl, fun _ => id, fun _ hmessage => absurd hmessage (by simp)⟩
  cases hget : store.get name with
  | error e => exact hfailed e (by rw [Effect.ofTable, hget]; rfl)
  | ok t =>
    cases hchange : change t with
    | error e =>
      refine hfailed e ?_
      rw [Effect.ofTable, hget]
      simp only [Except.bind, hchange]
      rfl
    | ok made =>
      obtain ⟨after, message⟩ := made
      obtain ⟨hschema, message', hagain, hmessage⟩ := h t after message hchange
      have hname : after.schema.name = name := by
        rw [hschema, Store.name_of_find? (Store.get_eq_ok.mp hget)]
      have hfirst : Effect.ofTable store name change = ⟨store.put after, .ok message⟩ := by
        rw [Effect.ofTable, hget]
        simp only [Except.bind, hchange]
        rfl
      have hfind : (store.put after).get name = .ok after := by
        rw [Store.get_eq_ok, ← hname, Store.find?_put_self]
      have hsecond : Effect.ofTable (store.put after) name change =
          ⟨store.put after, .ok message'⟩ := by
        rw [Effect.ofTable, hfind]
        simp only [Except.bind, hagain]
        exact congrArg (Effect.mk · (.ok message')) (Store.put_put store rfl)
      rw [hfirst]
      dsimp only
      rw [hsecond]
      exact ⟨rfl, fun _ herror => absurd herror (by simp), fun _ _ => ⟨message', rfl, hmessage⟩⟩

/-! ## Statements -/

/-- **An `UPDATE` can be repeated** on every store. If it succeeded, the second one succeeds with
the number of the rows that meet its condition now. -/
theorem Update.repeatedBy (s : Update) (store : Store) :
    (s.execute store).RepeatedBy (fun message => ∃ n : ℕ, message = changeMessage n "updated" none)
      (s.execute (s.execute store).store) := by
  rw [execute_eq, execute_eq]
  refine .ofTable (fun t after message h => ?_) store s.table
  obtain ⟨_, hrequire, h⟩ := bind_eq_ok.mp h
  obtain ⟨_, hnamed, h⟩ := bind_eq_ok.mp h
  obtain ⟨_, hchanges, h⟩ := bind_eq_ok.mp h
  obtain ⟨⟨made, count⟩, hmade, hpair⟩ := bind_eq_ok.mp h
  obtain ⟨rfl, -⟩ := Prod.mk.inj (Except.ok.inj hpair)
  obtain ⟨hschema, hagain⟩ := Table.update_again s.override_changes_again hmade
  refine ⟨hschema, changeMessage (made.rows.countP (Table.meets s.condition)) "updated" none, ?_,
    _, rfl⟩
  rw [change, hschema, hrequire, hnamed, hchanges, hagain]
  rfl

/-- **A `DELETE` can be repeated** on every store. If it succeeded, the second one finds no rows. -/
theorem Delete.repeatedBy (s : Delete) (store : Store) :
    (s.execute store).RepeatedBy (· = changeMessage 0 "deleted" none)
      (s.execute (s.execute store).store) := by
  rw [execute_eq, execute_eq]
  refine .ofTable (fun t after message h => ?_) store s.table
  obtain ⟨_, hnamed, h⟩ := bind_eq_ok.mp h
  have hafter : (t.delete s.condition).1 = after := (Prod.mk.inj (Except.ok.inj h)).1
  have hagain := t.delete_again s.condition
  rw [hafter] at hagain
  have hschema : after.schema = t.schema := by rw [← hafter]; rfl
  refine ⟨hschema, _, ?_, rfl⟩
  rw [change, hschema, hnamed, hagain]
  rfl

end StagedQuery
