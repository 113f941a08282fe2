import Mathlib.Data.List.Basic
import StagedQuery.Store.Basic

set_option relaxedAutoImplicit false
set_option autoImplicit false

/-!
# Tables in a store

How look-up by name and putting a table into a store go together.

## Main results

* `Store.find?_put_self`, `Store.find?_put_of_ne` — look-up after a table was put into a store.
* `Store.put_of_find?`, `Store.put_put` — a table put back, and two tables of one name put in turn.
* `Store.exists_place`, `Store.exists_tables_put` — the order of the tables stays when one of them
  is replaced.
* `Store.get_eq_ok` — what is known of a table that was looked up.
-/

namespace StagedQuery.Store

/-- A table that is found has the name that was asked for. -/
lemma name_of_find? {s : Store} {name : String} {t : Table} (h : s.find? name = some t) :
    t.schema.name = name := by
  have := List.find?_some h
  simpa using this

/-- A table that is found is in the store. -/
lemma mem_of_find? {s : Store} {name : String} {t : Table} (h : s.find? name = some t) :
    t ∈ s.tables := List.mem_of_find?_eq_some h

/-- Where no two tables have one name, every table is found under its name. -/
lemma find?_of_mem {s : Store} (h : s.names.Nodup) {t : Table} (ht : t ∈ s.tables) :
    s.find? t.schema.name = some t := by
  rw [names] at h
  rw [find?]
  generalize s.tables = tables at h ht
  induction tables with
  | nil => simp at ht
  | cons old tables ih =>
    rw [List.map_cons, List.nodup_cons] at h
    rw [List.find?_cons]
    rcases List.mem_cons.mp ht with rfl | ht
    · simp
    · have hne : old.schema.name ≠ t.schema.name := fun heq =>
        h.1 (heq ▸ List.mem_map_of_mem  ht)
      rw [beq_eq_false_iff_ne.mpr hne]
      exact ih h.2 ht

/-- Looking up a table succeeds if it is found. -/
lemma get_eq_ok {s : Store} {name : String} {t : Table} :
    s.get name = .ok t ↔ s.find? name = some t := by
  rw [get]
  cases s.find? name <;> simp

/-- A table is found at the front of the others, or among them. -/
lemma find?_tables_cons (old : Table) (tables : List Table) (name : String) :
    (old :: tables).find? (·.schema.name == name) =
      if old.schema.name = name then some old else tables.find? (·.schema.name == name) := by
  rw [List.find?_cons]
  by_cases h : old.schema.name = name
  · simp [h]
  · simp [h, beq_eq_false_iff_ne.mpr h]

/-- Look-up after a table is put among tables. -/
lemma find?_putTable (tables : List Table) (t : Table) (name : String) :
    (putTable tables t).find? (·.schema.name == name) =
      if t.schema.name = name then some t else tables.find? (·.schema.name == name) := by
  induction tables with
  | nil => rw [putTable, find?_tables_cons]
  | cons old tables ih =>
    rw [putTable]
    by_cases hold : old.schema.name = t.schema.name
    · rw [if_pos hold, find?_tables_cons, find?_tables_cons, hold]
      split <;> rfl
    · rw [if_neg hold, find?_tables_cons, find?_tables_cons, ih]
      by_cases h : t.schema.name = name
      · have hne : old.schema.name ≠ name := by rw [← h]; exact hold
        rw [if_neg hne, if_pos h, if_pos h]
      · rw [if_neg h, if_neg h]

/-- A table that was put into a store is found under its name. -/
lemma find?_put_self (s : Store) (t : Table) : (s.put t).find? t.schema.name = some t := by
  rw [find?, put, find?_putTable, if_pos rfl]

/-- A table put back into its store leaves the store. -/
lemma put_of_find? {s : Store} {name : String} {t : Table} (h : s.find? name = some t) :
    s.put t = s := by
  have hname := name_of_find? h
  suffices hput : putTable s.tables t = s.tables by rw [put, hput]
  rw [find?] at h
  generalize s.tables = tables at h
  induction tables with
  | nil => simp at h
  | cons old tables ih =>
    rw [find?_tables_cons] at h
    rw [putTable]
    by_cases hold : old.schema.name = name
    · rw [if_pos hold, Option.some.injEq] at h
      rw [if_pos (hold.trans hname.symm), h]
    · rw [if_neg hold] at h
      rw [if_neg (by rw [hname]; exact hold), ih h]

/-- Of two tables of one name that are put into a store, the second one stays. -/
lemma put_put (s : Store) {t u : Table} (h : t.schema.name = u.schema.name) :
    (s.put t).put u = s.put u := by
  suffices hput : putTable (putTable s.tables t) u = putTable s.tables u by
    rw [put, put, put, hput]
  generalize s.tables = tables
  induction tables with
  | nil => rw [putTable, putTable, putTable, if_pos h]
  | cons old tables ih =>
    by_cases hold : old.schema.name = t.schema.name
    · rw [putTable, if_pos hold, putTable, if_pos h, putTable, if_pos (hold.trans h)]
    · rw [putTable, if_neg hold, putTable, if_neg (by rw [← h]; exact hold), ih, putTable,
        if_neg (by rw [← h]; exact hold)]

/-- **The place of a table in a store**: a table of the same name that is put in comes into this
place, and leaves the tables before and behind it. -/
lemma exists_place {s : Store} {name : String} {t : Table} (h : s.find? name = some t) :
    ∃ before after, s.tables = before ++ t :: after ∧
      ∀ u : Table, u.schema.name = name → (s.put u).tables = before ++ u :: after := by
  rw [find?] at h
  show ∃ before after, s.tables = before ++ t :: after ∧
    ∀ u : Table, u.schema.name = name → putTable s.tables u = before ++ u :: after
  generalize s.tables = tables at h ⊢
  induction tables with
  | nil => simp at h
  | cons old tables ih =>
    rw [find?_tables_cons] at h
    by_cases hold : old.schema.name = name
    · rw [if_pos hold] at h
      rw [Option.some.inj h]
      refine ⟨[], tables, rfl, fun u hu => ?_⟩
      rw [putTable, if_pos (by rw [← Option.some.inj h, hold, hu])]
      rfl
    · rw [if_neg hold] at h
      obtain ⟨before, after, htables, hput⟩ := ih h
      refine ⟨old :: before, after, by rw [htables]; rfl, fun u hu => ?_⟩
      rw [putTable, if_neg (by rwa [hu]), hput u hu]
      rfl

/-- **A table put in the place of one of the same name** leaves the tables before and behind it. -/
lemma exists_tables_put {s : Store} {name : String} {t u : Table} (h : s.find? name = some t)
    (hname : u.schema.name = name) :
    ∃ before after, s.tables = before ++ t :: after ∧ (s.put u).tables = before ++ u :: after := by
  obtain ⟨before, after, htables, hput⟩ := exists_place h
  exact ⟨before, after, htables, hput u hname⟩

/-- The tables after one is put in: those before, or the new one. -/
lemma mem_putTable {tables : List Table} {t u : Table} (h : u ∈ putTable tables t) :
    u = t ∨ u ∈ tables := by
  induction tables with
  | nil => exact .inl (by simpa [putTable] using h)
  | cons old tables ih =>
    rw [putTable] at h
    split at h
    · rcases List.mem_cons.mp h with rfl | h
      · exact .inl rfl
      · exact .inr (by simp [h])
    · rcases List.mem_cons.mp h with rfl | h
      · exact .inr (by simp)
      · exact (ih h).imp id fun h => by simp [h]

/-- Putting a table in the place of one of the same name leaves the names. -/
lemma names_putTable_of_mem {tables : List Table} {t : Table}
    (h : t.schema.name ∈ tables.map (·.schema.name)) :
    (putTable tables t).map (·.schema.name) = tables.map (·.schema.name) := by
  induction tables with
  | nil => simp at h
  | cons old tables ih =>
    rw [putTable]
    by_cases hold : old.schema.name = t.schema.name
    · rw [if_pos hold, List.map_cons, List.map_cons, hold]
    · rw [if_neg hold, List.map_cons, List.map_cons, ih]
      rw [List.map_cons, List.mem_cons] at h
      exact h.resolve_left fun h => hold h.symm

/-- A table with a new name is put at the end. -/
lemma putTable_of_not_mem {tables : List Table} {t : Table}
    (h : t.schema.name ∉ tables.map (·.schema.name)) : putTable tables t = tables ++ [t] := by
  induction tables with
  | nil => rfl
  | cons old tables ih =>
    rw [List.map_cons, List.mem_cons, not_or] at h
    rw [putTable, if_neg (Ne.symm h.1), ih h.2, List.cons_append]

end StagedQuery.Store
