import StagedQuery.Proofs.Query.Lookups
import StagedQuery.Proofs.Store.Locality

set_option relaxedAutoImplicit false
set_option autoImplicit false

/-!
# The look-ups of `UPDATE` and `DELETE`

An `UPDATE` looks up the columns of its condition in every row, and the columns that require a value
in every row that it has changed. A `DELETE` looks up the columns of its condition. This file
repeats both with the look-up as a parameter, as it is done for a `SELECT`.

## Main definitions

* `LookUp.checkPresence`, `LookUp.updateRows`, `LookUp.update`, `LookUp.delete` — the steps of the
  changes with a look-up.
* `LookUp.executeUpdate`, `LookUp.executeDelete` — the statements with a look-up.
* `LookUp.Notices` — a look-up with which the steps fail where something is missing.
* `LookUp.Suffices` — a look-up that is all that the statements on a store need.

## Main results

* `LookUp.executeUpdate_lenient`, `LookUp.executeDelete_lenient` — with the fallback to `null` they
  are the statements, on all stores.
* `LookUp.executeUpdate_strict`, `LookUp.executeDelete_strict` — on well-formed stores they are the
  statements without it.
* `LookUp.strict_notices` — without the fallback the steps fail where something is missing.
* `LookUp.lenient_suffices`, `LookUp.strict_suffices` — so for all statements.
-/

namespace StagedQuery

/-- The checks of an `UPDATE` on the schema of its table. -/
def Update.check (s : Update) (schema : Schema) : Except Failure Unit := do
  schema.require (s.changes.map (·.1))
  schema.require ((Predicate.namedColumns s.condition).map .text)
  checkChanges schema s.changes

/-- The checks of a `DELETE` on the schema of its table. -/
def Delete.check (s : Delete) (schema : Schema) : Except Failure Unit :=
  schema.require ((Predicate.namedColumns s.condition).map .text)

namespace LookUp

/-! ## The statements with a look-up -/

section Steps

variable (look : LookUp)

/-- The first of some columns that requires a value and has none. The others are not looked up. -/
def firstMissing? (row : Row) : List Column → Option (Option Column)
  | [] => some none
  | c :: rest =>
    if c.presence.isRequired then do
      if (← look row c.label).isNull then return some c else firstMissing? row rest
    else firstMissing? row rest

/-- Every column that requires a value has one. -/
def checkPresence (s : Schema) (row : Row) : Option (Except Failure Unit) := do
  match ← look.firstMissing? row s.columns with
  | some c => return .error (.constraint (.missingValue c.label))
  | none => return .ok ()

/-- The rows with changes made to those that meet a condition, and the number of these. The rows
behind one that is refused are not looked at. -/
def updateRows (s : Schema) (changes : Row) (condition : Option Predicate) :
    List Row → Option (Except Failure (List Row × ℕ))
  | [] => some (.ok ([], 0))
  | row :: rest => do
    if ← look.meets condition row then
      match ← look.checkPresence s (row.override changes) with
      | .error e => return .error e
      | .ok () =>
        return (← updateRows s changes condition rest).map fun c =>
          (row.override changes :: c.1, c.2 + 1)
    else return (← updateRows s changes condition rest).map fun c => (row :: c.1, c.2)

/-- The change that an `UPDATE` makes of its table. -/
def update (s : Update) (t : Table) : Option (Except Failure (Table × String)) :=
  match s.check t.schema with
  | .error e => some (.error e)
  | .ok () => do
    return (← look.updateRows t.schema s.changes s.condition t.rows).map fun c =>
      (⟨t.schema, c.1⟩, changeMessage c.2 "updated" none)

/-- The change that a `DELETE` makes of its table. It counts the rows before and after. -/
def delete (s : Delete) (t : Table) : Option (Except Failure (Table × String)) :=
  match s.check t.schema with
  | .error e => some (.error e)
  | .ok () => do
    let kept ← look.filter false s.condition t.rows
    return .ok (⟨t.schema, kept⟩,
      changeMessage ((t.rows.length : ℤ) - (kept.length : ℤ)) "deleted" none)

/-- The effect of a change of one table that looks values up. -/
def effect (before : Store) (name : String)
    (change : Table → Option (Except Failure (Table × String))) : Option Effect :=
  match before.get name with
  | .error e => some ⟨before, .error e⟩
  | .ok t => do
    return .ofChange before ((← change t).map fun c => (before.put c.1, c.2))

/-- `UPDATE`. -/
def executeUpdate (s : Update) (store : Store) : Option Effect :=
  effect store s.table (look.update s)

/-- `DELETE`. -/
def executeDelete (s : Delete) (store : Store) : Option Effect :=
  effect store s.table (look.delete s)

end Steps

/-! ## Statements whose columns are found -/

section Found

variable {look : LookUp} {schema : Schema} {changes row : Row} {condition : Option Predicate}
  {rows : List Row} {store : Store}

/-- Every column that requires a value has one. -/
lemma checkPresence_eq (h : ∀ c ∈ schema.columns, look.Finds row c.label) :
    look.checkPresence schema row = some (schema.checkPresence row) := by
  have hfirst : ∀ columns : List Column, (∀ c ∈ columns, look.Finds row c.label) →
      look.firstMissing? row columns =
        some (columns.find? fun c => c.presence.isRequired && (row.get c.label).isNull) := by
    intro columns
    induction columns with
    | nil => exact fun _ => rfl
    | cons c columns ih =>
      intro hcolumns
      have hrest := ih fun d hd => hcolumns d (by simp [hd])
      rw [firstMissing?, hcolumns c (by simp), hrest, List.find?_cons]
      cases c.presence.isRequired with
      | false => rfl
      | true => cases hnull : (row.get c.label).isNull <;> simp [hnull]
  rw [checkPresence, hfirst schema.columns h, Schema.checkPresence]
  show (match schema.columns.find? _ with
    | some c => _
    | none => _) = _
  cases schema.columns.find? fun c => c.presence.isRequired && (row.get c.label).isNull <;> rfl

/-- The rows with changes made to those that meet a condition. -/
lemma updateRows_eq
    (hcondition : ∀ row ∈ rows, ∀ name ∈ Predicate.namedColumns condition,
      look.Finds row (.text name))
    (hcolumns : ∀ row ∈ rows, ∀ c ∈ schema.columns, look.Finds (row.override changes) c.label) :
    look.updateRows schema changes condition rows =
      some ((rows.mapM (Table.updateRow schema changes condition)).map fun changed =>
        (changed, rows.countP (Table.meets condition))) := by
  induction rows with
  | nil => rfl
  | cons row rows ih =>
    have hrest := ih (fun r hr => hcondition r (by simp [hr])) fun r hr => hcolumns r (by simp [hr])
    rw [updateRows, meets_eq (hcondition row (by simp)), hrest,
      checkPresence_eq (hcolumns row (by simp)), List.mapM_cons, List.countP_cons, Table.updateRow]
    cases Table.meets condition row with
    | false =>
      cases rows.mapM (Table.updateRow schema changes condition) <;> rfl
    | true =>
      cases schema.checkPresence (row.override changes) with
      | error e => rfl
      | ok u => cases rows.mapM (Table.updateRow schema changes condition) <;> rfl

/-- The effect of a change that finds what it looks up. -/
lemma effect_eq {name : String} {looked : Table → Option (Except Failure (Table × String))}
    {change : Table → Except Failure (Table × String)}
    (h : ∀ t, store.find? name = some t → looked t = some (change t)) :
    effect store name looked = some (.ofTable store name change) := by
  rw [effect, Effect.ofTable]
  cases hget : store.get name with
  | error e => rfl
  | ok t =>
    dsimp only
    rw [h t (Store.get_eq_ok.mp hget)]
    rfl

/-- **An `UPDATE` whose columns are found.** -/
lemma executeUpdate_eq {s : Update}
    (h : ∀ t, store.find? s.table = some t → s.check t.schema = .ok () → ∀ row ∈ t.rows,
      (∀ name ∈ Predicate.namedColumns s.condition, look.Finds row (.text name)) ∧
      ∀ c ∈ t.schema.columns, look.Finds (row.override s.changes) c.label) :
    look.executeUpdate s store = some (s.execute store) := by
  rw [executeUpdate, Update.execute_eq]
  refine effect_eq fun t ht => ?_
  have hchange : s.change t = s.check t.schema >>= fun _ =>
      (t.update s.changes s.condition).map fun c => (c.1, changeMessage c.2 "updated" none) := by
    rw [Update.change, Update.check, bind_assoc]
    refine congrArg _ (funext fun _ => ?_)
    rw [bind_assoc]
    refine congrArg _ (funext fun _ => congrArg _ (funext fun _ => ?_))
    cases t.update s.changes s.condition <;> rfl
  rw [update, hchange]
  cases hcheck : s.check t.schema with
  | error e => rfl
  | ok u =>
    dsimp only
    rw [updateRows_eq (fun row hrow => (h t ht hcheck row hrow).1)
      fun row hrow => (h t ht hcheck row hrow).2, Table.update]
    cases t.rows.mapM (Table.updateRow t.schema s.changes s.condition) <;> rfl

/-- **A `DELETE` whose columns are found.** -/
lemma executeDelete_eq {s : Delete}
    (h : ∀ t, store.find? s.table = some t → s.check t.schema = .ok () → ∀ row ∈ t.rows,
      ∀ name ∈ Predicate.namedColumns s.condition, look.Finds row (.text name)) :
    look.executeDelete s store = some (s.execute store) := by
  rw [executeDelete, Delete.execute_eq]
  refine effect_eq fun t ht => ?_
  rw [delete, Delete.change, Delete.check]
  cases hcheck : t.schema.require ((Predicate.namedColumns s.condition).map .text) with
  | error e => rfl
  | ok u =>
    dsimp only
    rw [filter_eq false fun row hrow => h t ht hcheck row hrow]
    simp only [beq_false]
    have hcount : (t.rows.length : ℤ) - ((t.rows.filter (!Table.meets s.condition ·)).length : ℤ) =
        (t.rows.countP (Table.meets s.condition) : ℤ) := by
      have hlength := List.length_eq_length_filter_add (l := t.rows) (Table.meets s.condition)
      rw [← List.countP_eq_length_filter] at hlength
      omega
    show some (Except.ok (_, changeMessage _ _ _)) = some (Except.ok (_, changeMessage _ _ _))
    rw [hcount]
    rfl

end Found

/-! ## Statements that fail -/

section Missing

variable {schema : Schema} {changes row : Row} {condition : Option Predicate} {rows : List Row}

/-- **A row is checked without the fallback**, and passes, exactly if it has values in all columns
that require one. -/
lemma strict_checkPresence_ok : strict.checkPresence schema row = some (.ok ()) ↔
    ∀ c ∈ schema.columns, c.presence.isRequired = true →
      ∃ v, row.find? c.label = some v ∧ v.isNull = false := by
  have hnone : ∀ columns : List Column, strict.firstMissing? row columns = some none ↔
      ∀ c ∈ columns, c.presence.isRequired = true →
        ∃ v, row.find? c.label = some v ∧ v.isNull = false := by
    intro columns
    induction columns with
    | nil => exact iff_of_true rfl (by simp)
    | cons c columns ih =>
      rw [List.forall_mem_cons, ← ih, firstMissing?, strict]
      cases c.presence.isRequired with
      | false => simp
      | true =>
        cases row.find? c.label with
        | none => simp
        | some v => cases hnull : v.isNull <;> simp [hnull]
  rw [← hnone, checkPresence]
  rcases strict.firstMissing? row schema.columns with _ | _ | c <;> simp

/-- **Rows are changed without the fallback**, and none is refused, exactly if all of them have the
columns of the condition and those that meet it have, after the change, values in all columns that
require one. -/
lemma strict_updateRows_ok :
    (∃ made, strict.updateRows schema changes condition rows = some (.ok made)) ↔
      ∀ row ∈ rows,
        (∀ name ∈ Predicate.namedColumns condition, (row.find? (.text name)).isSome = true) ∧
        (Table.meets condition row = true → ∀ c ∈ schema.columns, c.presence.isRequired = true →
          ∃ v, (row.override changes).find? c.label = some v ∧ v.isNull = false) := by
  induction rows with
  | nil => exact iff_of_true ⟨_, rfl⟩ (by simp)
  | cons row rows ih =>
    rw [List.forall_mem_cons, ← ih, ← strict_checkPresence_ok, updateRows]
    by_cases hcolumns :
        ∀ name ∈ Predicate.namedColumns condition, (row.find? (.text name)).isSome = true
    · rw [and_iff_right hcolumns,
        meets_eq fun name hname => strict_finds.mpr (hcolumns name hname)]
      cases Table.meets condition row with
      | false =>
        rcases strict.updateRows schema changes condition rows with _ | _ | made <;>
          simp [Except.map]
      | true =>
        rcases strict.checkPresence schema (row.override changes) with _ | _ | _ <;>
          rcases strict.updateRows schema changes condition rows with _ | _ | made <;>
            simp [Except.map]
    · have hmeets : strict.meets condition row = none := by
        rwa [← Option.not_isSome_iff_eq_none, strict_meets_isSome]
      rw [hmeets]
      exact iff_of_false (by simp) fun h => hcolumns h.1.1

end Missing

/-! ## All stores, and well-formed ones -/

/-- **With the fallback**, an `UPDATE` is as it is. -/
theorem executeUpdate_lenient (s : Update) (store : Store) :
    lenient.executeUpdate s store = some (s.execute store) :=
  executeUpdate_eq fun _ _ _ row _ =>
    ⟨fun _ _ => lenient_finds row _, fun _ _ => lenient_finds (row.override s.changes) _⟩

/-- **With the fallback**, a `DELETE` is as it is. -/
theorem executeDelete_lenient (s : Delete) (store : Store) :
    lenient.executeDelete s store = some (s.execute store) :=
  executeDelete_eq fun _ _ _ row _ _ _ => lenient_finds row _

variable {store : Store}

/-- **An `UPDATE` on a well-formed store** never takes the fallback. A changed row still has all
columns that it had before. -/
theorem executeUpdate_strict (hstore : store.WellFormed) (s : Update) :
    strict.executeUpdate s store = some (s.execute store) := by
  refine executeUpdate_eq fun t ht hcheck row hrow => ?_
  obtain ⟨_, -, hrest⟩ := bind_eq_ok.mp hcheck
  obtain ⟨_, hnamed, -⟩ := bind_eq_ok.mp hrest
  have htable := hstore.find? ht
  have hfinds : ∀ label, t.schema.has label = true → strict.Finds row label :=
    fun _ => finds_of_has (htable.rows row hrow)
  refine ⟨fun name hname =>
    hfinds _ (Schema.require_eq_ok.mp hnamed _ (List.mem_map_of_mem hname)), fun c hc => ?_⟩
  have hbefore := hfinds c.label
    (Schema.require_eq_ok.mp htable.schema.require_labels _ (List.mem_map_of_mem hc))
  exact strict_finds.mpr
    (Row.find?_override_isSome s.changes row c.label (.inl (strict_finds.mp hbefore)))

/-- **A `DELETE` on a well-formed store** never takes the fallback. -/
theorem executeDelete_strict (hstore : store.WellFormed) (s : Delete) :
    strict.executeDelete s store = some (s.execute store) := by
  refine executeDelete_eq fun t ht hcheck row hrow name hname => ?_
  exact finds_of_has ((hstore.find? ht).rows row hrow)
    (Schema.require_eq_ok.mp hcheck _ (List.mem_map_of_mem hname))

/-! ## Look-ups that notice, and look-ups that suffice -/

/-- A look-up notices what is missing: with it, a condition, an operator, a listing and a `DELETE`
go through exactly if the rows have all labels that these look up. An `UPDATE` looks up the columns
that require a value in changed rows only, and is refused where one is empty. -/
structure Notices (look : LookUp) : Prop where
  condition : ∀ (p : Predicate) (row : Row), (look.holds p row).isSome = true ↔
    ∀ name ∈ p.columns, (row.find? (.text name)).isSome = true
  operator : ∀ (op : Operator) (s : Selection), (look.apply op s).isSome = true ↔
    ∀ row ∈ s.rows, ∀ label ∈ op.needs s, (row.find? label).isSome = true
  listing : ∀ (labels : List Value) (rows : List Row),
    (∀ label ∈ labels, ∃ name, label = .text name) →
      ((look.list labels rows).isSome = true ↔
        ∀ row ∈ rows, ∀ label ∈ labels, (row.find? label).isSome = true)
  update : ∀ (s : Update) (t : Table), s.check t.schema = .ok () →
    ((∃ made, look.update s t = some (.ok made)) ↔ ∀ row ∈ t.rows,
      (∀ name ∈ Predicate.namedColumns s.condition, (row.find? (.text name)).isSome = true) ∧
      (Table.meets s.condition row = true → ∀ c ∈ t.schema.columns,
        c.presence.isRequired = true →
          ∃ v, (row.override s.changes).find? c.label = some v ∧ v.isNull = false))
  delete : ∀ (s : Delete) (t : Table), s.check t.schema = .ok () →
    ((look.delete s t).isSome = true ↔ ∀ row ∈ t.rows,
      ∀ name ∈ Predicate.namedColumns s.condition, (row.find? (.text name)).isSome = true)

/-- **The look-up without the fallback** notices what is missing. -/
theorem strict_notices : strict.Notices where
  condition _ _ := strict_holds_isSome
  operator _ _ := strict_apply_isSome
  listing _ _ := strict_list_isSome
  update s t hcheck := by
    rw [update, hcheck, ← strict_updateRows_ok]
    rcases strict.updateRows t.schema s.changes s.condition t.rows with _ | _ | made <;>
      simp [Except.map]
  delete s t hcheck := by
    rw [delete, hcheck, ← strict_filter_isSome]
    cases strict.filter false s.condition t.rows <;> rfl

/-- A look-up suffices for a store: with it, every `SELECT` that passes its checks, every `UPDATE`
and every `DELETE` comes to what it comes to. -/
structure Suffices (look : LookUp) (store : Store) : Prop where
  select : ∀ (s : Select) (first : Selection), s.scan store = .ok first →
    look.finish (Operator.all.filter (·.asked s)) first =
      some (first.finish (Operator.all.filter (·.asked s)))
  update : ∀ s : Update, look.executeUpdate s store = some (s.execute store)
  delete : ∀ s : Delete, look.executeDelete s store = some (s.execute store)

/-- **The look-up with the fallback** suffices for all stores. -/
theorem lenient_suffices (store : Store) : lenient.Suffices store where
  select _ _ _ := finish_lenient _ _
  update s := executeUpdate_lenient s store
  delete s := executeDelete_lenient s store

/-- **The look-up without the fallback** suffices for well-formed stores. -/
theorem strict_suffices (hstore : store.WellFormed) : strict.Suffices store where
  select _ _ h := finish_scan hstore h
  update := executeUpdate_strict hstore
  delete := executeDelete_strict hstore

end LookUp

end StagedQuery
