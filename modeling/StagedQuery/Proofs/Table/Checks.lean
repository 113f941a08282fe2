import Mathlib.Data.List.Basic
import StagedQuery.Table.Basic

set_option relaxedAutoImplicit false
set_option autoImplicit false

/-!
# Checks that report what is wrong

A schema checks labels and rows item by item, and reports the first item that breaks a rule. These
lemmas say of both checks when they pass, and which item they report.

## Main definitions

* `reportFirst` — the check that refuses some items and reports the first of these.
* `Schema.Filled` — the rows in which every required column has a value.

## Main results

* `reportFirst_eq_ok`, `reportFirst_eq_error` — when such a check passes, and what it reports.
* `Schema.require_eq_ok`, `Schema.require_eq_error` — labels that are to name columns.
* `Schema.checkPresence_eq_ok`, `Schema.checkPresence_eq_error` — rows that are to be
  filled.
-/

namespace StagedQuery

/-! ## The first item that is refused -/

section

variable {α ε : Type} {refuses : α → Bool} {report : α → ε} {items : List α}

/-- The check that refuses some items and reports the first of these. -/
def reportFirst (refuses : α → Bool) (report : α → ε) (items : List α) : Except ε Unit :=
  match items.find? refuses with
  | some a => .error (report a)
  | none => .ok ()

/-- A check passes if it refuses no item. -/
lemma reportFirst_eq_ok :
    reportFirst refuses report items = .ok () ↔ ∀ a ∈ items, refuses a = false := by
  simp only [← Bool.not_eq_true, ← List.find?_eq_none, reportFirst]
  cases items.find? refuses <;> simp

/-- **The item that a check reports** is the first one that it refuses. -/
lemma reportFirst_eq_error {e : ε} : reportFirst refuses report items = .error e ↔
    ∃ before a after, items = before ++ a :: after ∧ (∀ b ∈ before, refuses b = false) ∧
      refuses a = true ∧ e = report a := by
  have hfirst : reportFirst refuses report items = .error e ↔
      ∃ a, items.find? refuses = some a ∧ e = report a := by
    rw [reportFirst]
    cases items.find? refuses <;> simp [eq_comm]
  simp only [hfirst, List.find?_eq_some_iff_append, Bool.not_eq_true']
  constructor
  · rintro ⟨a, ⟨ha, before, after, rfl, hbefore⟩, rfl⟩
    exact ⟨before, a, after, rfl, hbefore, ha, rfl⟩
  · rintro ⟨before, a, after, rfl, hbefore, ha, rfl⟩
    exact ⟨a, ⟨ha, before, after, rfl, hbefore⟩, rfl⟩

end

/-! ## The checks of a schema -/

namespace Schema

variable {s : Schema} {labels : List Value} {row : Row} {e : Failure}

/-- The rows in which every column that requires a value has one. -/
def Filled (s : Schema) (row : Row) : Prop :=
  ∀ c ∈ s.columns, c.presence.isRequired = true → (row.get c.label).isNull = false

/-- Labels are checked one after the other. -/
lemma require_eq (s : Schema) (labels : List Value) : s.require labels =
    reportFirst (fun label => !s.has label)
      (fun label => .statement (.noSuchColumn label s.name)) labels := by
  rw [require, reportFirst]
  cases labels.find? fun label => !s.has label <;> rfl

/-- Columns are checked one after the other. -/
lemma checkPresence_eq (s : Schema) (row : Row) : s.checkPresence row =
    reportFirst (fun c => c.presence.isRequired && (row.get c.label).isNull)
      (fun c => .constraint (.missingValue c.label)) s.columns := by
  rw [checkPresence, reportFirst]
  cases s.columns.find? fun c => c.presence.isRequired && (row.get c.label).isNull <;> rfl

/-- Labels are admitted if all of them name columns. -/
lemma require_eq_ok : s.require labels = .ok () ↔ ∀ label ∈ labels, s.has label = true := by
  rw [require_eq, reportFirst_eq_ok]
  simp only [Bool.not_eq_false']

/-- **The first label** that names no column is reported. -/
lemma require_eq_error : s.require labels = .error e ↔
    ∃ before label after, labels = before ++ label :: after ∧
      (∀ l ∈ before, s.has l = true) ∧ s.has label = false ∧
      e = .statement (.noSuchColumn label s.name) := by
  rw [require_eq, reportFirst_eq_error]
  simp only [Bool.not_eq_false', Bool.not_eq_true']

/-- A row passes if it is filled. -/
lemma checkPresence_eq_ok : s.checkPresence row = .ok () ↔ s.Filled row := by
  rw [checkPresence_eq, reportFirst_eq_ok]
  simp only [Bool.and_eq_false_imp, Filled]

/-- **The first required column** without a value is reported. -/
lemma checkPresence_eq_error : s.checkPresence row = .error e ↔
    ∃ before c after, s.columns = before ++ c :: after ∧
      (∀ d ∈ before, d.presence.isRequired = true → (row.get d.label).isNull = false) ∧
      c.presence.isRequired = true ∧ (row.get c.label).isNull = true ∧
      e = .constraint (.missingValue c.label) := by
  rw [checkPresence_eq, reportFirst_eq_error]
  simp only [Bool.and_eq_false_imp, Bool.and_eq_true, and_assoc]

end Schema

end StagedQuery
