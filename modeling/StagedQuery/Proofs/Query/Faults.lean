import StagedQuery.Proofs.Query.Answer

set_option relaxedAutoImplicit false
set_option autoImplicit false

/-!
# Faults in the answer to a `SELECT`

A `SELECT` with an error is refused by its scan, and from there on two things can go wrong, neither
of which has a message. Repeated rows are left out by their signatures, whose values must be keys,
and a table that was read from a file can hold a list or an object. The header of a listing is made
of the labels, which must be text, and such a table can have other labels.

## Main definitions

* `Select.FailsOnCell`, `Select.FailsOnLabel` — the two cases.

## Main results

* `Selection.finish_eq_error` — a passage ends in the fault of an operator or of the listing.
* `Select.finish_eq_error` — the passage of a `SELECT` ends in a fault in just the two cases.
-/

namespace StagedQuery

/-! ## Repeated rows -/

/-- Repeated rows cannot be left out if a value in a signature cannot be a key. -/
lemma Select.unrepeatedRows_eq_error {s : Select} {labels : List Value} {rows : List Row}
    {f : Fault} : s.unrepeatedRows labels rows = .error f ↔ s.distinct = true ∧
      ∃ kind, unhashableCell? labels rows = some kind ∧ f = .unhashable kind := by
  rw [unrepeatedRows, unhashableCell?]
  cases s.distinct with
  | false => simp
  | true =>
    rw [if_pos rfl, distinctRows]
    cases rows.findSome? fun row => (signature labels row).findSome? Value.unhashable? with
    | none => simp
    | some kind => simp [eq_comm]

/-! ## The end of the passage -/

/-- The passage of a selection ends in the fault of an operator, or of its listing. -/
lemma Selection.finish_eq_error {f : Fault} (ops : List Operator) :
    ∀ s : Selection, (finish ops s).2 = .error f ↔ Operator.run ops s = .error f ∨
      ∃ after, Operator.run ops s = .ok after ∧ listing after.labels after.rows = .error f := by
  induction ops with
  | nil =>
    intro s
    rw [finish, Operator.run]
    cases hlist : listing s.labels s.rows <;> simp [hlist]
  | cons op ops ih =>
    intro s
    rw [finish, Operator.run]
    cases op.apply s with
    | error f' => simp [bind, Except.bind]
    | ok after => exact ih after

namespace Select

/-- A `SELECT` is to leave out repeated rows and comes to a value that cannot be a key. -/
structure FailsOnCell (s : Select) (labels : List Value) (rows : List Row) (kind : String) :
    Prop where
  distinct : s.distinct = true
  cell : unhashableCell? labels (s.candidates labels rows) = some kind

/-- A `SELECT` comes to an answer that has rows, and to a label that is not text. -/
structure FailsOnLabel (s : Select) (labels : List Value) (rows : List Row) (label : Value) :
    Prop where
  cells : s.distinct = true → unhashableCell? labels (s.candidates labels rows) = none
  rows : s.answer labels rows ≠ []
  label : FirstNonText labels label

/-- **The passage of a `SELECT` ends in a fault** in two cases: a value that must be a key cannot be
one, or the answer has rows under a label that is not text. -/
theorem finish_eq_error {s : Select} {labels : List Value} {rows : List Row} {f : Fault} :
    (Selection.finish (Operator.all.filter (·.asked s)) ⟨rows, labels, s, .scanned⟩).2 =
        .error f ↔
      (∃ kind, s.FailsOnCell labels rows kind ∧ f = .unhashable kind) ∨
        ∃ label, s.FailsOnLabel labels rows label ∧ f = .labelNotText label := by
  obtain ⟨phase, hrun⟩ := Operator.run_all s labels rows
  rw [Selection.finish_eq_error, hrun]
  have hmap : ∀ (kept : Except Fault (List Row)), (kept.map fun kept =>
      (⟨s.paged kept, labels, s, phase⟩ : Selection)) = .error f ↔ kept = .error f := by
    rintro (f' | kept) <;> simp [Except.map]
  refine or_congr ((hmap _).trans ?_) ?_
  · rw [unrepeatedRows_eq_error]
    constructor
    · rintro ⟨hdistinct, kind, hcell, rfl⟩
      exact ⟨kind, ⟨hdistinct, hcell⟩, rfl⟩
    · rintro ⟨kind, h, rfl⟩
      exact ⟨h.distinct, kind, h.cell, rfl⟩
  · constructor
    · rintro ⟨after, hafter, hlist⟩
      obtain ⟨kept, hkept, rfl⟩ := map_eq_ok.mp hafter
      obtain ⟨hcells, rfl⟩ := unrepeatedRows_eq_ok.mp hkept
      obtain ⟨hrows, label, hlabel, rfl⟩ := listing_eq_error.mp hlist
      exact ⟨label, ⟨hcells, hrows, hlabel⟩, rfl⟩
    · rintro ⟨label, h, rfl⟩
      have hkept := unrepeatedRows_eq_ok.mpr ⟨h.cells, rfl⟩
      exact ⟨_, map_eq_ok.mpr ⟨_, hkept, rfl⟩, listing_eq_error.mpr ⟨h.rows, label, h.label, rfl⟩⟩

end Select

end StagedQuery
