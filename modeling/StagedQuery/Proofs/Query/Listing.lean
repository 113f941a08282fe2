import Mathlib.Data.List.Basic
import StagedQuery.Query.Listing

set_option relaxedAutoImplicit false
set_option autoImplicit false

/-!
# When a listing can be made

The header of a listing is made of its labels, which must be text. Without rows there is no header,
and any labels will do.

## Main definitions

* `FirstNonText` — the first label that is not text.

## Main results

* `listing_eq_error` — when a listing cannot be made, and what the fault is.
* `exists_listing` — under labels that are texts a listing can be made.
-/

namespace StagedQuery

/-- The first label that is not text, behind labels that are. -/
def FirstNonText (labels : List Value) (label : Value) : Prop :=
  ∃ (names : List String) (rest : List Value),
    labels = names.map .text ++ label :: rest ∧ ∀ s, label ≠ .text s

/-- A label in front of others is the first one that is not text, or it is text. -/
lemma firstNonText_cons {first label : Value} {labels : List Value} :
    FirstNonText (first :: labels) label ↔
      (first = label ∧ ∀ s, label ≠ .text s) ∨
        (∃ s, first = .text s) ∧ FirstNonText labels label := by
  constructor
  · rintro ⟨names, rest, hlabels, hlabel⟩
    cases names with
    | nil => exact .inl ⟨(List.cons.inj hlabels).1, hlabel⟩
    | cons name names =>
      obtain ⟨hfirst, hrest⟩ := List.cons.inj hlabels
      exact .inr ⟨⟨name, hfirst⟩, names, rest, hrest, hlabel⟩
  · rintro (⟨rfl, hlabel⟩ | ⟨⟨name, rfl⟩, names, rest, rfl, hlabel⟩)
    · exact ⟨[], labels, rfl, hlabel⟩
    · exact ⟨name :: names, rest, rfl, hlabel⟩

/-- A label that is not text is a fault. -/
lemma labelText_eq_error {label : Value} (h : ∀ s, label ≠ .text s) :
    labelText label = .error (.labelNotText label) := by
  cases label with
  | text s => exact absurd rfl (h s)
  | _ => rfl

/-- **A header cannot be made** if a label is not text. -/
lemma labelTexts_eq_error (labels : List Value) {f : Fault} :
    labels.mapM labelText = .error f ↔
      ∃ label, FirstNonText labels label ∧ f = .labelNotText label := by
  induction labels with
  | nil =>
    refine iff_of_false (by simp [pure, Except.pure]) ?_
    rintro ⟨label, ⟨names, rest, hlabels, -⟩, -⟩
    cases names <;> cases hlabels
  | cons first labels ih =>
    rw [List.mapM_cons]
    by_cases htext : ∃ s, first = .text s
    · obtain ⟨s, rfl⟩ := htext
      have hrest : (labelText (.text s) >>= fun text => labels.mapM labelText >>= fun texts =>
          pure (text :: texts)) = .error f ↔ labels.mapM labelText = .error f := by
        cases labels.mapM labelText <;> simp [labelText, bind, Except.bind, pure, Except.pure]
      rw [hrest, ih]
      refine exists_congr fun label => and_congr_left fun _ => ?_
      rw [firstNonText_cons]
      exact ⟨fun h => .inr ⟨⟨s, rfl⟩, h⟩, fun h => h.elim (fun h => absurd h.1.symm (h.2 s)) (·.2)⟩
    · have hfirst : ∀ s, first ≠ .text s := fun s hs => htext ⟨s, hs⟩
      rw [labelText_eq_error hfirst]
      constructor
      · intro h
        exact ⟨first, firstNonText_cons.mpr (.inl ⟨rfl, hfirst⟩), (Except.error.inj h).symm⟩
      · rintro ⟨label, hlabel, rfl⟩
        rcases firstNonText_cons.mp hlabel with ⟨rfl, -⟩ | ⟨hs, -⟩
        · rfl
        · exact absurd hs htext

/-- **A listing cannot be made** if it has rows and a label that is not text. -/
lemma listing_eq_error {labels : List Value} {rows : List Row} {f : Fault} :
    listing labels rows = .error f ↔
      rows ≠ [] ∧ ∃ label, FirstNonText labels label ∧ f = .labelNotText label := by
  rw [listing, ← labelTexts_eq_error]
  cases rows with
  | nil => simp
  | cons row rows =>
    cases labels.mapM labelText <;> simp [bind, Except.bind, pure, Except.pure]

/-- Rows under labels that are texts have a listing. -/
lemma exists_listing {labels : List Value} (h : ∀ label ∈ labels, ∃ name, label = .text name)
    (rows : List Row) : ∃ text, listing labels rows = .ok text := by
  cases hlist : listing labels rows with
  | ok text => exact ⟨text, rfl⟩
  | error f =>
    obtain ⟨-, label, ⟨names, rest, rfl, hlabel⟩, -⟩ := listing_eq_error.mp hlist
    obtain ⟨name, rfl⟩ := h label (by simp)
    exact absurd rfl (hlabel name)

end StagedQuery
