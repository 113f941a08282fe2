import Mathlib.Data.List.Basic
import Mathlib.Data.List.Induction
import StagedQuery.Predicate.Evaluate

set_option relaxedAutoImplicit false
set_option autoImplicit false

/-!
# The columns of a condition

A condition is evaluated on a row by its leaves, each of which reads one column. So its value
depends on the columns that it refers to alone, and checking these columns checks everything that
the evaluation reads.

## Main definitions

* `Predicate.leaves` — the leaves of a condition, from left to right.

## Main results

* `pairwise_idxOf_eraseDups` — a list without its repetitions is in the order of first occurrence.
* `Predicate.mem_columns`, `Predicate.pairwise_columns`, `Predicate.nodup_columns` — the columns of
  a condition are those of its leaves, each once and in the order in which they are first seen.
* `Predicate.holds_congr` — the value of a condition depends on these columns alone.
-/

namespace StagedQuery

/-! ## First occurrences -/

/-- **A list without its repetitions** is in the order of first occurrence.

**Proof sketch.** Induction on the list from its end. A last item that occurs before is left out; a
new one has its first occurrence behind all others. -/
lemma pairwise_idxOf_eraseDups {α : Type} [BEq α] [LawfulBEq α] (l : List α) :
    l.eraseDups.Pairwise fun a b => l.idxOf a < l.idxOf b := by
  induction l using List.reverseRecOn with
  | nil => exact List.Pairwise.nil
  | append_singleton l a ih =>
    have hold : l.eraseDups.Pairwise fun b c => (l ++ [a]).idxOf b < (l ++ [a]).idxOf c := by
      refine ih.imp_of_mem fun {b c} hb hc hlt => ?_
      rwa [List.idxOf_append_of_mem (List.mem_eraseDups.mp hb),
        List.idxOf_append_of_mem (List.mem_eraseDups.mp hc)]
    rw [List.eraseDups_append]
    by_cases ha : a ∈ l
    · have hnone : [a].removeAll l = [] := by simp [List.removeAll, ha]
      rw [hnone, List.eraseDups_nil, List.append_nil]
      exact hold
    · have hnew : [a].removeAll l = [a] := by simp [List.removeAll, ha]
      rw [hnew, show [a].eraseDups = [a] by simp [List.eraseDups_cons]]
      refine List.pairwise_append.mpr ⟨hold, List.pairwise_singleton _ _, fun b hb c hc => ?_⟩
      rw [List.mem_singleton.mp hc, List.idxOf_append_of_mem (List.mem_eraseDups.mp hb),
        List.idxOf_append_of_notMem ha]
      exact Nat.lt_add_right _ (List.idxOf_lt_length_iff.mpr (List.mem_eraseDups.mp hb))

/-! ## Columns -/

namespace Predicate

/-- The leaves of a condition, from left to right. -/
def leaves : Predicate → List (String × Test)
  | leaf column test => [(column, test)]
  | and left right => left.leaves ++ right.leaves
  | or left right => left.leaves ++ right.leaves

variable {p : Predicate} {row row' : Row}

/-- A condition mentions the columns of its leaves. -/
lemma mentions_eq (p : Predicate) : p.mentions = p.leaves.map Prod.fst := by
  induction p with
  | leaf => rfl
  | and left right ihl ihr => rw [mentions, leaves, List.map_append, ihl, ihr]
  | or left right ihl ihr => rw [mentions, leaves, List.map_append, ihl, ihr]

/-- **The columns of a condition** are those of its leaves. -/
lemma mem_columns {name : String} : name ∈ p.columns ↔ ∃ test, (name, test) ∈ p.leaves := by
  rw [columns, List.mem_eraseDups, mentions_eq, List.mem_map]
  exact ⟨fun ⟨⟨_, test⟩, hleaf, rfl⟩ => ⟨test, hleaf⟩, fun ⟨test, hleaf⟩ => ⟨_, hleaf, rfl⟩⟩

/-- The columns of a condition are in the order in which its leaves refer to them first. -/
lemma pairwise_columns (p : Predicate) : p.columns.Pairwise fun a b =>
    (p.leaves.map Prod.fst).idxOf a < (p.leaves.map Prod.fst).idxOf b := by
  rw [columns, mentions_eq]
  exact pairwise_idxOf_eraseDups _

/-- No column is listed twice. -/
lemma nodup_columns (p : Predicate) : p.columns.Nodup :=
  p.pairwise_columns.imp fun {a b} hlt heq => by
    rw [heq] at hlt
    exact absurd hlt (Nat.lt_irrefl _)

/-- A leaf has one column. -/
lemma forall_columns_leaf {P : String → Prop} {column : String} {test : Test} :
    (∀ name ∈ (leaf column test).columns, P name) ↔ P column := by
  simp only [mem_columns, leaves, List.mem_singleton, Prod.mk.injEq]
  exact ⟨fun h => h column ⟨test, rfl, rfl⟩, fun h name ⟨_, hname, _⟩ => hname ▸ h⟩

/-- The columns of a branch are those of its two sides. -/
lemma forall_columns_append {P : String → Prop} {left right : Predicate}
    (hleaves : p.leaves = left.leaves ++ right.leaves) : (∀ name ∈ p.columns, P name) ↔
      (∀ name ∈ left.columns, P name) ∧ ∀ name ∈ right.columns, P name := by
  simp only [mem_columns, hleaves, List.mem_append]
  constructor
  · exact fun h => ⟨fun name ⟨test, hleaf⟩ => h name ⟨test, .inl hleaf⟩,
      fun name ⟨test, hleaf⟩ => h name ⟨test, .inr hleaf⟩⟩
  · rintro ⟨hleft, hright⟩ name ⟨test, hleaf | hleaf⟩
    · exact hleft name ⟨test, hleaf⟩
    · exact hright name ⟨test, hleaf⟩

/-- **The value of a condition** depends on its columns alone: two rows that have the same values in
these columns, where a missing value counts as `null`, both meet it, or neither does. -/
theorem holds_congr
    (h : ∀ name ∈ p.columns, row.get (.text name) = row'.get (.text name)) :
    p.holds row = p.holds row' := by
  induction p with
  | leaf column test =>
    rw [holds, holds, forall_columns_leaf.mp h]
  | and left right ihl ihr =>
    obtain ⟨hleft, hright⟩ := (forall_columns_append rfl).mp h
    rw [holds, holds, ihl hleft, ihr hright]
  | or left right ihl ihr =>
    obtain ⟨hleft, hright⟩ := (forall_columns_append rfl).mp h
    rw [holds, holds, ihl hleft, ihr hright]

end Predicate

end StagedQuery
