import StagedQuery.Predicate.Evaluate
import StagedQuery.Proofs.Value.NumberText
import StagedQuery.Proofs.Value.Order

set_option relaxedAutoImplicit false
set_option autoImplicit false

/-!
# Equality of values

The order of values is not transitive, but equality in conditions is: two values that are equal both
look like numbers or both do not. For if they are compared as texts they have one text, and a scalar
looks like a number exactly if its text does. So the equality of scalars is an equivalence, and the
three signs `<`, `=` and `>` part the pairs of values that are not `null`.

## Main definitions

* `Value.IsScalar` — the values that a cell can hold.
* `Relation.mirror` — the relation that two values stand in the other way round.

## Main results

* `Value.looksNumeric_display` — a scalar looks like a number exactly if its text does.
* `Value.compare_eq_trans` — scalars equal to the same scalar are equal.
* `Relation.mirror_holds` — every relation is mirrored by changing the sides.
* `Value.equal_equivalence` — equality of scalars is an equivalence, and exactly one of `<`, `=`
  and `>` holds of two values that are not `null`.
-/

namespace StagedQuery

namespace Value

/-! ## Scalars -/

/-- The values that a cell can hold: `null`, truth values, integers whose text is not too long,
floating-point numbers except the one that is no number, and text. -/
def IsScalar : Value → Prop
  | null | bool _ | text _ => True
  | int n => (digitsOf n.natAbs).length ≤ integerDigitLimit
  | float x => x ≠ .nan
  | list _ | object _ | range _ _ | tuple _ => False

/-- **A scalar looks like a number exactly if its text does.**

**Proof sketch.** The texts of integers and of finite floating-point numbers denote those numbers.
The texts of `null`, the truth values and the infinities are words, which denote none. -/
theorem looksNumeric_display {v : Value} (hv : v.IsScalar) :
    (text v.display).looksNumeric = v.looksNumeric := by
  cases v with
  | null => decide
  | bool b => cases b <;> decide
  | int n =>
    change (numberOfText? (intText n)).isSome = true
    rw [numberOfText?_intText hv]
    rfl
  | float x =>
    cases x with
    | nan => exact absurd rfl hv
    | infinite negative => cases negative <;> decide
    | finite negative rank =>
      change (numberOfText? (Binary64.text (.finite negative rank))).isSome = true
      rw [numberOfText?_floatText negative rank]
      rfl
  | text s => rfl
  | list _ | object _ | range _ _ | tuple _ => exact False.elim hv

/-! ## Values that compare as equal -/

/-- Only a text compares as equal to itself. -/
lemma eq_of_compareText {s t : String} (h : compareText s t = .eq) : s = t := by
  unfold compareText at h
  split at h
  · simp at h
  split at h
  · simp at h
  · next hst hts => exact String.toList_injective (le_antisymm (not_lt.mp hts) (not_lt.mp hst))

/-- Scalars that compare as equal both look like numbers, or both do not. -/
lemma looksNumeric_of_compare_eq {a b : Value} (ha : a.IsScalar) (hb : b.IsScalar)
    (h : a.compare b = .eq) : a.looksNumeric = b.looksNumeric := by
  by_cases hboth : a.looksNumeric = true ∧ b.looksNumeric = true
  · rw [hboth.1, hboth.2]
  · rw [compare_of_plain hboth] at h
    calc a.looksNumeric = (text a.display).looksNumeric := (looksNumeric_display ha).symm
      _ = (text b.display).looksNumeric := by rw [eq_of_compareText h]
      _ = b.looksNumeric := looksNumeric_display hb

/-- **Scalars equal to the same scalar are equal.**

**Proof sketch.** Either all three look like numbers, or none does. So the three comparisons are
all of exact numbers or all of texts. -/
theorem compare_eq_trans {a b c : Value} (ha : a.IsScalar) (hb : b.IsScalar) (hc : c.IsScalar)
    (hab : a.compare b = .eq) (hbc : b.compare c = .eq) : a.compare c = .eq := by
  have hnab := looksNumeric_of_compare_eq ha hb hab
  have hnbc := looksNumeric_of_compare_eq hb hc hbc
  cases hb' : b.looksNumeric with
  | true =>
    rw [hb'] at hnab hnbc
    have hle := isLE_trans_of_numeric hnab hb' hnbc.symm (by rw [hab]; rfl) (by rw [hbc]; rfl)
    have hge := isLE_trans_of_numeric hnbc.symm hb' hnab
      (by rw [compare_swap, hbc]; rfl) (by rw [compare_swap, hab]; rfl)
    rw [compare_swap] at hge
    cases h : a.compare c with
    | eq => rfl
    | lt => rw [h] at hge; simp at hge
    | gt => rw [h] at hle; simp at hle
  | false =>
    rw [compare_of_plain (by simp [hb'])] at hab hbc
    rw [compare_of_plain (by simp [hnab, hb'])]
    exact Std.TransCmp.eq_trans hab hbc

/-! ## Equality in conditions -/

/-- Two values are equal if both are `null`, or neither is and they compare as equal. -/
lemma equal_iff (a b : Value) :
    a.equal b = true ↔
      a.isNull = true ∧ b.isNull = true ∨
        a.isNull = false ∧ b.isNull = false ∧ a.compare b = .eq := by
  rw [equal]
  cases a.isNull <;> cases b.isNull <;> simp

/-- Every value is equal to itself. -/
lemma equal_refl (a : Value) : a.equal a = true := by
  rw [equal_iff]
  cases h : a.isNull with
  | true => exact Or.inl ⟨rfl, rfl⟩
  | false => exact Or.inr ⟨rfl, rfl, Std.ReflCmp.compare_self⟩

/-- Equality of values does not depend on the side. -/
lemma equal_comm (a b : Value) : a.equal b = b.equal a := by
  have hcompare : a.compare b = .eq ↔ b.compare a = .eq := Std.OrientedCmp.eq_comm
  rw [Bool.eq_iff_iff, equal_iff, equal_iff, and_comm (a := a.isNull = true), and_left_comm,
    hcompare]

/-- Scalars equal to the same scalar are equal. -/
lemma equal_trans {a b c : Value} (ha : a.IsScalar) (hb : b.IsScalar) (hc : c.IsScalar)
    (hab : a.equal b = true) (hbc : b.equal c = true) : a.equal c = true := by
  rw [equal_iff] at *
  rcases hab with ⟨hna, hnb⟩ | ⟨hna, hnb, heq⟩
  · rcases hbc with ⟨-, hnc⟩ | ⟨hnb', -⟩
    · exact Or.inl ⟨hna, hnc⟩
    · simp [hnb] at hnb'
  · rcases hbc with ⟨hnb', -⟩ | ⟨-, hnc, heq'⟩
    · simp [hnb] at hnb'
    · exact Or.inr ⟨hna, hnc, compare_eq_trans ha hb hc heq heq'⟩

end Value

/-! ## The signs -/

namespace Relation

/-- The relation that two values stand in the other way round. -/
def mirror : Relation → Relation
  | less => greater
  | greater => less
  | atMost => atLeast
  | atLeast => atMost
  | equal => equal
  | differs => differs
  | unequal => unequal

/-- **Every relation is mirrored by changing the sides.** -/
theorem mirror_holds (relation : Relation) (a b : Value) :
    relation.mirror.holds b a = relation.holds a b := by
  have hswap := Value.compare_swap b a
  cases relation with
  | equal | differs | unequal => simp only [mirror, holds, Value.equal_comm b a]
  | less | greater | atMost | atLeast =>
    simp only [mirror, holds, hswap, Bool.and_comm (!b.isNull)]
    cases a.compare b <;> rfl

/-- The sign between two values that are not `null`, by their order. -/
def ofOrdering : Ordering → Relation
  | .lt => less
  | .eq => equal
  | .gt => greater

/-- One of the three signs holds of two values that are not `null` exactly if it is the sign of
their order. -/
lemma ofOrdering_holds_iff {a b : Value} (ha : a.isNull = false) (hb : b.isNull = false)
    (order : Ordering) : (ofOrdering order).holds a b = true ↔ a.compare b = order := by
  cases order <;> simp [ofOrdering, holds, Value.equal, ha, hb]

end Relation

/-- **Equality of values is an equivalence, and values are ordered in one of three ways.** Equality
in conditions is an equivalence of scalars. Of two values that are not `null` the comparison in one
direction is that in the other turned around, and exactly one of the signs `<`, `=` and `>` holds.
Every relation is mirrored by changing the sides. -/
theorem Value.equal_equivalence :
    (Equivalence fun a b : {v : Value // v.IsScalar} => a.val.equal b.val = true) ∧
    ∀ a b : Value, a.isNull = false → b.isNull = false →
      a.compare b = (b.compare a).swap ∧
      (∃! relation : Relation,
        relation ∈ [Relation.less, .equal, .greater] ∧ relation.holds a b = true) ∧
      ∀ relation : Relation, relation.mirror.holds b a = relation.holds a b := by
  refine ⟨⟨fun a => equal_refl a.val, fun {a b} h => ?_, fun {a b c} hab hbc => ?_⟩,
    fun a b ha hb => ⟨compare_swap a b, ?_, fun relation => relation.mirror_holds a b⟩⟩
  · rwa [equal_comm]
  · exact equal_trans a.property b.property c.property hab hbc
  · have hiff := Relation.ofOrdering_holds_iff ha hb
    refine ⟨.ofOrdering (a.compare b), ⟨?_, (hiff _).mpr rfl⟩, fun relation hrelation => ?_⟩
    · cases a.compare b <;> simp [Relation.ofOrdering]
    · obtain ⟨order, rfl⟩ : ∃ order, relation = .ofOrdering order := by
        simp only [List.mem_cons, List.not_mem_nil, or_false] at hrelation
        rcases hrelation.1 with rfl | rfl | rfl
        · exact ⟨.lt, rfl⟩
        · exact ⟨.eq, rfl⟩
        · exact ⟨.gt, rfl⟩
      rw [(hiff order).mp hrelation.2]

/-- Three spellings of one number are equal, and a truth value and its text compare as texts. -/
theorem Value.equal_equivalence_spellings :
    (int 1).equal (text " 1e0") = true ∧
      (bool true).compare (text "1") = ((text "1").compare (bool true)).swap ∧
      ∃! relation : Relation, relation ∈ [Relation.less, .equal, .greater] ∧
        relation.holds (float (.infinite false)) (text "inf") = true := by
  have hone : IsScalar (int 1) :=
    show (digitsOf (1 : ℤ).natAbs).length ≤ integerDigitLimit by decide
  have hleft : (int 1).equal (text "01.") = true := by decide
  have hright : (text "01.").equal (text " 1e0") = true := by decide
  obtain ⟨hequivalence, horder⟩ := equal_equivalence
  exact ⟨hequivalence.trans (x := ⟨int 1, hone⟩) (y := ⟨text "01.", trivial⟩)
      (z := ⟨text " 1e0", trivial⟩) hleft hright,
    (horder (bool true) (text "1") rfl rfl).1,
    (horder (float (.infinite false)) (text "inf") rfl rfl).2.1⟩

end StagedQuery
