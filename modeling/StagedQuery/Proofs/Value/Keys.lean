import Mathlib.Data.List.Basic
import StagedQuery.Value.Compare

set_option relaxedAutoImplicit false
set_option autoImplicit false

/-!
# Values as keys

Being the same key is symmetric and transitive on all values. It is reflexive on the values that can
be keys; objects are the same key as nothing, not even as themselves.

## Main definitions

* `Value.isNumeral` — truth values, integers and floating-point numbers, which are compared as keys
  by their exact value.

## Main results

* `Value.same_symm`, `Value.same_trans`, `Value.same_refl` — the three laws.
-/

namespace StagedQuery.Value

/-! ## Numerals -/

/-- Whether a value is compared as a key by its exact number. -/
def isNumeral : Value → Bool
  | bool _ => true
  | int _ => true
  | float _ => true
  | _ => false

/-- Two floating-point numbers are the same key if they have the same exact value, or are the same
number without one. -/
lemma same_float (x y : Binary64) :
    (float x).same (float y) = true ↔ x.toRat? = y.toRat? ∧ (x.toRat? = none → x = y) := by
  cases x <;> cases y <;>
    simp [same, Binary64.isFinite, Binary64.toRat?]

/-- A numeral is the same key as the numerals of the same exact value. A numeral without an exact
value is the same key as itself alone. -/
lemma same_numeral {a : Value} (ha : a.isNumeral = true) (b : Value) :
    a.same b = true ↔
      b.isNumeral = true ∧ a.keyNumber? = b.keyNumber? ∧ (a.keyNumber? = none → a = b) := by
  cases a <;> simp only [isNumeral, Bool.false_eq_true] at ha <;> cases b
  case float.float x y =>
    rw [same_float]
    simp [isNumeral, keyNumber?]
  all_goals simp [same, isNumeral, keyNumber?]
  all_goals
    split
    · simp_all
    · simp_all [eq_comm]

/-! ## The other shapes -/

/-- Only `null` is the same key as `null`. -/
lemma same_null {b : Value} : null.same b = true ↔ b = null := by
  cases b <;> simp [same, keyNumber?]

/-- Only equal text is the same key as a text. -/
lemma same_text {s : String} {b : Value} : (text s).same b = true ↔ b = text s := by
  cases b <;> simp only [same, keyNumber?, beq_iff_eq, text.injEq, reduceCtorEq, Bool.false_eq_true]
  exact eq_comm

/-- Only a list with the same keys is the same key as a list. -/
lemma same_list {xs : List Value} {b : Value} :
    (list xs).same b = true ↔ ∃ ys, b = list ys ∧ sameAll xs ys = true := by
  cases b <;> simp [same, keyNumber?]

/-- Only a tuple with the same keys is the same key as a tuple. -/
lemma same_tuple {xs : List Value} {b : Value} :
    (tuple xs).same b = true ↔ ∃ ys, b = tuple ys ∧ sameAll xs ys = true := by
  cases b <;> simp [same, keyNumber?]

/-- Only a range with the same ends is the same key as a range. -/
lemma same_range {low high b : Value} :
    (range low high).same b = true ↔
      ∃ low' high', b = range low' high' ∧ low.same low' = true ∧ high.same high' = true := by
  cases b <;> simp [same, keyNumber?]

/-- No value is the same key as an object. -/
lemma same_object {fields : List (String × Value)} {b : Value} :
    (object fields).same b = false := by
  cases b <;> simp [same, keyNumber?]

/-! ## The laws -/

mutual

/-- Being the same key is symmetric. -/
theorem same_symm : ∀ {a b : Value}, a.same b = true → b.same a = true
  | null, b, h => by rw [same_null.mp h]; rfl
  | text s, b, h => by rw [same_text.mp h, same_text]
  | bool x, b, h => numeral_symm rfl h
  | int n, b, h => numeral_symm rfl h
  | float x, b, h => numeral_symm rfl h
  | object fields, b, h => by rw [same_object] at h; exact absurd h (by simp)
  | list xs, b, h => by
    obtain ⟨ys, rfl, hys⟩ := same_list.mp h
    exact same_list.mpr ⟨xs, rfl, sameAll_symm hys⟩
  | tuple xs, b, h => by
    obtain ⟨ys, rfl, hys⟩ := same_tuple.mp h
    exact same_tuple.mpr ⟨xs, rfl, sameAll_symm hys⟩
  | range low high, b, h => by
    obtain ⟨low', high', rfl, hlow, hhigh⟩ := same_range.mp h
    exact same_range.mpr ⟨low, high, rfl, same_symm hlow, same_symm hhigh⟩
where
  /-- Numerals are compared by their exact values, which is symmetric. -/
  numeral_symm {a b : Value} (ha : a.isNumeral = true) (h : a.same b = true) : b.same a = true := by
    obtain ⟨hb, hnum, hex⟩ := (same_numeral ha b).mp h
    exact (same_numeral hb a).mpr ⟨ha, hnum.symm, fun hn => (hex (hnum.trans hn)).symm⟩

/-- Holding the same keys is symmetric. -/
theorem sameAll_symm : ∀ {xs ys : List Value}, sameAll xs ys = true → sameAll ys xs = true
  | [], [], _ => rfl
  | [], _ :: _, h => by simp [sameAll] at h
  | _ :: _, [], h => by simp [sameAll] at h
  | x :: xs, y :: ys, h => by
    simp only [sameAll, Bool.and_eq_true] at h ⊢
    exact ⟨same_symm h.1, sameAll_symm h.2⟩

end

mutual

/-- Being the same key is transitive. -/
theorem same_trans : ∀ {a b c : Value}, a.same b = true → b.same c = true → a.same c = true
  | null, b, c, h, k => by rw [same_null.mp h] at k; exact k
  | text s, b, c, h, k => by rw [same_text.mp h] at k; exact k
  | bool x, b, c, h, k => numeral_trans rfl h k
  | int n, b, c, h, k => numeral_trans rfl h k
  | float x, b, c, h, k => numeral_trans rfl h k
  | object fields, b, c, h, k => by rw [same_object] at h; exact absurd h (by simp)
  | list xs, b, c, h, k => by
    obtain ⟨ys, rfl, hys⟩ := same_list.mp h
    obtain ⟨zs, rfl, hzs⟩ := same_list.mp k
    exact same_list.mpr ⟨zs, rfl, sameAll_trans hys hzs⟩
  | tuple xs, b, c, h, k => by
    obtain ⟨ys, rfl, hys⟩ := same_tuple.mp h
    obtain ⟨zs, rfl, hzs⟩ := same_tuple.mp k
    exact same_tuple.mpr ⟨zs, rfl, sameAll_trans hys hzs⟩
  | range low high, b, c, h, k => by
    obtain ⟨low', high', rfl, hlow, hhigh⟩ := same_range.mp h
    obtain ⟨low'', high'', rfl, klow, khigh⟩ := same_range.mp k
    exact same_range.mpr ⟨low'', high'', rfl, same_trans hlow klow, same_trans hhigh khigh⟩
where
  /-- Numerals are compared by their exact values, which is transitive. -/
  numeral_trans {a b c : Value} (ha : a.isNumeral = true) (h : a.same b = true)
      (k : b.same c = true) : a.same c = true := by
    obtain ⟨hb, hnum, hex⟩ := (same_numeral ha b).mp h
    obtain ⟨hc, knum, kex⟩ := (same_numeral hb c).mp k
    refine (same_numeral ha c).mpr ⟨hc, hnum.trans knum, fun hn => ?_⟩
    exact (hex hn).trans (kex (hnum.symm.trans hn))

/-- Holding the same keys is transitive. -/
theorem sameAll_trans : ∀ {xs ys zs : List Value},
    sameAll xs ys = true → sameAll ys zs = true → sameAll xs zs = true
  | [], [], _, _, k => k
  | [], _ :: _, _, h, _ => by simp [sameAll] at h
  | _ :: _, [], _, h, _ => by simp [sameAll] at h
  | _ :: _, _ :: _, [], _, k => by simp [sameAll] at k
  | x :: xs, y :: ys, z :: zs, h, k => by
    simp only [sameAll, Bool.and_eq_true] at h k ⊢
    exact ⟨same_trans h.1 k.1, sameAll_trans h.2 k.2⟩

end

mutual

/-- A value that can be a key is the same key as itself. -/
theorem same_refl : ∀ {a : Value}, a.unhashable? = none → a.same a = true
  | null, _ => rfl
  | text s, _ => same_text.mpr rfl
  | bool x, _ => (same_numeral rfl _).mpr ⟨rfl, rfl, fun _ => rfl⟩
  | int n, _ => (same_numeral rfl _).mpr ⟨rfl, rfl, fun _ => rfl⟩
  | float x, _ => (same_numeral rfl _).mpr ⟨rfl, rfl, fun _ => rfl⟩
  | object fields, h => by simp [unhashable?] at h
  | list xs, h => by simp [unhashable?] at h
  | tuple xs, h => same_tuple.mpr ⟨xs, rfl, sameAll_refl (by simpa [unhashable?] using h)⟩
  | range low high, h => by
    simp only [unhashable?, Option.orElse_eq_orElse, Option.orElse_eq_or,
      Option.or_eq_none_iff] at h
    exact same_range.mpr ⟨low, high, rfl, same_refl h.1, same_refl h.2⟩

/-- Values that can be keys are the same keys as themselves. -/
theorem sameAll_refl : ∀ {xs : List Value},
    unhashable?.firstUnhashable xs = none → sameAll xs xs = true
  | [], _ => rfl
  | x :: xs, h => by
    simp only [unhashable?.firstUnhashable, Option.orElse_eq_orElse, Option.orElse_eq_or,
      Option.or_eq_none_iff] at h
    simp only [sameAll, Bool.and_eq_true]
    exact ⟨same_refl h.1, sameAll_refl h.2⟩

end

/-- What is the same key as one of two equal keys is the same key as the other. -/
lemma same_congr {a b : Value} (h : a.same b = true) (c : Value) : a.same c = b.same c := by
  rw [Bool.eq_iff_iff]
  exact ⟨same_trans (same_symm h), same_trans h⟩

end StagedQuery.Value
