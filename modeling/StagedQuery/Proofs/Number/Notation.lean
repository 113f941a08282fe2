import StagedQuery.Number.Shortest
import StagedQuery.Proofs.Number.Digits
import StagedQuery.Proofs.Number.Rounding

set_option relaxedAutoImplicit false
set_option autoImplicit false

/-!
# The text of a decimal

Whichever layout a decimal is written with, its text is that of some parts: digits before the point,
digits after it and a power of ten. These parts denote the decimal.

## Main definitions

* `Notation.text` — the text of the parts of a number.
* `Notation.Canonical` — the parts that a reader takes apart again as they were put together.
* `Notation.Spells` — that a text is one of canonical parts which denote a decimal.

## Main results

* `Shortest.spells_write` — a written decimal is spelled by its text.
-/

namespace StagedQuery

namespace Notation

/-- The text of a fraction, with its point. -/
def fractionText : Option (List Char) → List Char
  | none => []
  | some ds => '.' :: ds

/-- The text of a power of ten, with its mark and its sign. -/
def powerText : Option (Bool × List Char) → List Char
  | none => []
  | some (negative, ds) => 'e' :: (if negative then '-' else '+') :: ds

/-- The text of the parts of a number. -/
def text (n : Notation) : List Char := n.whole ++ fractionText n.fraction ++ powerText n.power

/-- Digits, at least one. -/
def IsDigits (ds : List Char) : Prop := ds ≠ [] ∧ ∀ c ∈ ds, isDigit c = true

/-- The parts of a number that can be told apart in its text: digits stand where they must, and
those before the point begin with zero only if there is nothing else. -/
structure Canonical (n : Notation) : Prop where
  whole : IsDigits n.whole
  leading : n.whole = ['0'] ∨ n.whole.head? ≠ some '0'
  fraction : ∀ ds, n.fraction = some ds → IsDigits ds
  power : ∀ p, n.power = some p → IsDigits p.2

/-- The digits of a number are digits. -/
lemma isDigits_digitsOf (n : ℕ) : IsDigits (digitsOf n) :=
  ⟨digitsOf_ne_nil n, fun _ => isDigit_of_mem_digitsOf⟩

/-- The digits of a number begin with zero only if there is nothing else. -/
lemma leading_digitsOf (n : ℕ) : digitsOf n = ['0'] ∨ (digitsOf n).head? ≠ some '0' := by
  rcases Nat.eq_zero_or_pos n with rfl | hn
  · exact Or.inl (by decide)
  · exact Or.inr (head?_digitsOf_ne_zero hn)

/-- Zeros are digits. -/
lemma isDigit_of_mem_zeros {c : Char} {k : ℕ} (h : c ∈ List.replicate k '0') :
    isDigit c = true := by
  rw [List.eq_of_mem_replicate h]
  decide

/-- Digits with zeros before them are digits. -/
lemma IsDigits.zeros_append {ds : List Char} (h : IsDigits ds) (k : ℕ) :
    IsDigits (List.replicate k '0' ++ ds) := by
  refine ⟨List.append_ne_nil_of_right_ne_nil _ h.1, fun c hc => ?_⟩
  rcases List.mem_append.mp hc with hzero | hmem
  · exact isDigit_of_mem_zeros hzero
  · exact h.2 c hmem

/-- Digits with zeros behind them are digits. -/
lemma IsDigits.append_zeros {ds : List Char} (h : IsDigits ds) (k : ℕ) :
    IsDigits (ds ++ List.replicate k '0') := by
  refine ⟨List.append_ne_nil_of_left_ne_nil h.1 _, fun c hc => ?_⟩
  rcases List.mem_append.mp hc with hmem | hzero
  · exact h.2 c hmem
  · exact isDigit_of_mem_zeros hzero

/-- A zero is a digit. -/
lemma isDigits_zero : IsDigits ['0'] := ⟨by simp, by simp; decide⟩

/-- That a text is one of canonical parts which denote a decimal and are not those of a whole
number. -/
def Spells (cs : List Char) (d : Decimal) : Prop :=
  ∃ n : Notation, n.Canonical ∧ n.isWhole = false ∧ n.value.toRat = d.toRat ∧ cs = n.text

end Notation

namespace Shortest

open Notation

section Layouts

variable {d : Decimal} {ds : List Char} (hdigits : IsDigits ds) (hhead : ds.head? ≠ some '0')
  (hvalue : natOfDigits ds = d.coefficient)

include hdigits hvalue in
/-- All digits may stand behind the point, after some zeros. -/
lemma spells_behind {place : ℤ} (hplace : ds.length + d.exponent = place) (hle : place ≤ 0) :
    Spells ('0' :: '.' :: (List.replicate (-place).toNat '0' ++ ds)) d := by
  refine ⟨⟨['0'], some (List.replicate (-place).toNat '0' ++ ds), none⟩,
    ⟨isDigits_zero, Or.inl rfl, ?_, by simp⟩, rfl, ?_, ?_⟩
  · rintro _ ⟨⟩
    exact hdigits.zeros_append _
  · rw [Notation.value]
    dsimp only [Option.getD_some]
    rw [← List.append_assoc, show ['0'] = List.replicate 1 '0' from rfl, List.append_assoc,
      natOfDigits_zeros_append, natOfDigits_zeros_append, hvalue]
    congr 2
    rw [List.length_append, List.length_replicate, powerValue]
    omega
  · simp [Notation.text, fractionText, powerText]

include hdigits hhead hvalue in
/-- The point may stand between two digits. -/
lemma spells_between {n : ℕ} (hplace : ds.length + d.exponent = n) (hpos : 0 < n)
    (hlt : n < ds.length) : Spells (ds.take n ++ '.' :: ds.drop n) d := by
  refine ⟨⟨ds.take n, some (ds.drop n), none⟩,
    ⟨⟨?_, fun c hc => hdigits.2 c (List.mem_of_mem_take hc)⟩, Or.inr ?_, ?_, by simp⟩, rfl, ?_, ?_⟩
  · intro hnil
    rcases List.take_eq_nil_iff.mp hnil with hzero | hnil
    · omega
    · exact hdigits.1 hnil
  · rw [List.head?_take, if_neg (by omega)]
    exact hhead
  · rintro _ ⟨⟩
    refine ⟨fun hnil => ?_, fun c hc => hdigits.2 c (List.mem_of_mem_drop hc)⟩
    rw [List.drop_eq_nil_iff] at hnil
    omega
  · rw [Notation.value]
    dsimp only [Option.getD_some]
    rw [List.take_append_drop, hvalue]
    congr 2
    rw [List.length_drop, powerValue]
    omega
  · simp [Notation.text, fractionText, powerText]

include hdigits hhead hvalue in
/-- All digits may stand before the point, with some zeros behind them. -/
lemma spells_before {n : ℕ} (hplace : ds.length + d.exponent = n) (hle : ds.length ≤ n) :
    Spells (ds ++ List.replicate (n - ds.length) '0' ++ ['.', '0']) d := by
  refine ⟨⟨ds ++ List.replicate (n - ds.length) '0', some ['0'], none⟩,
    ⟨hdigits.append_zeros _, Or.inr ?_, ?_, by simp⟩, rfl, ?_, ?_⟩
  · rw [List.head?_append_of_ne_nil _ hdigits.1]
    exact hhead
  · rintro _ ⟨⟩
    exact isDigits_zero
  · rw [Notation.value, Decimal.toRat, Decimal.toRat]
    dsimp only [Option.getD_some]
    rw [List.append_assoc, show ['0'] = List.replicate 1 '0' from rfl, ← List.replicate_add,
      natOfDigits_append_zeros, hvalue, powerValue, List.length_replicate]
    obtain ⟨e, he⟩ : ∃ e : ℕ, d.exponent = e := ⟨d.exponent.toNat, by omega⟩
    rw [he, show n - ds.length = e by omega]
    push_cast
    rw [pow_succ, zpow_natCast, zpow_neg_one]
    ring
  · simp [Notation.text, fractionText, powerText]

include hdigits hhead hvalue in
/-- Digits with the point after some of them spell the decimal. -/
lemma spells_positional : Spells (positional ds (ds.length + d.exponent)) d := by
  rw [positional]
  split
  · exact spells_behind hdigits hvalue rfl ‹_›
  · dsimp only
    split
    · exact spells_between hdigits hhead hvalue (by omega) (by omega) ‹_›
    · exact spells_before hdigits hhead hvalue (by omega) (by omega)

/-- A power of ten is shown by its sign and its digits, with zeros before them. -/
lemma powerValue_shown (power : ℤ) (zeros : ℕ) :
    powerValue (some (decide (power < 0), List.replicate zeros '0' ++ digitsOf power.natAbs)) =
      power := by
  cases hneg : decide (power < 0) with
  | true =>
    rw [decide_eq_true_eq] at hneg
    rw [powerValue, natOfDigits_zeros_append, natOfDigits_digitsOf]
    omega
  | false =>
    rw [decide_eq_false_iff_not] at hneg
    rw [powerValue, natOfDigits_zeros_append, natOfDigits_digitsOf]
    omega

include hdigits hhead hvalue in
/-- Digits with the point after the first one and a power of ten spell the decimal. -/
lemma spells_scientific (powerDigits : ℕ) :
    Spells (scientific powerDigits ds (ds.length + d.exponent - 1)) d := by
  generalize hpower : (ds.length : ℤ) + d.exponent - 1 = power
  have hshown := (isDigits_digitsOf power.natAbs).zeros_append
    (powerDigits - (digitsOf power.natAbs).length)
  have hpowerValue := powerValue_shown power (powerDigits - (digitsOf power.natAbs).length)
  unfold scientific
  dsimp only
  generalize List.replicate (powerDigits - (digitsOf power.natAbs).length) '0' ++
      digitsOf power.natAbs = shown at *
  rcases ds with _ | ⟨c, _ | ⟨b, rest⟩⟩
  · exact absurd rfl hdigits.1
  -- A single digit has no fraction behind it.
  · refine ⟨⟨[c], none, some (decide (power < 0), shown)⟩,
      ⟨hdigits, Or.inr hhead, by simp, by rintro _ ⟨⟩; exact hshown⟩, rfl, ?_, ?_⟩
    · rw [Notation.value]
      dsimp only [Option.getD_none]
      rw [List.append_nil, hvalue, hpowerValue]
      congr 2
      rw [List.length_singleton] at hpower
      rw [List.length_nil]
      omega
    · simp [Notation.text, fractionText, powerText]
  · refine ⟨⟨[c], some (b :: rest), some (decide (power < 0), shown)⟩,
      ⟨⟨by simp, fun a ha => hdigits.2 a ?_⟩, Or.inr hhead, ?_,
        by rintro _ ⟨⟩; exact hshown⟩, rfl, ?_, ?_⟩
    · rw [List.mem_singleton.mp ha]
      exact List.mem_cons_self
    · rintro _ ⟨⟩
      exact ⟨by simp, fun a ha => hdigits.2 a (List.mem_cons_of_mem c ha)⟩
    · rw [Notation.value]
      dsimp only [Option.getD_some]
      rw [List.singleton_append, hvalue, hpowerValue]
      congr 2
      rw [List.length_cons] at hpower
      omega
    · simp [Notation.text, fractionText, powerText]

end Layouts

/-- **A written decimal** is spelled by its text, in whichever layout. -/
theorem spells_write (l : Layout) {d : Decimal} (h : 0 < d.coefficient) :
    Spells (l.write d) d := by
  have hdigits := isDigits_digitsOf d.coefficient
  have hhead := head?_digitsOf_ne_zero h
  have hvalue := natOfDigits_digitsOf d.coefficient
  rw [Layout.write]
  split
  · exact spells_positional hdigits hhead hvalue
  · exact spells_scientific hdigits hhead hvalue l.powerDigits

end Shortest

end StagedQuery
