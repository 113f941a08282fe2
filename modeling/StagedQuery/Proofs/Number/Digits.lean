import Mathlib.Algebra.Group.Nat.Defs
import Mathlib.Data.List.Basic
import StagedQuery.Number.Decimal

set_option relaxedAutoImplicit false
set_option autoImplicit false

/-!
# Digit sequences and the numbers that they denote

## Main results

* `natOfDigits_digitsOf` — the digits of a number denote it.
* `natOfDigits_append`, `natOfDigits_lt` — the number of two sequences one after the other, and the
  size of the number of a sequence.
* `length_digitsOf_le_iff`, `length_digitsOf_natOfDigits_le` — how many digits a number has.
* `isDigit_of_mem_digitsOf`, `head?_digitsOf_ne_zero` — which digits they are.
* `not_mem_intText` — the text of a natural number has no other characters.
* `ten_pow_dvd_of_trailing` — the zeros at the end.
-/

namespace StagedQuery

/-! ## Digits -/

/-- The digits are those of the basic alphabet. -/
lemma isDigit_eq (c : Char) : isDigit c = c.isDigit := rfl

/-- A digit has a value below ten. -/
lemma digitValue_lt {c : Char} (h : isDigit c = true) : digitValue c < 10 := by
  rw [isDigit_eq, Char.isDigit_iff_toNat] at h
  have hzero : '0'.toNat = 48 := rfl
  have hnine : '9'.toNat = 57 := rfl
  rw [digitValue]
  omega

/-- The digits of a number, one after the other. -/
lemma digitsOf_eq (n : ℕ) : digitsOf n = Nat.toDigits 10 n := Nat.toList_repr

/-- Every number has a digit. -/
lemma digitsOf_ne_nil (n : ℕ) : digitsOf n ≠ [] := by
  rw [digitsOf_eq]
  exact Nat.toDigits_ne_nil

/-- The digits of a number are digits. -/
lemma isDigit_of_mem_digitsOf {n : ℕ} {c : Char} (h : c ∈ digitsOf n) : isDigit c = true := by
  rw [digitsOf_eq] at h
  exact Nat.isDigit_of_mem_toDigits (by omega) (by omega) h

/-- The text of a natural number is made of its digits. -/
lemma toList_intText_natCast (n : ℕ) : (intText (n : ℤ)).toList = digitsOf n := by
  rw [intText, if_neg (by omega), Int.natAbs_natCast, digitsOf]

/-- A character that is no digit is not in the text of a natural number. -/
lemma not_mem_intText {c : Char} (h : isDigit c = false) (n : ℕ) :
    c ∉ (intText (n : ℤ)).toList := by
  rw [toList_intText_natCast]
  intro hmem
  rw [isDigit_of_mem_digitsOf hmem] at h
  cases h

/-- A number has at most `k` digits if it is below the power `10 ^ k`. -/
lemma length_digitsOf_le_iff {n k : ℕ} (hk : 0 < k) : (digitsOf n).length ≤ k ↔ n < 10 ^ k := by
  rw [digitsOf_eq]
  exact Nat.length_toDigits_le_iff (by omega) hk

/-- A number is below the power of ten with as many zeros as it has digits. -/
lemma lt_ten_pow_length (n : ℕ) : n < 10 ^ (digitsOf n).length :=
  (length_digitsOf_le_iff (List.length_pos_iff.mpr (digitsOf_ne_nil n))).mp (Nat.le_refl _)

/-- A positive number is not below the power of ten with one zero less than it has digits. -/
lemma ten_pow_length_le {n : ℕ} (hn : 0 < n) : 10 ^ ((digitsOf n).length - 1) ≤ n := by
  by_cases hlen : (digitsOf n).length - 1 = 0
  · rw [hlen]
    omega
  · by_contra hlt
    have := (length_digitsOf_le_iff (n := n) (by omega)).mpr (Nat.lt_of_not_le hlt)
    omega

/-- The digits of a positive number do not begin with zero.

**Proof sketch.** Strong induction: a number from ten on begins with the digits of its tenth
part. -/
lemma head?_digitsOf_ne_zero : ∀ {n : ℕ}, 0 < n → (digitsOf n).head? ≠ some '0' := by
  intro n
  induction n using Nat.strongRecOn with
  | ind n ih =>
    intro hn
    by_cases hlt : n < 10
    · rw [digitsOf_eq, Nat.toDigits_of_lt_base hlt, List.head?_cons, ne_eq, Option.some.injEq,
        Nat.digitChar_eq_zero]
      omega
    · have htenth := ih (n / 10) (by omega) (by omega)
      rw [digitsOf_eq] at htenth ⊢
      rw [Nat.toDigits_of_base_le (by omega) (by omega),
        List.head?_append_of_ne_nil _ Nat.toDigits_ne_nil]
      exact htenth

/-! ## The number of a sequence -/

/-- The number of two sequences, one after the other. -/
lemma natOfDigits_append (as bs : List Char) :
    natOfDigits (as ++ bs) = 10 ^ bs.length * natOfDigits as + natOfDigits bs := by
  show Nat.ofDigitChars 10 (as ++ bs) 0 = _
  rw [Nat.ofDigitChars_append, Nat.ofDigitChars_eq_ofDigitChars_zero]
  rfl

/-- The number of a sequence with one digit in front. -/
lemma natOfDigits_cons (c : Char) (cs : List Char) :
    natOfDigits (c :: cs) = 10 ^ cs.length * digitValue c + natOfDigits cs := by
  have h := natOfDigits_append [c] cs
  rwa [List.singleton_append, show natOfDigits [c] = digitValue c by simp [natOfDigits]] at h

/-- Zeros denote zero. -/
lemma natOfDigits_zeros (n : ℕ) : natOfDigits (List.replicate n '0') = 0 := by
  show Nat.ofDigitChars 10 (List.replicate n '0') 0 = 0
  rw [Nat.ofDigitChars_replicate_zero, Nat.mul_zero]

/-- Zeros in front do not count. -/
lemma natOfDigits_zeros_append (n : ℕ) (cs : List Char) :
    natOfDigits (List.replicate n '0' ++ cs) = natOfDigits cs := by
  rw [natOfDigits_append, natOfDigits_zeros, Nat.mul_zero, Nat.zero_add]

/-- Each zero behind a sequence is a factor of ten. -/
lemma natOfDigits_append_zeros (cs : List Char) (n : ℕ) :
    natOfDigits (cs ++ List.replicate n '0') = 10 ^ n * natOfDigits cs := by
  rw [natOfDigits_append, natOfDigits_zeros, List.length_replicate, Nat.add_zero]

/-- The digits of a number denote it. -/
@[simp]
lemma natOfDigits_digitsOf (n : ℕ) : natOfDigits (digitsOf n) = n := by
  rw [digitsOf_eq]
  exact Nat.ofDigitChars_ten_toDigits

/-- The number of a sequence is below the power of ten with as many zeros. -/
lemma natOfDigits_lt {cs : List Char} (h : ∀ c ∈ cs, isDigit c = true) :
    natOfDigits cs < 10 ^ cs.length := by
  induction cs with
  | nil => exact Nat.one_pos
  | cons c cs ih =>
    have hrest := ih fun d hd => h d (by simp [hd])
    have hc := digitValue_lt (h c (by simp))
    rw [natOfDigits_cons, List.length_cons, Nat.pow_succ]
    have hmul : 10 ^ cs.length * digitValue c ≤ 10 ^ cs.length * 9 :=
      Nat.mul_le_mul_left _ (by omega)
    omega

/-- The number of a sequence has no more digits than the sequence. -/
lemma length_digitsOf_natOfDigits_le {cs : List Char} (hcs : cs ≠ [])
    (h : ∀ c ∈ cs, isDigit c = true) : (digitsOf (natOfDigits cs)).length ≤ cs.length :=
  (length_digitsOf_le_iff (List.length_pos_iff.mpr hcs)).mpr (natOfDigits_lt h)

/-! ## Zeros at the end -/

/-- The number of zeros at the end of the digits of a number. -/
def trailingZeros (n : ℕ) : ℕ := ((digitsOf n).reverse.takeWhile (· == '0')).length

/-- A sequence ends in the zeros that were counted from its end. -/
lemma exists_eq_append_zeros (cs : List Char) :
    ∃ front, cs = front ++ List.replicate (cs.reverse.takeWhile (· == '0')).length '0' := by
  have hzeros : cs.reverse.takeWhile (· == '0') =
      List.replicate (cs.reverse.takeWhile (· == '0')).length '0' := by
    refine List.eq_replicate_of_mem fun c hc => ?_
    have hall := List.all_takeWhile (p := fun c : Char => c == '0') (l := cs.reverse)
    simpa using List.all_eq_true.mp hall c hc
  have hsplit := List.takeWhile_append_dropWhile (p := fun c : Char => c == '0') (l := cs.reverse)
  refine ⟨(cs.reverse.dropWhile (· == '0')).reverse, ?_⟩
  rw [hzeros] at hsplit
  have hrev := congrArg List.reverse hsplit
  rw [List.reverse_append, List.reverse_replicate, List.reverse_reverse] at hrev
  exact hrev.symm

/-- The zeros at the end of a number are factors of ten. -/
lemma ten_pow_dvd_of_trailing (n : ℕ) : 10 ^ trailingZeros n ∣ n := by
  obtain ⟨front, hfront⟩ := exists_eq_append_zeros (digitsOf n)
  have h := natOfDigits_append_zeros front (trailingZeros n)
  rw [trailingZeros, ← hfront, natOfDigits_digitsOf] at h
  exact ⟨natOfDigits front, h⟩

end StagedQuery
