import Mathlib.Tactic.LinearCombination
import StagedQuery.Proofs.Number.Rounding

set_option relaxedAutoImplicit false
set_option autoImplicit false

/-!
# The shortest digits of a number read back as it

The digits that are written for a positive magnitude lie in its interval. That some digits are found
at all needs an argument: among the decimals of seventeen digits one is so near to the magnitude
that it lies in the interval, since `2 ^ 53` is less than `10 ^ 16`.

## Main definitions

* `Shortest.stepOf`, `Shortest.targetOf` — the grid of the multiples of a power of ten, scaled to
  naturals.
* `Shortest.inside`, `Shortest.pick` — which of its points lie in an interval, and the one that is
  taken.

## Main results

* `Shortest.places_spec` — the number of places of a quotient.
* `Shortest.isSome_pick` — a fine grid has a point in the interval.
* `Shortest.digits_spec` — **the shortest digits of a magnitude** lie around its rank.
-/

namespace StagedQuery.Shortest

/-! ## Places -/

/-- Whether a quotient reaches a power of ten. -/
lemma reaches_iff (num : ℕ) {den : ℕ} (hd : 0 < den) (e : ℤ) :
    (if 0 ≤ e then den * tenTo e.toNat ≤ num else den ≤ num * tenTo (-e).toNat) ↔
      (10 : ℚ) ^ e ≤ (num : ℚ) / den := by
  have hden : (0 : ℚ) < den := by exact_mod_cast hd
  rw [le_div_iff₀ hden]
  split
  · rename_i he
    obtain ⟨k, rfl⟩ := Int.eq_ofNat_of_zero_le he
    rw [← Nat.cast_le (α := ℚ), tenTo_eq]
    push_cast
    rw [mul_comm]
    simp
  · rename_i he
    obtain ⟨k, rfl⟩ : ∃ k : ℕ, e = -(k : ℤ) := ⟨(-e).toNat, by omega⟩
    have hpow : (0 : ℚ) < 10 ^ k := by positivity
    rw [← Nat.cast_le (α := ℚ), tenTo_eq, neg_neg, Int.toNat_natCast, zpow_neg, zpow_natCast,
      inv_mul_le_iff₀ hpow]
    push_cast
    rw [mul_comm (num : ℚ)]

/-- The number of places of a quotient: it lies between two powers of ten. -/
lemma places_spec {num den : ℕ} (hn : 0 < num) (hd : 0 < den) :
    (10 : ℚ) ^ (places num den - 1) ≤ (num : ℚ) / den ∧ (num : ℚ) / den < 10 ^ places num den := by
  have hden : (0 : ℚ) < den := by exact_mod_cast hd
  have hten : (10 : ℚ) ≠ 0 := by norm_num
  have hn0 := List.length_pos_iff.mpr (digitsOf_ne_nil num)
  have hd0 := List.length_pos_iff.mpr (digitsOf_ne_nil den)
  have hn1 : ((10 ^ ((digitsOf num).length - 1) : ℕ) : ℚ) ≤ num := by
    exact_mod_cast ten_pow_length_le hn
  have hn2 : (num : ℚ) < ((10 ^ (digitsOf num).length : ℕ) : ℚ) := by
    exact_mod_cast lt_ten_pow_length num
  have hd1 : ((10 ^ ((digitsOf den).length - 1) : ℕ) : ℚ) ≤ den := by
    exact_mod_cast ten_pow_length_le hd
  have hd2 : (den : ℚ) < ((10 ^ (digitsOf den).length : ℕ) : ℚ) := by
    exact_mod_cast lt_ten_pow_length den
  push_cast at hn1 hn2 hd1 hd2
  rw [places]
  set g : ℤ := ((digitsOf num).length : ℤ) - (digitsOf den).length with hg
  have hlow : (10 : ℚ) ^ (g - 1) ≤ (num : ℚ) / den := by
    rw [le_div_iff₀ hden]
    calc (10 : ℚ) ^ (g - 1) * den ≤ 10 ^ (g - 1) * 10 ^ (digitsOf den).length :=
          mul_le_mul_of_nonneg_left hd2.le (by positivity)
      _ = 10 ^ ((digitsOf num).length - 1) := by
          rw [← zpow_natCast, ← zpow_natCast, ← zpow_add₀ hten]
          congr 1
          omega
      _ ≤ num := hn1
  have hhigh : (num : ℚ) / den < 10 ^ (g + 1) := by
    rw [div_lt_iff₀ hden]
    calc (num : ℚ) < 10 ^ (digitsOf num).length := hn2
      _ = 10 ^ (g + 1) * 10 ^ ((digitsOf den).length - 1) := by
          rw [← zpow_natCast, ← zpow_natCast, ← zpow_add₀ hten]
          congr 1
          omega
      _ ≤ 10 ^ (g + 1) * den := mul_le_mul_of_nonneg_left hd1 (by positivity)
  have hreaches := reaches_iff num hd g
  by_cases h : (10 : ℚ) ^ g ≤ (num : ℚ) / den
  · rw [if_pos (hreaches.mpr h), add_sub_cancel_right]
    exact ⟨h, hhigh⟩
  · rw [if_neg fun hle => h (hreaches.mp hle)]
    exact ⟨hlow, not_le.mp h⟩

/-! ## The grid -/

/-- The distance of two multiples of `10 ^ s`, scaled to naturals. -/
def stepOf (den : ℕ) (s : ℤ) : ℕ := if 0 ≤ s then den * tenTo s.toNat else den

/-- A quotient on the scale of `stepOf`. -/
def targetOf (num : ℕ) (s : ℤ) : ℕ := if 0 ≤ s then num else num * tenTo (-s).toNat

/-- Whether a point of the grid lies in an interval around the target. -/
def inside (i : Interval) (step target k : ℕ) : Bool :=
  let point := k * step * i.value
  let down := target * (i.value - i.below)
  let up := target * (i.value + i.above)
  if i.closed then decide (down ≤ point ∧ point ≤ up) else decide (down < point ∧ point < up)

/-- Whether the point below the target is the better one. -/
def lowFirst (step target : ℕ) : Bool :=
  let low := target / step
  let a := distance (low * step) target
  let b := distance ((low + 1) * step) target
  decide (a < b) || (a == b && low % 2 == 0)

/-- The better one of the points next to the target that lie in its interval. -/
def pick (i : Interval) (step target : ℕ) : Option ℕ :=
  let low := target / step
  if lowFirst step target then
    if inside i step target low then some low
    else if inside i step target (low + 1) then some (low + 1) else none
  else
    if inside i step target (low + 1) then some (low + 1)
    else if inside i step target low then some low else none

/-- The candidate of a power of ten is picked from its grid. -/
lemma candidate?_eq (i : Interval) (num den : ℕ) (s : ℤ) :
    candidate? i num den s = pick i (stepOf den s) (targetOf num s) := by
  by_cases hs : 0 ≤ s
  · simp only [candidate?, stepOf, targetOf, hs, ↓reduceIte, Nat.mul_one]
    rfl
  · simp only [candidate?, stepOf, targetOf, hs, ↓reduceIte]
    rfl

/-- The step of a grid is positive. -/
lemma stepOf_pos {den : ℕ} (hd : 0 < den) (s : ℤ) : 0 < stepOf den s := by
  rw [stepOf]
  split
  · exact Nat.mul_pos hd (Nat.pow_pos (by omega))
  · exact hd

/-- The target of a positive quotient is positive. -/
lemma targetOf_pos {num : ℕ} (hn : 0 < num) (s : ℤ) : 0 < targetOf num s := by
  rw [targetOf]
  split
  · exact hn
  · exact Nat.mul_pos hn (Nat.pow_pos (by omega))

/-- On its grid a quotient is as many steps as it is powers of ten. -/
lemma target_div_step (num : ℕ) {den : ℕ} (hd : 0 < den) (s : ℤ) :
    (targetOf num s : ℚ) / stepOf den s = (num : ℚ) / den / 10 ^ s := by
  have hden : (den : ℚ) ≠ 0 := by exact_mod_cast hd.ne'
  rw [targetOf, stepOf]
  split
  · rename_i hs
    obtain ⟨k, rfl⟩ := Int.eq_ofNat_of_zero_le hs
    rw [tenTo_eq]
    push_cast
    simp [div_div]
  · rename_i hs
    obtain ⟨k, rfl⟩ : ∃ k : ℕ, s = -(k : ℤ) := ⟨(-s).toNat, by omega⟩
    rw [tenTo_eq]
    push_cast
    rw [neg_neg, Int.toNat_natCast, zpow_neg, zpow_natCast]
    field_simp

/-- A point of the grid is inside an interval if its number of quarters of the unit is. -/
lemma inside_iff (i : Interval) (step : ℕ) {target : ℕ} (ht : 0 < target) (k : ℕ) :
    inside i step target k = true ↔ i.Holds ((k : ℚ) * step * i.value / target) := by
  have htarget : (0 : ℚ) < target := by exact_mod_cast ht
  rw [inside, Interval.Holds]
  split
  · rw [decide_eq_true_iff, le_div_iff₀ htarget, div_le_iff₀ htarget, ← Nat.cast_le (α := ℚ),
      ← Nat.cast_le (α := ℚ)]
    push_cast
    rw [mul_comm (target : ℚ), mul_comm (target : ℚ)]
  · rw [decide_eq_true_iff, lt_div_iff₀ htarget, div_lt_iff₀ htarget, ← Nat.cast_lt (α := ℚ),
      ← Nat.cast_lt (α := ℚ)]
    push_cast
    rw [mul_comm (target : ℚ), mul_comm (target : ℚ)]

/-- What is picked is inside the interval. -/
lemma inside_of_pick {i : Interval} {step target k : ℕ} (h : pick i step target = some k) :
    inside i step target k = true := by
  rw [pick] at h
  repeat' split at h
  all_goals first
    | (obtain rfl := Option.some.inj h; assumption)
    | simp at h

/-- The better point is at most half a step from the target. -/
lemma two_mul_distance_le {step : ℕ} (hs : 0 < step) (target : ℕ) :
    2 * distance ((target / step + if lowFirst step target then 0 else 1) * step) target ≤
      step := by
  have hdiv : step * (target / step) + target % step = target := Nat.div_add_mod target step
  have hmod : target % step < step := Nat.mod_lt target hs
  have hlow : distance (target / step * step) target = target % step := by
    rw [distance, mul_comm]
    omega
  have hhigh : distance ((target / step + 1) * step) target = step - target % step := by
    rw [distance, add_mul, one_mul, mul_comm]
    omega
  by_cases hfirst : lowFirst step target = true
  · rw [if_pos hfirst, Nat.add_zero, hlow]
    rw [lowFirst] at hfirst
    simp only [hlow, hhigh, Bool.or_eq_true, decide_eq_true_iff, Bool.and_eq_true, beq_iff_eq]
      at hfirst
    omega
  · rw [if_neg hfirst, hhigh]
    rw [lowFirst] at hfirst
    simp only [hlow, hhigh, Bool.or_eq_true, decide_eq_true_iff, Bool.and_eq_true, beq_iff_eq,
      not_or, not_lt] at hfirst
    omega

/-- A point at most half a step from the target lies in an interval that is wide for the grid. -/
lemma inside_of_near {i : Interval} {step target k : ℕ} (hs : 0 < step)
    (hfine : step * 10 ^ 16 ≤ target) (hwide : i.value < 2 * 10 ^ 16 * i.below)
    (hbelow : i.below ≤ i.value) (habove : i.below ≤ i.above)
    (hnear : 2 * distance (k * step) target ≤ step) : inside i step target k = true := by
  have hgap : distance (k * step) target * i.value < target * i.below := by
    have h1 : 2 * (distance (k * step) target * i.value) ≤ step * i.value := by
      rw [← mul_assoc]
      exact Nat.mul_le_mul_right _ hnear
    have h2 : step * i.value < step * (2 * 10 ^ 16 * i.below) := Nat.mul_lt_mul_of_pos_left hwide hs
    have h3 : step * (2 * 10 ^ 16 * i.below) = 2 * (step * 10 ^ 16 * i.below) := by ring
    have h4 : step * 10 ^ 16 * i.below ≤ target * i.below := Nat.mul_le_mul_right _ hfine
    omega
  have hdown : target * (i.value - i.below) < k * step * i.value := by
    rw [Nat.mul_sub]
    have hdist : target ≤ k * step + distance (k * step) target := by
      rw [distance]
      omega
    have hmul := Nat.mul_le_mul_right i.value hdist
    rw [Nat.add_mul] at hmul
    have hle : target * i.below ≤ target * i.value := Nat.mul_le_mul_left _ hbelow
    omega
  have hup : k * step * i.value < target * (i.value + i.above) := by
    rw [Nat.mul_add]
    have hdist : k * step ≤ target + distance (k * step) target := by
      rw [distance]
      omega
    have hmul := Nat.mul_le_mul_right i.value hdist
    rw [Nat.add_mul] at hmul
    have hle : target * i.below ≤ target * i.above := Nat.mul_le_mul_left _ habove
    omega
  rw [inside]
  split
  · exact decide_eq_true ⟨hdown.le, hup.le⟩
  · exact decide_eq_true ⟨hdown, hup⟩

/-- **A fine grid has a point in an interval** that is wide for it: the better one of the two points
next to the target. -/
lemma isSome_pick {i : Interval} {step target : ℕ} (hs : 0 < step) (hfine : step * 10 ^ 16 ≤ target)
    (hwide : i.value < 2 * 10 ^ 16 * i.below) (hbelow : i.below ≤ i.value)
    (habove : i.below ≤ i.above) : (pick i step target).isSome = true := by
  have hnear := two_mul_distance_le hs target
  have hinside := inside_of_near hs hfine hwide hbelow habove hnear
  rw [pick]
  by_cases hfirst : lowFirst step target = true
  · rw [if_pos hfirst, Nat.add_zero] at hinside
    rw [if_pos hfirst, if_pos hinside]
    rfl
  · rw [if_neg hfirst] at hinside
    rw [if_neg hfirst, if_pos hinside]
    rfl

/-! ## The shortest digits -/

/-- The interval of a positive rank is wide for decimals of seventeen digits. -/
lemma interval_wide {rank : ℕ} (h0 : 0 < rank) :
    (interval rank).value < 2 * 10 ^ 16 * (interval rank).below ∧
      (interval rank).below ≤ (interval rank).value ∧
      (interval rank).below ≤ (interval rank).above := by
  have hpos := Binary64.significand_pos h0
  have hlt := Binary64.significand_lt rank
  rw [interval]
  dsimp only
  split
  · rename_i h
    rw [h.1, twoTo_eq]
    omega
  · omega

/-- A candidate lies around the rank. -/
lemma around_of_candidate {rank num den : ℕ} (h0 : 0 < rank) (hn : 0 < num) (hd : 0 < den)
    (hvalue : (num : ℚ) / den = Binary64.value rank) {s : ℤ} {k : ℕ}
    (h : candidate? (interval rank) num den s = some k) :
    Binary64.Around rank ((k : ℚ) * 10 ^ s) := by
  rw [candidate?_eq] at h
  have hinside := (inside_iff _ _ (targetOf_pos hn s) k).mp (inside_of_pick h)
  have hratio := target_div_step num hd s
  have htarget : (targetOf num s : ℚ) ≠ 0 := by exact_mod_cast (targetOf_pos hn s).ne'
  have hstep : (stepOf den s : ℚ) ≠ 0 := by exact_mod_cast (stepOf_pos hd s).ne'
  have hm : (Binary64.significand rank : ℚ) ≠ 0 := by
    exact_mod_cast (Binary64.significand_pos h0).ne'
  have hten : (10 : ℚ) ^ s ≠ 0 := by positivity
  have htwo : (2 : ℚ) ^ Binary64.exponent rank ≠ 0 := by positivity
  rw [hvalue, Binary64.value, div_eq_div_iff hstep hten] at hratio
  have hvalue4 : ((interval rank).value : ℚ) = 4 * Binary64.significand rank := by
    rw [interval]
    push_cast
    ring
  rw [Binary64.Around]
  convert hinside using 1
  rw [hvalue4]
  field_simp
  linear_combination (k : ℚ) * hratio

/-- A decimal of seventeen digits is a candidate. -/
lemma isSome_candidate {rank num den : ℕ} (h0 : 0 < rank) (hn : 0 < num) (hd : 0 < den) :
    (candidate? (interval rank) num den (places num den - 17)).isSome = true := by
  obtain ⟨hwide, hbelow, habove⟩ := interval_wide h0
  have hden : (0 : ℚ) < den := by exact_mod_cast hd
  rw [candidate?_eq]
  refine isSome_pick (stepOf_pos hd _) ?_ hwide hbelow habove
  have hstep : (0 : ℚ) < stepOf den (places num den - 17) := by exact_mod_cast stepOf_pos hd _
  have hratio := target_div_step num hd (places num den - 17)
  have hplaces := (places_spec hn hd).1
  have hfine : (10 : ℚ) ^ 16 ≤ (targetOf num (places num den - 17) : ℚ) /
      stepOf den (places num den - 17) := by
    have hexp : ((16 : ℕ) : ℤ) + (places num den - 17) = places num den - 1 := by
      push_cast
      ring
    rw [hratio, le_div_iff₀ (by positivity), ← zpow_natCast, ← zpow_add₀ (by norm_num), hexp]
    exact hplaces
  rw [le_div_iff₀ hstep] at hfine
  have : ((stepOf den (places num den - 17) * 10 ^ 16 : ℕ) : ℚ) ≤
      (targetOf num (places num den - 17) : ℕ) := by
    push_cast
    linarith
  exact_mod_cast this

/-- Moving zeros from the coefficient of a decimal to its power of ten leaves its value. -/
lemma toRat_trailing (k : ℕ) (s : ℤ) :
    (⟨k / tenTo (trailingZeros k), s + trailingZeros k⟩ : Decimal).toRat = (k : ℚ) * 10 ^ s := by
  obtain ⟨q, hq⟩ := ten_pow_dvd_of_trailing k
  have hdiv : k / tenTo (trailingZeros k) = q := by
    rw [tenTo_eq]
    exact Nat.div_eq_of_eq_mul_right (Nat.pow_pos (by omega)) hq
  rw [Decimal.toRat]
  dsimp only
  rw [hdiv, zpow_add₀ (by norm_num), zpow_natCast]
  have hcast : (k : ℚ) = 10 ^ trailingZeros k * q := by exact_mod_cast hq
  rw [hcast]
  ring

/-- **The shortest digits of a positive magnitude** lie around its rank, and are not zero.

**Proof sketch.** The search tries one to seventeen digits, and finds a candidate for seventeen at
the latest. Every candidate lies in the interval of the rank, and its zeros at the end do not
count. -/
theorem digits_spec {rank : ℕ} (h0 : 0 < rank) :
    0 < (digits rank).coefficient ∧ Binary64.Around rank (digits rank).toRat := by
  have hd : 0 < (Binary64.magnitude rank).2 := Binary64.scaled_pos _ _
  have hvalue := Binary64.magnitude_ratio rank
  have hn : 0 < (Binary64.magnitude rank).1 := by
    have hpos : (0 : ℚ) < Binary64.value rank := by
      have hm : (0 : ℚ) < Binary64.significand rank := by
        exact_mod_cast Binary64.significand_pos h0
      rw [Binary64.value]
      positivity
    rw [← hvalue] at hpos
    have hden : (0 : ℚ) < (Binary64.magnitude rank).2 := by exact_mod_cast hd
    exact_mod_cast (div_pos_iff_of_pos_right hden).mp hpos
  rw [digits]
  dsimp only
  generalize (Binary64.magnitude rank).1 = num at *
  generalize (Binary64.magnitude rank).2 = den at *
  have hsome : ((List.range 17).findSome? fun n : ℕ =>
      (candidate? (interval rank) num den (places num den - (n + 1))).map fun k =>
        (⟨k, places num den - (n + 1)⟩ : Decimal)).isSome = true := by
    rw [List.findSome?_isSome_iff]
    refine ⟨16, by simp, ?_⟩
    rw [Option.isSome_map]
    exact isSome_candidate h0 hn hd
  obtain ⟨d, hfound⟩ := Option.isSome_iff_exists.mp hsome
  obtain ⟨n, -, hmap⟩ := List.exists_of_findSome?_eq_some hfound
  obtain ⟨k, hk, rfl⟩ := Option.map_eq_some_iff.mp hmap
  have haround := around_of_candidate h0 hn hd hvalue hk
  have htrailing := toRat_trailing k (places num den - (n + 1))
  rw [trailingZeros] at htrailing
  rw [hfound, Option.getD_some, htrailing]
  refine ⟨?_, haround⟩
  have hpos := Binary64.pos_of_around h0 haround
  rw [← htrailing, Decimal.toRat] at hpos
  have hcoeff := (mul_pos_iff_of_pos_right (by positivity)).mp hpos
  exact_mod_cast hcoeff

end StagedQuery.Shortest
