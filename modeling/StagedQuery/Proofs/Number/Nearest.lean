import Mathlib.Order.Monotone.Basic
import StagedQuery.Proofs.Number.Rounding

set_option relaxedAutoImplicit false
set_option autoImplicit false

/-!
# The nearest floating-point number

Every quotient rounds to a rank around which it lies, and that is a nearest one, with an even factor
if there are two. The rank is one of a finite number exactly below the point halfway between the
greatest finite number and the next power of two: from there on a decimal is read as infinite.

## Main definitions

* `Binary64.overflow` — the least magnitude that is read as infinite.
* `Binary64.IsNearest` — the rank of a nearest magnitude, ties to even.

## Main results

* `Binary64.around_roundRank` — a quotient lies around the rank that it rounds to.
* `Binary64.lt_rankLimit_iff_of_around` — which magnitudes lie around the rank of a finite number.
* `Binary64.isNearest_of_around` — **a rank around which a magnitude lies is a nearest one.**
* `Binary64.ofDecimal_infinite`, `Binary64.exists_nearest` — how a decimal is read.
-/

namespace StagedQuery

namespace Binary64

/-! ## Magnitudes in order -/

/-- The next magnitude is one unit greater. -/
lemma value_succ (rank : ℕ) : value (rank + 1) = value rank + 2 ^ exponent rank := by
  have hstep : exponent (rank + 1) = exponent rank ∧
        significand (rank + 1) = significand rank + 1 ∨
      exponent (rank + 1) = exponent rank + 1 ∧ significand (rank + 1) = 2 ^ 52 ∧
        significand rank + 1 = 2 ^ 53 := by
    rw [exponent, exponent, significand, significand, twoTo_eq]
    split <;> split <;> omega
  rw [value, value]
  rcases hstep with ⟨hexp, hsig⟩ | ⟨hexp, hfirst, hlast⟩
  · rw [hexp, hsig]
    push_cast
    ring
  · have hsig : (significand rank : ℚ) + 1 = 2 ^ 53 := by exact_mod_cast hlast
    rw [hexp, hfirst, zpow_add₀ (by norm_num), zpow_one, ← add_one_mul, hsig]
    push_cast
    ring

/-- The magnitudes are in the order of their ranks. -/
lemma value_strictMono : StrictMono value := by
  refine strictMono_nat_of_lt_succ fun rank => ?_
  have hunit : (0 : ℚ) < 2 ^ exponent rank := by positivity
  rw [value_succ]
  linarith

/-- The unit of the rank below is half of the unit if the rank is the first of its block, and else
the same. -/
lemma exponent_pred {rank : ℕ} (h0 : 0 < rank) :
    (2 : ℚ) ^ exponent (rank - 1) =
      (if significand rank = 2 ^ 52 ∧ exponent rank ≠ -1074 then 1 / 2 else 1) *
        2 ^ exponent rank := by
  have hpred : exponent (rank - 1) =
      if significand rank = 2 ^ 52 ∧ exponent rank ≠ -1074 then exponent rank - 1
      else exponent rank := by
    rw [exponent, significand, exponent, twoTo_eq]
    split <;> split <;> split <;> omega
  rw [hpred]
  split
  · rw [zpow_sub₀ (by norm_num), zpow_one]
    ring
  · rw [one_mul]

/-! ## What lies around a rank -/

/-- What is at most half a unit away from the magnitude of a rank, or a quarter of one below the
first of its block, lies around the rank, if the ends do not matter. -/
lemma around_of_bounds {rank : ℕ} {v : ℚ} (h0 : 0 ≤ v)
    (hlow : (significand rank : ℚ) -
      (if significand rank = 2 ^ 52 ∧ exponent rank ≠ -1074 then 1 / 4 else 1 / 2) ≤
        v / 2 ^ exponent rank)
    (hhigh : v / 2 ^ exponent rank ≤ significand rank + 1 / 2)
    (hodd : significand rank % 2 = 1 → (significand rank : ℚ) - 1 / 2 < v / 2 ^ exponent rank ∧
      v / 2 ^ exponent rank < significand rank + 1 / 2) : Around rank v := by
  have hfirst : (significand rank = twoTo 52 ∧ twoTo 53 ≤ rank) ↔
      (significand rank = 2 ^ 52 ∧ exponent rank ≠ -1074) := by
    rw [exponent, significand, twoTo_eq, twoTo_eq]
    split <;> omega
  have hpos : 0 ≤ v / 2 ^ exponent rank := by positivity
  rw [Around, Shortest.interval, Shortest.Interval.Holds]
  simp only [hfirst, beq_iff_eq]
  generalize v / 2 ^ exponent rank = x at hlow hhigh hodd hpos ⊢
  generalize significand rank = m at hlow hhigh hodd ⊢
  by_cases hedge : m = 2 ^ 52 ∧ exponent rank ≠ -1074
  · have hone : ((4 * m - 1 : ℕ) : ℚ) = 4 * m - 1 := by
      rw [Nat.cast_sub (by omega)]
      push_cast
      ring
    rw [if_pos hedge] at hlow
    rw [if_pos hedge, if_pos (by omega), hone]
    push_cast
    exact ⟨by linarith, by linarith⟩
  · rw [if_neg hedge] at hlow
    rw [if_neg hedge]
    rcases Nat.eq_zero_or_pos m with rfl | hm
    · rw [if_pos rfl]
      norm_num at hhigh ⊢
      exact ⟨hpos, by linarith⟩
    · have htwo : ((4 * m - 2 : ℕ) : ℚ) = 4 * m - 2 := by
        rw [Nat.cast_sub (by omega)]
        push_cast
        ring
      rw [htwo]
      push_cast
      split
      · exact ⟨by linarith, by linarith⟩
      · obtain ⟨hbelow, habove⟩ := hodd (by omega)
        exact ⟨by linarith, by linarith⟩

/-- Around zero lies what is at most half of the least unit. -/
lemma around_zero_iff {v : ℚ} : Around 0 v ↔ 0 ≤ v ∧ v ≤ 2 ^ (-1075 : ℤ) := by
  have hhalf : (2 : ℚ) ^ (-1075 : ℤ) = 2 ^ (-1074 : ℤ) / 2 := by
    rw [show (-1075 : ℤ) = -1074 - 1 by norm_num, zpow_sub₀ (by norm_num), zpow_one]
  have hunit : (0 : ℚ) < 2 ^ (-1074 : ℤ) := by positivity
  have hzero : Shortest.interval 0 = ⟨0, 2, 2, true⟩ := rfl
  rw [Around, hzero, Shortest.Interval.Holds, if_pos rfl, show exponent 0 = -1074 from rfl, hhalf]
  generalize (2 : ℚ) ^ (-1074 : ℤ) = unit at hunit
  rw [← mul_div_assoc, le_div_iff₀ hunit, div_le_iff₀ hunit]
  push_cast
  constructor <;> rintro ⟨h1, h2⟩ <;> exact ⟨by linarith, by linarith⟩

/-- A unit and the number of units make a rank. -/
lemma exponent_significand_of {e : ℤ} {m : ℕ} (he : -1074 ≤ e) (hm : m < 2 ^ 53)
    (hnormal : e = -1074 ∨ 2 ^ 52 ≤ m) :
    exponent ((e + 1074).toNat * twoTo 52 + m) = e ∧
      significand ((e + 1074).toNat * twoTo 52 + m) = m := by
  rw [exponent, significand, twoTo_eq]
  split <;> omega

/-- The number of units that a quotient holds. -/
lemma unitExponent_units {num den : ℕ} (hn : 0 < num) (hd : 0 < den) :
    (num : ℚ) / den / 2 ^ unitExponent num den < 2 ^ 53 ∧
      (unitExponent num den = -1074 ∨
        (2 : ℚ) ^ 52 ≤ (num : ℚ) / den / 2 ^ unitExponent num den) := by
  obtain ⟨-, hupper, hlower⟩ := unitExponent_spec hn hd
  have htwo : (2 : ℚ) ≠ 0 := by norm_num
  have hunit : (0 : ℚ) < 2 ^ unitExponent num den := by positivity
  constructor
  · rw [div_lt_iff₀ hunit, ← zpow_natCast, ← zpow_add₀ htwo, add_comm]
    exact hupper
  · refine hlower.imp id fun h => ?_
    rw [le_div_iff₀ hunit, ← zpow_natCast, ← zpow_add₀ htwo, add_comm]
    exact h

section Units

variable {e : ℤ} {m : ℕ} {v : ℚ}

/-- What holds a number of units, rounded, lies around the rank of these. -/
lemma around_of_units (he : -1074 ≤ e) (hv : 0 ≤ v) (hm : m < 2 ^ 53)
    (hnormal : e = -1074 ∨ (2 : ℚ) ^ 52 ≤ v / 2 ^ e) (h : RoundsTo m (v / 2 ^ e)) :
    Around ((e + 1074).toNat * twoTo 52 + m) v := by
  have hfactor : e = -1074 ∨ 2 ^ 52 ≤ m :=
    hnormal.imp id fun hge => h.ge (by exact_mod_cast hge)
  obtain ⟨hexp, hsig⟩ := exponent_significand_of he hm hfactor
  refine around_of_bounds hv ?_ ?_ ?_
  · rw [hexp, hsig]
    split
    · next hfirst =>
      have hge := hnormal.resolve_left hfirst.2
      rw [hfirst.1]
      push_cast
      linarith
    · exact h.low
  · rw [hexp, hsig]
    exact h.high
  · rw [hexp, hsig]
    exact h.odd

/-- What almost holds `2 ^ 53` units lies around the first rank of the next block. -/
lemma around_of_nextBlock (he : -1074 ≤ e) (hv : 0 ≤ v) (hm : m = 2 ^ 53)
    (hx : v / 2 ^ e < 2 ^ 53) (h : RoundsTo m (v / 2 ^ e)) :
    Around ((e + 1074).toNat * twoTo 52 + m) v := by
  have hrank : (e + 1074).toNat * twoTo 52 + m = (e + 1 + 1074).toNat * twoTo 52 + 2 ^ 52 := by
    rw [twoTo_eq]
    omega
  have hlt : (2 : ℕ) ^ 52 < 2 ^ 53 := by norm_num
  have hparts := exponent_significand_of (show -1074 ≤ e + 1 by omega) hlt (.inr le_rfl)
  have hlow := h.low
  have hdouble : v / 2 ^ (e + 1) = v / 2 ^ e / 2 := by
    rw [zpow_add₀ (by norm_num), zpow_one, div_div]
  rw [hrank]
  -- The powers of two are kept from being computed.
  generalize (e + 1 + 1074).toNat * twoTo 52 + 2 ^ 52 = rank at hparts ⊢
  obtain ⟨hexp, hsig⟩ := hparts
  rw [hm] at hlow
  push_cast at hlow
  refine around_of_bounds hv ?_ ?_ fun hodd => ?_
  · rw [hexp, hsig, if_pos ⟨rfl, by omega⟩, hdouble]
    push_cast
    linarith
  · rw [hexp, hsig, hdouble]
    push_cast
    linarith
  · rw [hsig] at hodd
    norm_num at hodd

end Units

/-- **A quotient lies around the rank that it rounds to.**

**Proof sketch.** The unit of the quotient is that of the rank, and the number of units is rounded
to its factor. Only if that is rounded up to `2 ^ 53`, the rank is the first of the next block. -/
theorem around_roundRank {num den : ℕ} (hn : 0 < num) (hd : 0 < den) :
    Around (roundRank num den) ((num : ℚ) / den) := by
  have he := (unitExponent_spec hn hd).1
  obtain ⟨hx, hnormal⟩ := unitExponent_units hn hd
  have hv : (0 : ℚ) ≤ (num : ℚ) / den := by positivity
  have hrounds := roundDiv_spec (scaled num (-unitExponent num den)).1
    (Nat.mul_pos (scaled_pos num (-unitExponent num den)) hd)
  rw [scaled_neg_ratio] at hrounds
  rw [roundRank]
  dsimp only
  generalize roundDiv _ _ = m at hrounds ⊢
  rcases Nat.lt_or_eq_of_le (hrounds.le (k := 2 ^ 53) (by exact_mod_cast hx)) with hlt | hm
  · exact around_of_units he hv hlt hnormal hrounds
  · exact around_of_nextBlock he hv hm hx hrounds

/-! ## Overflow -/

/-- The point halfway between the greatest finite magnitude and the next power of two. -/
def overflow : ℚ := 2 ^ 1024 - 2 ^ 970

/-- It is half a unit above the greatest finite magnitude. -/
lemma overflow_eq : overflow = (2 ^ 53 - 1 / 2) * 2 ^ (971 : ℤ) := by
  have hhigh : (2 : ℚ) ^ 1024 = 2 ^ 53 * 2 ^ 971 := by rw [← pow_add]
  have hlow : (2 : ℚ) ^ 971 = 2 * 2 ^ 970 := by rw [← pow_succ']
  rw [overflow, show (971 : ℤ) = ((971 : ℕ) : ℤ) from rfl, zpow_natCast, hhigh, hlow]
  generalize (2 : ℚ) ^ 970 = unit
  ring

section Overflow

variable {rank : ℕ} {v : ℚ}

/-- What lies around the rank of a finite number is below the point of overflow. -/
lemma lt_overflow_of_around (h0 : 0 < rank) (h : Around rank v) (hlt : rank < rankLimit) :
    v < overflow := by
  obtain ⟨-, hhigh, hodd⟩ := bounds_of_around h0 h
  have hunit : (0 : ℚ) < 2 ^ exponent rank := by positivity
  have hm : significand rank < 2 ^ 53 := significand_lt rank
  have hexp : exponent rank ≤ 971 := by
    rw [rankLimit, twoTo_eq] at hlt
    rw [exponent, twoTo_eq]
    split <;> omega
  have hv : v / 2 ^ exponent rank < 2 ^ 53 - 1 / 2 := by
    rcases Nat.lt_or_ge (significand rank + 1) (2 ^ 53) with hsmall | hlast
    · have hm' : (significand rank : ℚ) + 1 + 1 ≤ 2 ^ 53 := by exact_mod_cast hsmall
      linarith
    · have hm' : (significand rank : ℚ) + 1 = 2 ^ 53 := by
        exact_mod_cast le_antisymm (Nat.succ_le_of_lt hm) hlast
      linarith [(hodd (by omega)).2]
  rw [overflow_eq]
  calc v < (2 ^ 53 - 1 / 2) * 2 ^ exponent rank := (div_lt_iff₀ hunit).mp hv
    _ ≤ (2 ^ 53 - 1 / 2) * 2 ^ (971 : ℤ) :=
        mul_le_mul_of_nonneg_left (zpow_le_zpow_right₀ (by norm_num) hexp) (by norm_num)

/-- What lies around any other rank is not. -/
lemma overflow_le_of_around (h0 : 0 < rank) (h : Around rank v) (hge : rankLimit ≤ rank) :
    overflow ≤ v := by
  obtain ⟨hlow, -, -⟩ := bounds_of_around h0 h
  have hunit : (0 : ℚ) < 2 ^ exponent rank := by positivity
  have hexp : 972 ≤ exponent rank := by
    rw [rankLimit, twoTo_eq] at hge
    rw [exponent, twoTo_eq]
    split <;> omega
  have hv : 2 ^ 52 - 1 / 4 ≤ v / 2 ^ exponent rank := by
    refine le_trans ?_ hlow
    split
    · next hfirst =>
      rw [hfirst.1]
      push_cast
      exact le_rfl
    · next hother =>
      have hm : ((2 ^ 52 + 1 : ℕ) : ℚ) ≤ significand rank := by
        have hne : significand rank ≠ 2 ^ 52 := fun h => hother ⟨h, by omega⟩
        have hfactor := le_significand (show exponent rank ≠ -1074 by omega)
        exact_mod_cast Nat.succ_le_of_lt (lt_of_le_of_ne hfactor hne.symm)
      push_cast at hm
      linarith
  rw [overflow_eq]
  calc (2 ^ 53 - 1 / 2) * (2 : ℚ) ^ (971 : ℤ) = (2 ^ 52 - 1 / 4) * 2 ^ (972 : ℤ) := by
        rw [show (972 : ℤ) = 971 + 1 by norm_num, zpow_add₀ (by norm_num), zpow_one]
        ring
    _ ≤ (2 ^ 52 - 1 / 4) * 2 ^ exponent rank :=
        mul_le_mul_of_nonneg_left (zpow_le_zpow_right₀ (by norm_num) hexp) (by norm_num)
    _ ≤ v := (le_div_iff₀ hunit).mp hv

/-- **A rank is that of a finite number** exactly if what lies around it is below the point of
overflow. -/
theorem lt_rankLimit_iff_of_around (h0 : 0 < rank) (h : Around rank v) :
    rank < rankLimit ↔ v < overflow := by
  refine ⟨lt_overflow_of_around h0 h, fun hlt => ?_⟩
  by_contra hge
  exact absurd hlt (not_lt.mpr (overflow_le_of_around h0 h (not_lt.mp hge)))

end Overflow

/-- The point of overflow is above half of the least unit. -/
lemma lt_overflow_of_le {v : ℚ} (h : v ≤ 2 ^ (-1075 : ℤ)) : v < overflow := by
  have hone : (2 : ℚ) ^ (-1075 : ℤ) ≤ 1 := zpow_le_one_of_nonpos₀ (by norm_num) (by norm_num)
  have hpow : (1 : ℚ) ≤ 2 ^ (971 : ℤ) := one_le_zpow₀ (by norm_num) (by norm_num)
  rw [overflow_eq]
  generalize (2 : ℚ) ^ (-1075 : ℤ) = least at h hone
  generalize (2 : ℚ) ^ (971 : ℤ) = greatest at hpow
  linarith

/-- **Which quotients round to a finite number.** -/
theorem roundRank_lt_iff {num den : ℕ} (hn : 0 < num) (hd : 0 < den) :
    roundRank num den < rankLimit ↔ (num : ℚ) / den < overflow := by
  have haround := around_roundRank hn hd
  rcases Nat.eq_zero_or_pos (roundRank num den) with hzero | hpos
  · rw [hzero] at haround ⊢
    exact ⟨fun _ => lt_overflow_of_le (around_zero_iff.mp haround).2, fun _ => by decide⟩
  · exact lt_rankLimit_iff_of_around hpos haround

/-! ## Nearest ranks -/

/-- The rank of a magnitude to which no other one is nearer, and the even one of two that are
equally near. -/
def IsNearest (rank : ℕ) (v : ℚ) : Prop :=
  ∀ other, |value rank - v| ≤ |value other - v| ∧
    (other ≠ rank → |value rank - v| = |value other - v| → significand rank % 2 = 0)

/-- What lies around a rank is at most in the middle of the gap above it, and below that if the
factor is odd. -/
lemma le_middle_of_around {rank : ℕ} {v : ℚ} (h : Around rank v) :
    v ≤ value rank + 2 ^ exponent rank / 2 ∧
      (significand rank % 2 = 1 → v < value rank + 2 ^ exponent rank / 2) := by
  rcases Nat.eq_zero_or_pos rank with rfl | h0
  · have hzero : value 0 + 2 ^ exponent 0 / 2 = 2 ^ (-1075 : ℤ) := by
      rw [value, show exponent 0 = -1074 from rfl, show significand 0 = 0 from rfl,
        show (-1075 : ℤ) = -1074 - 1 by norm_num, zpow_sub₀ (by norm_num), zpow_one]
      simp
    rw [hzero]
    exact ⟨(around_zero_iff.mp h).2, fun hodd => by cases hodd⟩
  · obtain ⟨-, hhigh, hodd⟩ := bounds_of_around h0 h
    have hunit : (0 : ℚ) < 2 ^ exponent rank := by positivity
    have hmiddle : value rank + 2 ^ exponent rank / 2 =
        (significand rank + 1 / 2) * 2 ^ exponent rank := by
      rw [value]
      ring
    rw [hmiddle]
    exact ⟨(div_le_iff₀ hunit).mp hhigh, fun h1 => (div_lt_iff₀ hunit).mp (hodd h1).2⟩

/-- What lies around a rank is at least in the middle of the gap below it, and above that if the
factor is odd. -/
lemma middle_le_of_around {rank : ℕ} (h0 : 0 < rank) {v : ℚ} (h : Around rank v) :
    value rank - 2 ^ exponent (rank - 1) / 2 ≤ v ∧
      (significand rank % 2 = 1 → value rank - 2 ^ exponent (rank - 1) / 2 < v) := by
  obtain ⟨hlow, -, hodd⟩ := bounds_of_around h0 h
  have hunit : (0 : ℚ) < 2 ^ exponent rank := by positivity
  have hmiddle : value rank - 2 ^ exponent (rank - 1) / 2 =
      (significand rank - (if significand rank = 2 ^ 52 ∧ exponent rank ≠ -1074 then 1 / 4
        else 1 / 2)) * 2 ^ exponent rank := by
    rw [exponent_pred h0, value]
    split <;> ring
  rw [hmiddle]
  refine ⟨(le_div_iff₀ hunit).mp hlow, fun h1 => ?_⟩
  rw [if_neg (by omega)]
  exact (lt_div_iff₀ hunit).mp (hodd h1).1

/-- **A rank around which a magnitude lies is a nearest one.**

**Proof sketch.** What lies around a rank lies between the middles of the gaps to its neighbours,
and all other magnitudes are beyond these gaps. -/
theorem isNearest_of_around {rank : ℕ} {v : ℚ} (h : Around rank v) : IsNearest rank v := by
  intro other
  have hparity := Nat.mod_two_eq_zero_or_one (significand rank)
  rcases lt_trichotomy other rank with hlt | rfl | hgt
  · obtain ⟨hmiddle, hodd⟩ := middle_le_of_around (by omega) h
    have hstep := value_succ (rank - 1)
    rw [Nat.sub_add_cancel (by omega)] at hstep
    have hother : value other ≤ value (rank - 1) := value_strictMono.monotone (by omega)
    have hless : value other < value rank := value_strictMono hlt
    have hfar : v - value other ≤ |value other - v| := by
      rw [abs_sub_comm]
      exact le_abs_self _
    refine ⟨le_trans (abs_le.mpr ⟨by linarith, by linarith⟩) hfar, fun _ heq => ?_⟩
    refine hparity.resolve_right fun h1 => ?_
    have hstrict := hodd h1
    exact absurd heq (lt_of_lt_of_le (abs_lt.mpr ⟨by linarith, by linarith⟩) hfar).ne
  · exact ⟨le_rfl, fun hne => absurd rfl hne⟩
  · obtain ⟨hmiddle, hodd⟩ := le_middle_of_around h
    have hstep := value_succ rank
    have hother : value (rank + 1) ≤ value other := value_strictMono.monotone hgt
    have hless : value rank < value other := value_strictMono hgt
    have hfar : value other - v ≤ |value other - v| := le_abs_self _
    refine ⟨le_trans (abs_le.mpr ⟨by linarith, by linarith⟩) hfar, fun _ heq => ?_⟩
    refine hparity.resolve_right fun h1 => ?_
    have hstrict := hodd h1
    exact absurd heq (lt_of_lt_of_le (abs_lt.mpr ⟨by linarith, by linarith⟩) hfar).ne

/-! ## Decimals -/

/-- **From the point of overflow on a decimal is read as infinite.** -/
theorem ofDecimal_infinite {d : Decimal} (h : overflow ≤ d.toRat) (negative : Bool) :
    ofDecimal negative d = infinite negative := by
  have hd : 0 < d.coefficient := by
    refine Nat.pos_of_ne_zero fun hzero => ?_
    have hsmall : d.toRat ≤ 2 ^ (-1075 : ℤ) := by
      rw [Decimal.toRat, hzero, Nat.cast_zero, zero_mul]
      positivity
    exact absurd h (not_le.mpr (lt_overflow_of_le hsmall))
  by_cases hleft : 310 < ((digitsOf d.coefficient).length : ℤ) + d.exponent
  · rw [ofDecimal, if_neg hd.ne', if_pos hleft]
  · have hright : ¬((digitsOf d.coefficient).length : ℤ) + d.exponent < -324 := fun hplaces =>
      absurd h (not_le.mpr (lt_overflow_of_le (d.toRat_lt_of_places hd hplaces).le))
    obtain ⟨num, den, hnum, hden, hratio, hread⟩ := d.exists_quotient hd hleft hright
    have hbeyond : ¬roundRank num den < rankLimit := by
      rw [roundRank_lt_iff hnum hden, hratio, not_lt]
      exact h
    rw [hread, ofQuotient, ofRank, dif_neg hbeyond]

/-- **Below the point of overflow a decimal is read as the nearest finite number.** -/
theorem exists_nearest {d : Decimal} (h : d.toRat < overflow) (negative : Bool) :
    ∃ rank : Fin rankLimit, ofDecimal negative d = finite negative rank ∧
      IsNearest rank d.toRat := by
  have hnonneg : 0 ≤ d.toRat := by
    rw [Decimal.toRat]
    positivity
  have hsmall : d.toRat ≤ 2 ^ (-1075 : ℤ) → IsNearest 0 d.toRat := fun hle =>
    isNearest_of_around (around_zero_iff.mpr ⟨hnonneg, hle⟩)
  rcases Nat.eq_zero_or_pos d.coefficient with hzero | hd
  · refine ⟨⟨0, by decide⟩, by rw [ofDecimal, if_pos hzero, zero], hsmall ?_⟩
    rw [Decimal.toRat, hzero, Nat.cast_zero, zero_mul]
    positivity
  have hleft : ¬310 < ((digitsOf d.coefficient).length : ℤ) + d.exponent := by
    intro hplaces
    have hlimit : overflow < 2 ^ (1024 : ℤ) := by
      rw [overflow, show (1024 : ℤ) = ((1024 : ℕ) : ℤ) from rfl, zpow_natCast]
      exact sub_lt_self _ (by positivity)
    exact absurd (h.trans (hlimit.trans (d.lt_toRat_of_places hd hplaces))) (lt_irrefl _)
  by_cases hright : ((digitsOf d.coefficient).length : ℤ) + d.exponent < -324
  · refine ⟨⟨0, by decide⟩, ?_, hsmall (d.toRat_lt_of_places hd hright).le⟩
    rw [ofDecimal, if_neg hd.ne', if_neg hleft, if_pos hright, zero]
  · obtain ⟨num, den, hnum, hden, hratio, hread⟩ := d.exists_quotient hd hleft hright
    have hlimit : roundRank num den < rankLimit := by
      rw [roundRank_lt_iff hnum hden, hratio]
      exact h
    refine ⟨⟨roundRank num den, hlimit⟩, ?_, ?_⟩
    · rw [hread, ofQuotient, ofRank, dif_pos hlimit]
    · rw [← hratio]
      exact isNearest_of_around (around_roundRank hnum hden)

end Binary64

end StagedQuery
