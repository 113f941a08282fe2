import Mathlib.Algebra.Order.Field.Power
import Mathlib.Tactic.FieldSimp
import Mathlib.Tactic.Linarith
import Mathlib.Tactic.NormNum
import Mathlib.Tactic.Positivity
import Mathlib.Tactic.Ring
import StagedQuery.Number.Shortest
import StagedQuery.Proofs.Number.Digits

set_option relaxedAutoImplicit false
set_option autoImplicit false

/-!
# Rounding to the nearest floating-point number

Which quotients round to the magnitude of a rank: those in an interval around it, measured in
quarters of its unit. The interval of the shortest text of a number is therefore the right one, and
a decimal inside it is read as that number.

## Main definitions

* `Binary64.value` — the magnitude of a rank as a rational number.
* `Shortest.Interval.Holds` — membership in an interval, in quarters of the unit.
* `Binary64.RoundsTo` — the natural to which a rational number rounds.
* `Binary64.Around` — the rational numbers in the interval of a rank.

## Main results

* `Binary64.unitExponent_unique` — the unit of a quotient.
* `Binary64.roundDiv_spec`, `Binary64.roundDiv_eq` — rounding to naturals.
* `Binary64.roundRank_eq` — **a quotient around a rank** rounds to it.
* `Binary64.ofDecimal_eq` — a decimal around a rank is read as the number of that rank.
-/

namespace StagedQuery

/-- The powers of two. -/
lemma twoTo_eq (n : ℕ) : twoTo n = 2 ^ n := rfl

/-- The powers of ten. -/
lemma tenTo_eq (n : ℕ) : tenTo n = 10 ^ n := rfl

namespace Binary64

/-! ## Magnitudes -/

/-- The magnitude of a rank. -/
def value (rank : ℕ) : ℚ := (significand rank : ℚ) * 2 ^ exponent rank

/-- A number times a power of two, as a quotient. -/
lemma scaled_ratio (n : ℕ) (e : ℤ) : ((scaled n e).1 : ℚ) / (scaled n e).2 = n * 2 ^ e := by
  rw [scaled]
  split
  · rename_i he
    obtain ⟨k, rfl⟩ := Int.eq_ofNat_of_zero_le he
    simp [twoTo_eq]
  · rename_i he
    obtain ⟨k, rfl⟩ : ∃ k : ℕ, e = -(k : ℤ) := ⟨(-e).toNat, by omega⟩
    simp [twoTo_eq, zpow_neg, div_eq_mul_inv]

/-- The denominator of a number times a power of two is positive. -/
lemma scaled_pos (n : ℕ) (e : ℤ) : 0 < (scaled n e).2 := by
  rw [scaled]
  split
  · exact Nat.one_pos
  · exact Nat.pow_pos (by omega)

/-- A quotient in units of a power of two. -/
lemma scaled_neg_ratio (num den : ℕ) (e : ℤ) :
    ((scaled num (-e)).1 : ℚ) / ((scaled num (-e)).2 * den : ℕ) = (num : ℚ) / den / 2 ^ e := by
  rw [Nat.cast_mul, ← div_div, scaled_ratio, zpow_neg]
  ring

/-- The quotient of a rank is its magnitude. -/
lemma magnitude_ratio (rank : ℕ) :
    ((magnitude rank).1 : ℚ) / (magnitude rank).2 = value rank := scaled_ratio _ _

/-- The integer factor of a magnitude is below `2 ^ 53`. -/
lemma significand_lt (rank : ℕ) : significand rank < 2 ^ 53 := by
  rw [significand, twoTo_eq]
  split <;> omega

/-- The integer factor of a positive magnitude is positive. -/
lemma significand_pos {rank : ℕ} (h : 0 < rank) : 0 < significand rank := by
  rw [significand, twoTo_eq]
  split <;> omega

/-- No unit is below `2 ^ -1074`. -/
lemma le_exponent (rank : ℕ) : -1074 ≤ exponent rank := by
  rw [exponent, twoTo_eq]
  split <;> omega

/-- Above the least unit the integer factor is at least `2 ^ 52`. -/
lemma le_significand {rank : ℕ} (h : exponent rank ≠ -1074) : 2 ^ 52 ≤ significand rank := by
  rw [exponent, twoTo_eq] at h
  rw [significand, twoTo_eq]
  split at h <;> split <;> omega

/-- A rank is made of its unit and its integer factor. -/
lemma rank_eq (rank : ℕ) :
    (exponent rank + 1074).toNat * 2 ^ 52 + significand rank = rank := by
  rw [exponent, significand, twoTo_eq]
  split <;> omega

/-! ## The unit -/

/-- A whole number of units of a power of two fits into a quotient. -/
lemma le_div_scaled_iff (num : ℕ) {den : ℕ} (hd : 0 < den) (e : ℤ) (q : ℕ) :
    q ≤ (scaled num (-e)).1 / ((scaled num (-e)).2 * den) ↔ (q : ℚ) * 2 ^ e ≤ (num : ℚ) / den := by
  have hpos := scaled_pos num (-e)
  have hratio := scaled_ratio num (-e)
  have hden : (0 : ℚ) < den := by exact_mod_cast hd
  have hsnd : (0 : ℚ) < (scaled num (-e)).2 := by exact_mod_cast hpos
  rw [Nat.le_div_iff_mul_le (Nat.mul_pos hpos hd), ← Nat.cast_le (α := ℚ), Nat.cast_mul,
    Nat.cast_mul, ← mul_assoc, mul_right_comm, ← le_div_iff₀ hsnd, hratio, zpow_neg,
    le_div_iff₀ hden]
  have he : (0 : ℚ) < 2 ^ e := by positivity
  rw [← div_eq_mul_inv, le_div_iff₀ he, mul_right_comm]

/-- A quotient lies between the powers of two that the logarithms of its parts give. -/
lemma two_pow_log_lt {num den : ℕ} (hn : 0 < num) (hd : 0 < den) :
    (2 : ℚ) ^ ((num.log2 : ℤ) - den.log2 - 1) < (num : ℚ) / den ∧
      (num : ℚ) / den < 2 ^ ((num.log2 : ℤ) - den.log2 + 1) := by
  have hden : (0 : ℚ) < den := by exact_mod_cast hd
  have hn1 : ((2 ^ num.log2 : ℕ) : ℚ) ≤ num := by exact_mod_cast Nat.log2_self_le (by omega)
  have hn2 : (num : ℚ) < ((2 ^ (num.log2 + 1) : ℕ) : ℚ) := by exact_mod_cast Nat.lt_log2_self
  have hd1 : ((2 ^ den.log2 : ℕ) : ℚ) ≤ den := by exact_mod_cast Nat.log2_self_le (by omega)
  have hd2 : (den : ℚ) < ((2 ^ (den.log2 + 1) : ℕ) : ℚ) := by exact_mod_cast Nat.lt_log2_self
  push_cast at hn1 hn2 hd1 hd2
  have htwo : (2 : ℚ) ≠ 0 := by norm_num
  constructor
  · rw [lt_div_iff₀ hden]
    calc (2 : ℚ) ^ ((num.log2 : ℤ) - den.log2 - 1) * den
        < 2 ^ ((num.log2 : ℤ) - den.log2 - 1) * 2 ^ (den.log2 + 1) :=
          mul_lt_mul_of_pos_left hd2 (by positivity)
      _ = 2 ^ num.log2 := by
          rw [← zpow_natCast, ← zpow_natCast, ← zpow_add₀ htwo]
          congr 1
          push_cast
          ring
      _ ≤ num := hn1
  · rw [div_lt_iff₀ hden]
    calc (num : ℚ) < 2 ^ (num.log2 + 1) := hn2
      _ = 2 ^ ((num.log2 : ℤ) - den.log2 + 1) * 2 ^ den.log2 := by
          rw [← zpow_natCast, ← zpow_natCast, ← zpow_add₀ htwo]
          congr 1
          push_cast
          ring
      _ ≤ 2 ^ ((num.log2 : ℤ) - den.log2 + 1) * den := mul_le_mul_of_nonneg_left hd1 (by positivity)

/-- The unit of a quotient: it holds fewer than `2 ^ 53` of them, and at least `2 ^ 52` unless the
unit is the least one.

**Proof sketch.** The logarithms of the two parts give the unit up to a factor of two, and the test
decides which of the two it is. -/
lemma unitExponent_spec {num den : ℕ} (hn : 0 < num) (hd : 0 < den) :
    -1074 ≤ unitExponent num den ∧ (num : ℚ) / den < 2 ^ (unitExponent num den + 53) ∧
      (unitExponent num den = -1074 ∨ (2 : ℚ) ^ (unitExponent num den + 52) ≤ (num : ℚ) / den) := by
  obtain ⟨hlow, hhigh⟩ := two_pow_log_lt hn hd
  have htwo : (1 : ℚ) ≤ 2 := by norm_num
  rw [unitExponent]
  set g : ℤ := (num.log2 : ℤ) - den.log2 - 53 with hg
  have hguess : -1074 ≤ max (-1074) g ∧ g ≤ max (-1074) g := ⟨le_max_left _ _, le_max_right _ _⟩
  have hmax : max (-1074) g = -1074 ∨ max (-1074) g = g := max_choice _ _
  generalize max (-1074) g = guess at hguess hmax
  have htest := le_div_scaled_iff num hd guess (twoTo 53)
  have hpow : ((twoTo 53 : ℕ) : ℚ) * 2 ^ guess = 2 ^ (guess + 53) := by
    rw [twoTo_eq, add_comm, zpow_add₀ (by norm_num)]
    norm_num
  rw [hpow] at htest
  dsimp only
  split
  · rename_i h
    refine ⟨by omega, ?_, .inr ?_⟩
    · refine lt_of_lt_of_le hhigh (zpow_le_zpow_right₀ htwo ?_)
      omega
    · rw [show guess + 1 + 52 = guess + 53 by ring]
      exact htest.mp h
  · rename_i h
    refine ⟨hguess.1, not_le.mp fun hle => h (htest.mpr hle), hmax.imp id fun heq => ?_⟩
    refine le_trans (zpow_le_zpow_right₀ htwo ?_) hlow.le
    omega

/-- **The unit of a quotient is the only power of two** of which it holds fewer than `2 ^ 53` and,
above the least one, at least `2 ^ 52`. -/
lemma unitExponent_unique {num den : ℕ} (hn : 0 < num) (hd : 0 < den) {e : ℤ} (he : -1074 ≤ e)
    (hhigh : (num : ℚ) / den < 2 ^ (e + 53))
    (hlow : e = -1074 ∨ (2 : ℚ) ^ (e + 52) ≤ (num : ℚ) / den) : unitExponent num den = e := by
  obtain ⟨hu, huhigh, hulow⟩ := unitExponent_spec hn hd
  have htwo : (1 : ℚ) < 2 := by norm_num
  rcases lt_trichotomy (unitExponent num den) e with hlt | heq | hgt
  · rcases hlow with rfl | hlow
    · omega
    · have := (zpow_lt_zpow_iff_right₀ htwo).mp (lt_of_le_of_lt hlow huhigh)
      omega
  · exact heq
  · rcases hulow with hmin | hulow
    · omega
    · have := (zpow_lt_zpow_iff_right₀ htwo).mp (lt_of_le_of_lt hulow hhigh)
      omega

/-! ## Rounding to naturals -/

/-- A natural at most one half away, and less if it is odd. -/
structure RoundsTo (m : ℕ) (x : ℚ) : Prop where
  low : (m : ℚ) - 1 / 2 ≤ x
  high : x ≤ m + 1 / 2
  odd : m % 2 = 1 → (m : ℚ) - 1 / 2 < x ∧ x < m + 1 / 2

/-- What is below a natural does not round beyond it. -/
lemma RoundsTo.le {m k : ℕ} {x : ℚ} (h : RoundsTo m x) (hx : x < k) : m ≤ k := by
  have hlt : (m : ℚ) < ((k + 1 : ℕ) : ℚ) := by
    push_cast
    linarith [h.low]
  exact Nat.lt_succ_iff.mp (by exact_mod_cast hlt)

/-- What is not below a natural does not round below it. -/
lemma RoundsTo.ge {m k : ℕ} {x : ℚ} (h : RoundsTo m x) (hx : k ≤ x) : k ≤ m := by
  have hlt : (k : ℚ) < ((m + 1 : ℕ) : ℚ) := by
    push_cast
    linarith [h.high]
  exact Nat.lt_succ_iff.mp (by exact_mod_cast hlt)

/-- **A quotient rounds to a natural.** -/
lemma roundDiv_spec (n : ℕ) {d : ℕ} (hd : 0 < d) : RoundsTo (roundDiv n d) ((n : ℚ) / d) := by
  have hden : (0 : ℚ) < d := by exact_mod_cast hd
  have hsplit : (n : ℚ) / d = (n / d : ℕ) + ((n % d : ℕ) : ℚ) / d := by
    have hdiv : ((d * (n / d) + n % d : ℕ) : ℚ) = n := by exact_mod_cast Nat.div_add_mod n d
    rw [← hdiv]
    push_cast
    field_simp
  have hlow : (0 : ℚ) ≤ ((n % d : ℕ) : ℚ) / d := by positivity
  have hhigh : ((n % d : ℕ) : ℚ) / d < 1 := by
    rw [div_lt_one hden]
    exact_mod_cast Nat.mod_lt n hd
  have hover : d < 2 * (n % d) ↔ 1 / 2 < ((n % d : ℕ) : ℚ) / d := by
    rw [lt_div_iff₀ hden, ← Nat.cast_lt (α := ℚ), Nat.cast_mul, Nat.cast_ofNat]
    constructor <;> intro h <;> linarith
  have hhalf : 2 * (n % d) = d ↔ ((n % d : ℕ) : ℚ) / d = 1 / 2 := by
    rw [div_eq_iff hden.ne', ← Nat.cast_inj (R := ℚ), Nat.cast_mul, Nat.cast_ofNat]
    constructor <;> intro h <;> linarith
  rw [hsplit, roundDiv]
  simp only [hover, hhalf]
  generalize ((n % d : ℕ) : ℚ) / d = f at hlow hhigh ⊢
  generalize n / d = q
  split
  · next hup =>
    have hf : 1 / 2 ≤ f := hup.elim le_of_lt fun h => h.1.ge
    have hsucc : ((q + 1 : ℕ) : ℚ) = q + 1 := Nat.cast_succ q
    refine ⟨by linarith, by linarith, fun hodd => ?_⟩
    have hlt : 1 / 2 < f := hup.resolve_right fun h => by omega
    exact ⟨by linarith, by linarith⟩
  · next hdown =>
    rw [not_or, not_lt] at hdown
    refine ⟨by linarith, by linarith [hdown.1], fun hodd => ?_⟩
    have hlt : f < 1 / 2 := lt_of_le_of_ne hdown.1 fun h => hdown.2 ⟨h, hodd⟩
    exact ⟨by linarith, by linarith⟩

/-- Nothing rounds to two naturals: it would be halfway between them, and one of them is odd. -/
lemma RoundsTo.unique {m m' : ℕ} {x : ℚ} (h : RoundsTo m x) (h' : RoundsTo m' x) : m = m' := by
  have hne : ∀ {k k' : ℕ}, RoundsTo k x → RoundsTo k' x → ¬k < k' := by
    intro k k' hk hk' hlt
    have hgap : (k : ℚ) + 1 ≤ k' := by exact_mod_cast hlt
    have hnext : k' = k + 1 := by
      have hle : (k' : ℚ) ≤ ((k + 1 : ℕ) : ℚ) := by
        push_cast
        linarith [hk.high, hk'.low]
      exact le_antisymm (by exact_mod_cast hle) hlt
    rcases Nat.mod_two_eq_zero_or_one k with heven | hodd
    · linarith [(hk'.odd (by omega)).1, hk.high]
    · linarith [(hk.odd hodd).2, hk'.low]
  exact le_antisymm (not_lt.mp (hne h' h)) (not_lt.mp (hne h h'))

/-- **The natural to which a quotient rounds.** -/
lemma roundDiv_eq {n d m : ℕ} (hd : 0 < d) (h : RoundsTo m ((n : ℚ) / d)) : roundDiv n d = m :=
  (roundDiv_spec n hd).unique h

end Binary64

/-! ## The interval of a rank -/

/-- Membership in an interval, in quarters of the unit. -/
def Shortest.Interval.Holds (i : Shortest.Interval) (q : ℚ) : Prop :=
  if i.closed then ((i.value - i.below : ℕ) : ℚ) ≤ q ∧ q ≤ ((i.value + i.above : ℕ) : ℚ)
  else ((i.value - i.below : ℕ) : ℚ) < q ∧ q < ((i.value + i.above : ℕ) : ℚ)

namespace Binary64

/-- The rational numbers in the interval around the magnitude of a rank. -/
def Around (rank : ℕ) (v : ℚ) : Prop :=
  (Shortest.interval rank).Holds (4 * (v / 2 ^ exponent rank))

/-- What lies around a rank is at most half a unit above its magnitude, and at most half a unit
below it, or a quarter of one if the rank is the first of its block. An end of the interval belongs
to it if the integer factor is even. -/
lemma bounds_of_around {rank : ℕ} (h0 : 0 < rank) {v : ℚ} (h : Around rank v) :
    (significand rank : ℚ) - (if significand rank = 2 ^ 52 ∧ exponent rank ≠ -1074 then 1 / 4
        else 1 / 2) ≤ v / 2 ^ exponent rank ∧
      v / 2 ^ exponent rank ≤ significand rank + 1 / 2 ∧
      (significand rank % 2 = 1 → (significand rank : ℚ) - 1 / 2 < v / 2 ^ exponent rank ∧
        v / 2 ^ exponent rank < significand rank + 1 / 2) := by
  have hm := significand_pos h0
  have hfirst : (significand rank = twoTo 52 ∧ twoTo 53 ≤ rank) ↔
      (significand rank = 2 ^ 52 ∧ exponent rank ≠ -1074) := by
    rw [exponent, significand, twoTo_eq, twoTo_eq]
    split <;> omega
  rw [Around, Shortest.interval, Shortest.Interval.Holds] at h
  simp only [hfirst, beq_iff_eq] at h
  generalize v / 2 ^ exponent rank = x at h ⊢
  by_cases hedge : significand rank = 2 ^ 52 ∧ exponent rank ≠ -1074
  · have hone : ((4 * significand rank - 1 : ℕ) : ℚ) = 4 * significand rank - 1 := by
      rw [Nat.cast_sub (by omega)]
      push_cast
      ring
    have heven : significand rank % 2 = 0 := by omega
    simp only [if_pos hedge, heven, ↓reduceIte, hone] at h ⊢
    push_cast at h
    refine ⟨by linarith [h.1], by linarith [h.2], fun hodd => absurd hodd (by omega)⟩
  · have htwo : ((4 * significand rank - 2 : ℕ) : ℚ) = 4 * significand rank - 2 := by
      rw [Nat.cast_sub (by omega)]
      push_cast
      ring
    simp only [if_neg hedge, htwo] at h ⊢
    split at h
    · push_cast at h
      refine ⟨by linarith [h.1], by linarith [h.2], fun hodd => absurd hodd (by omega)⟩
    · push_cast at h
      refine ⟨by linarith [h.1], by linarith [h.2], fun _ => ⟨by linarith [h.1], by linarith [h.2]⟩⟩

/-- What lies around a positive rank is positive. -/
lemma pos_of_around {rank : ℕ} (h0 : 0 < rank) {v : ℚ} (h : Around rank v) : 0 < v := by
  obtain ⟨hlow, -, -⟩ := bounds_of_around h0 h
  have hm : (1 : ℚ) ≤ significand rank := by exact_mod_cast significand_pos h0
  have hunit : (0 : ℚ) < 2 ^ exponent rank := by positivity
  have hx : 0 < v / 2 ^ exponent rank := by
    refine lt_of_lt_of_le ?_ hlow
    split <;> linarith
  exact (div_pos_iff_of_pos_right hunit).mp hx

/-- What lies around a rank holds the number of its units, rounded. -/
lemma roundsTo_of_around {rank : ℕ} (h0 : 0 < rank) {v : ℚ} (h : Around rank v) :
    RoundsTo (significand rank) (v / 2 ^ exponent rank) := by
  obtain ⟨hlow, hhigh, hodd⟩ := bounds_of_around h0 h
  refine ⟨le_trans ?_ hlow, hhigh, hodd⟩
  split <;> linarith

/-- What lies around a rank and holds less than `2 ^ 52` of its units, which are not the least ones,
lies just below the first rank of a block. -/
lemma first_of_around {rank : ℕ} (h0 : 0 < rank) {v : ℚ} (h : Around rank v)
    (hmin : exponent rank ≠ -1074) (hbelow : v / 2 ^ exponent rank < 2 ^ 52) :
    significand rank = 2 ^ 52 ∧ (2 : ℚ) ^ 52 - 1 / 4 ≤ v / 2 ^ exponent rank := by
  obtain ⟨hlow, -, -⟩ := bounds_of_around h0 h
  have hfirst : significand rank = 2 ^ 52 := by
    refine le_antisymm ?_ (le_significand hmin)
    by_contra hgt
    have hge : (2 : ℚ) ^ 52 + 1 ≤ significand rank := by
      exact_mod_cast Nat.succ_le_of_lt (not_le.mp hgt)
    rw [if_neg (by omega)] at hlow
    linarith
  rw [if_pos ⟨hfirst, hmin⟩, hfirst] at hlow
  exact ⟨hfirst, by exact_mod_cast hlow⟩

/-- A quotient rounds to the rank of its unit and of the number of its units, rounded. -/
lemma roundRank_of_units {num den : ℕ} (hd : 0 < den) {e : ℤ} {m : ℕ}
    (he : unitExponent num den = e) (h : RoundsTo m ((num : ℚ) / den / 2 ^ e)) :
    roundRank num den = (e + 1074).toNat * twoTo 52 + m := by
  rw [← scaled_neg_ratio] at h
  rw [roundRank, he]
  dsimp only
  rw [roundDiv_eq (Nat.mul_pos (scaled_pos _ _) hd) h]

/-- **A quotient around a rank rounds to it.**

**Proof sketch.** Most quotients have the unit of the rank, and the nearest natural to their number
of units is the integer factor. Only those just below the first rank of a block have the next
smaller unit, of which they hold almost `2 ^ 53`; they round up to that number, which is the first
rank of the block as well. -/
theorem roundRank_eq {num den rank : ℕ} (hn : 0 < num) (hd : 0 < den) (h0 : 0 < rank)
    (h : Around rank ((num : ℚ) / den)) : roundRank num den = rank := by
  have hrounds := roundsTo_of_around h0 h
  have hm : (significand rank : ℚ) + 1 ≤ 2 ^ 53 := by exact_mod_cast significand_lt rank
  have htwo : (2 : ℚ) ≠ 0 := by norm_num
  have hunit : (0 : ℚ) < 2 ^ exponent rank := by positivity
  have hupper : (num : ℚ) / den < 2 ^ (exponent rank + 53) := by
    rw [zpow_add₀ htwo, mul_comm, ← div_lt_iff₀ hunit]
    refine lt_of_le_of_lt hrounds.high ?_
    norm_num at hm ⊢
    linarith
  by_cases hblock : exponent rank = -1074 ∨ (2 : ℚ) ^ (exponent rank + 52) ≤ (num : ℚ) / den
  · rw [roundRank_of_units hd (unitExponent_unique hn hd (le_exponent rank) hupper hblock) hrounds]
    exact rank_eq rank
  · rw [not_or, not_le] at hblock
    obtain ⟨hmin, hbelow⟩ := hblock
    have hbelow' : (num : ℚ) / den / 2 ^ exponent rank < 2 ^ 52 := by
      rw [div_lt_iff₀ hunit, ← zpow_natCast, ← zpow_add₀ htwo, add_comm]
      exact hbelow
    obtain ⟨hfirst, hlow⟩ := first_of_around h0 h hmin hbelow'
    have hle := le_exponent rank
    have hdouble : (num : ℚ) / den / 2 ^ (exponent rank - 1) =
        2 * ((num : ℚ) / den / 2 ^ exponent rank) := by
      rw [zpow_sub₀ htwo, zpow_one]
      field_simp
    have hsmaller : unitExponent num den = exponent rank - 1 := by
      refine unitExponent_unique hn hd (by omega) ?_ (.inr ?_)
      · rw [show exponent rank - 1 + 53 = exponent rank + 52 by ring]
        exact hbelow
      · rw [zpow_add₀ htwo, mul_comm, ← le_div_iff₀ (by positivity), hdouble]
        norm_num at hlow ⊢
        linarith
    have hfull : RoundsTo (2 ^ 53) ((num : ℚ) / den / 2 ^ (exponent rank - 1)) := by
      rw [hdouble]
      generalize (num : ℚ) / den / 2 ^ exponent rank = x at hlow hbelow'
      refine ⟨?_, ?_, fun hodd => absurd hodd (by norm_num)⟩
      · push_cast
        linarith
      · push_cast
        linarith
    have hrank := rank_eq rank
    have hnat : (exponent rank + 1074).toNat = (exponent rank - 1 + 1074).toNat + 1 := by omega
    rw [hfirst, hnat] at hrank
    rw [roundRank_of_units hd hsmaller hfull, twoTo_eq]
    refine Eq.trans ?_ hrank
    ring

/-- What lies around a positive rank is not below half of the least unit. -/
lemma le_of_around {rank : ℕ} (h0 : 0 < rank) {v : ℚ} (h : Around rank v) :
    2 ^ (-1075 : ℤ) ≤ v := by
  obtain ⟨hlow, -, -⟩ := bounds_of_around h0 h
  have hm : (1 : ℚ) ≤ significand rank := by exact_mod_cast significand_pos h0
  have hunit : (0 : ℚ) < 2 ^ exponent rank := by positivity
  have hx : 1 / 2 ≤ v / 2 ^ exponent rank := by
    refine le_trans ?_ hlow
    split <;> linarith
  have hleast : (2 : ℚ) ^ (-1074 : ℤ) ≤ 2 ^ exponent rank :=
    zpow_le_zpow_right₀ (by norm_num) (le_exponent rank)
  calc (2 : ℚ) ^ (-1075 : ℤ) = 1 / 2 * 2 ^ (-1074 : ℤ) := by
        rw [show (-1075 : ℤ) = -1 + -1074 by norm_num, zpow_add₀ (by norm_num)]
        norm_num
    _ ≤ 1 / 2 * 2 ^ exponent rank := by linarith
    _ ≤ v := (le_div_iff₀ hunit).mp hx

/-- What lies around a rank of a finite number is below `2 ^ 1024`. -/
lemma lt_of_around {rank : ℕ} (h0 : 0 < rank) (hlimit : rank < rankLimit) {v : ℚ}
    (h : Around rank v) : v < 2 ^ (1024 : ℤ) := by
  obtain ⟨-, hhigh, -⟩ := bounds_of_around h0 h
  have hm : (significand rank : ℚ) + 1 ≤ 2 ^ 53 := by exact_mod_cast significand_lt rank
  have hunit : (0 : ℚ) < 2 ^ exponent rank := by positivity
  have hexp : exponent rank ≤ 971 := by
    rw [rankLimit, twoTo_eq] at hlimit
    rw [exponent, twoTo_eq]
    split <;> omega
  have hgreatest : (2 : ℚ) ^ exponent rank ≤ 2 ^ (971 : ℤ) :=
    zpow_le_zpow_right₀ (by norm_num) hexp
  rw [div_le_iff₀ hunit] at hhigh
  calc v ≤ ((significand rank : ℚ) + 1 / 2) * 2 ^ exponent rank := hhigh
    _ < 2 ^ 53 * 2 ^ exponent rank := mul_lt_mul_of_pos_right (by linarith) hunit
    _ ≤ 2 ^ 53 * 2 ^ (971 : ℤ) := by linarith
    _ = 2 ^ (1024 : ℤ) := by
        rw [← zpow_natCast, ← zpow_add₀ (by norm_num)]
        norm_num

end Binary64

/-! ## Decimals -/

namespace Decimal

/-- The value of a decimal. -/
def toRat (d : Decimal) : ℚ := (d.coefficient : ℚ) * 10 ^ d.exponent

/-- A decimal that is not zero lies between the powers of ten that its number of places gives. -/
lemma toRat_bounds {d : Decimal} (h : 0 < d.coefficient) :
    (10 : ℚ) ^ ((digitsOf d.coefficient).length + d.exponent - 1) ≤ d.toRat ∧
      d.toRat < 10 ^ ((digitsOf d.coefficient).length + d.exponent) := by
  have hten : (10 : ℚ) ≠ 0 := by norm_num
  have hpow : (0 : ℚ) < 10 ^ d.exponent := by positivity
  have hlen : 0 < (digitsOf d.coefficient).length :=
    List.length_pos_iff.mpr (digitsOf_ne_nil d.coefficient)
  have hlow : ((10 ^ ((digitsOf d.coefficient).length - 1) : ℕ) : ℚ) ≤ d.coefficient := by
    exact_mod_cast ten_pow_length_le h
  have hhigh : (d.coefficient : ℚ) < ((10 ^ (digitsOf d.coefficient).length : ℕ) : ℚ) := by
    exact_mod_cast lt_ten_pow_length d.coefficient
  push_cast at hlow hhigh
  rw [toRat]
  constructor
  · rw [show ((digitsOf d.coefficient).length : ℤ) + d.exponent - 1 =
      ((digitsOf d.coefficient).length - 1 : ℕ) + d.exponent by omega, zpow_add₀ hten, zpow_natCast]
    exact mul_le_mul_of_nonneg_right hlow hpow.le
  · rw [zpow_add₀ hten, zpow_natCast]
    exact mul_lt_mul_of_pos_right hhigh hpow

/-- A decimal with more than 310 places is above the range of the format. -/
lemma lt_toRat_of_places {d : Decimal} (h : 0 < d.coefficient)
    (hplaces : 310 < ((digitsOf d.coefficient).length : ℤ) + d.exponent) :
    2 ^ (1024 : ℤ) < d.toRat := by
  have hnat : (2 : ℕ) ^ 1024 < 10 ^ 310 := by decide +kernel
  calc (2 : ℚ) ^ (1024 : ℤ) < 10 ^ (310 : ℤ) := by exact_mod_cast hnat
    _ ≤ 10 ^ (((digitsOf d.coefficient).length : ℤ) + d.exponent - 1) :=
        zpow_le_zpow_right₀ (by norm_num) (by omega)
    _ ≤ d.toRat := (toRat_bounds h).1

/-- A decimal with fewer than -324 places is below half of the least unit. -/
lemma toRat_lt_of_places {d : Decimal} (h : 0 < d.coefficient)
    (hplaces : ((digitsOf d.coefficient).length : ℤ) + d.exponent < -324) :
    d.toRat < 2 ^ (-1075 : ℤ) := by
  have hnat : (2 : ℕ) ^ 1075 < 10 ^ 325 := by decide +kernel
  have hpow : (2 : ℚ) ^ (1075 : ℤ) < 10 ^ (325 : ℤ) := by exact_mod_cast hnat
  calc d.toRat < 10 ^ (((digitsOf d.coefficient).length : ℤ) + d.exponent) := (toRat_bounds h).2
    _ ≤ 10 ^ (-325 : ℤ) := zpow_le_zpow_right₀ (by norm_num) (by omega)
    _ < 2 ^ (-1075 : ℤ) := by
        rw [zpow_neg, zpow_neg]
        exact inv_strictAnti₀ (by positivity) hpow

/-- A decimal that its places do not decide is read as the number nearest to its quotient. -/
lemma exists_quotient {d : Decimal} (h : 0 < d.coefficient)
    (hleft : ¬310 < ((digitsOf d.coefficient).length : ℤ) + d.exponent)
    (hright : ¬((digitsOf d.coefficient).length : ℤ) + d.exponent < -324) :
    ∃ num den : ℕ, 0 < num ∧ 0 < den ∧ (num : ℚ) / den = d.toRat ∧
      ∀ negative, Binary64.ofDecimal negative d = Binary64.ofQuotient negative num den := by
  by_cases hexp : 0 ≤ d.exponent
  · refine ⟨d.coefficient * tenTo d.exponent.toNat, 1, Nat.mul_pos h (Nat.pow_pos (by omega)),
      Nat.one_pos, ?_, fun negative => ?_⟩
    · obtain ⟨k, hk⟩ := Int.eq_ofNat_of_zero_le hexp
      rw [Decimal.toRat, hk, tenTo_eq]
      simp
    · rw [Binary64.ofDecimal, if_neg h.ne', if_neg hleft, if_neg hright, if_pos hexp]
  · refine ⟨d.coefficient, tenTo (-d.exponent).toNat, h, Nat.pow_pos (by omega), ?_,
      fun negative => ?_⟩
    · obtain ⟨k, hk⟩ : ∃ k : ℕ, d.exponent = -(k : ℤ) := ⟨(-d.exponent).toNat, by omega⟩
      rw [Decimal.toRat, hk, tenTo_eq]
      simp [zpow_neg, div_eq_mul_inv]
    · rw [Binary64.ofDecimal, if_neg h.ne', if_neg hleft, if_neg hright, if_neg hexp]

end Decimal

/-- **A decimal around the rank of a finite number** is read as that number.

**Proof sketch.** Its leading digit stands neither too far to the left nor too far to the right to
be read as infinite or as zero, so the quotient is rounded. -/
theorem Binary64.ofDecimal_eq {d : Decimal} {rank : ℕ} (hd : 0 < d.coefficient) (h0 : 0 < rank)
    (hlimit : rank < rankLimit) (h : Around rank d.toRat) (negative : Bool) :
    ofDecimal negative d = finite negative ⟨rank, hlimit⟩ := by
  have hbelow := lt_of_around h0 hlimit h
  have habove := le_of_around h0 h
  have hleft : ¬310 < ((digitsOf d.coefficient).length : ℤ) + d.exponent := fun hplaces =>
    absurd (d.lt_toRat_of_places hd hplaces) (not_lt.mpr hbelow.le)
  have hright : ¬((digitsOf d.coefficient).length : ℤ) + d.exponent < -324 := fun hplaces =>
    absurd (d.toRat_lt_of_places hd hplaces) (not_lt.mpr habove)
  obtain ⟨num, den, hnum, hden, hratio, hread⟩ := d.exists_quotient hd hleft hright
  rw [hread, ofQuotient, roundRank_eq hnum hden h0 (by rw [hratio]; exact h), ofRank,
    dif_pos hlimit]

end StagedQuery
