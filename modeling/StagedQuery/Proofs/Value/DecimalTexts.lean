import StagedQuery.Proofs.Number.Nearest
import StagedQuery.Proofs.Value.NumberText

set_option relaxedAutoImplicit false
set_option autoImplicit false

/-!
# Which texts look like numbers

A text looks like a number if, blanks at its ends apart, it is in decimal notation:

    [sign] (digits [. [digits]] | . digits) [(e|E) [sign] digits]

A whole number that is not too long is read as that integer. Every other number is read as the
nearest floating-point number, unless it is so great that it would be infinite.

## Main definitions

* `SignText`, `MantissaText`, `PowerText`, `DecimalText` — decimal notation as a grammar, with the
  parts of the number.
* `Notation.magnitude` — the exact magnitude that the parts denote.

## Main results

* `decimalText_iff` — **what is scanned is decimal notation**, and the other way round.
* `number?_text` — the number of a text.
-/

namespace StagedQuery

open Notation

/-! ## The grammar -/

/-- A sign, if there is one, and whether it is a minus. -/
inductive SignText : Bool → List Char → Prop
  | absent : SignText false []
  | plus : SignText false ['+']
  | minus : SignText true ['-']

/-- Digits, which a point may follow with digits behind it; or a point with at least one digit
behind it. -/
inductive MantissaText : (whole : List Char) → (fraction : Option (List Char)) → List Char → Prop
  | whole {ds : List Char} (hds : IsDigits ds) : MantissaText ds none ds
  | point {ds fs : List Char} (hds : IsDigits ds) (hfs : ∀ c ∈ fs, isDigit c = true) :
    MantissaText ds (some fs) (ds ++ '.' :: fs)
  | fraction {fs : List Char} (hfs : IsDigits fs) : MantissaText [] (some fs) ('.' :: fs)

/-- A power of ten, if there is one: its mark, its sign and its digits. -/
inductive PowerText : Option (Bool × List Char) → List Char → Prop
  | absent : PowerText none []
  | present {mark : Char} {negative : Bool} {sign ds : List Char} (hmark : mark = 'e' ∨ mark = 'E')
    (hsign : SignText negative sign) (hds : IsDigits ds) :
    PowerText (some (negative, ds)) (mark :: (sign ++ ds))

/-- **Decimal notation**: whether it has a minus, the parts of the number, and its characters. -/
inductive DecimalText : Bool → Notation → List Char → Prop
  | intro {negative : Bool} {whole : List Char} {fraction : Option (List Char)}
    {power : Option (Bool × List Char)} {sign mantissa mark : List Char}
    (hsign : SignText negative sign) (hmantissa : MantissaText whole fraction mantissa)
    (hpower : PowerText power mark) :
    DecimalText negative ⟨whole, fraction, power⟩ (sign ++ (mantissa ++ mark))

/-- The exact magnitude of a number in decimal notation. -/
def Notation.magnitude (n : Notation) : ℚ :=
  (natOfDigits n.whole + natOfDigits (n.fraction.getD []) / 10 ^ (n.fraction.getD []).length) *
    10 ^ powerValue n.power

/-- The decimal of the parts has that magnitude. -/
lemma Notation.toRat_value (n : Notation) : n.value.toRat = n.magnitude := by
  rw [Notation.value, Decimal.toRat, Notation.magnitude]
  dsimp only
  rw [natOfDigits_append, zpow_sub₀ (by norm_num), zpow_natCast]
  push_cast
  field_simp

/-! ## Scanning signs and powers -/

/-- What is scanned as a sign is one. -/
lemma exists_of_scanSign {cs rest : List Char} {negative : Bool}
    (h : scanSign cs = (negative, rest)) : ∃ sign, SignText negative sign ∧ cs = sign ++ rest := by
  unfold scanSign at h
  split at h
  · obtain ⟨rfl, rfl⟩ := Prod.mk.inj h
    exact ⟨['-'], .minus, rfl⟩
  · obtain ⟨rfl, rfl⟩ := Prod.mk.inj h
    exact ⟨['+'], .plus, rfl⟩
  · obtain ⟨rfl, rfl⟩ := Prod.mk.inj h
    exact ⟨[], .absent, rfl⟩

/-- A sign is scanned in front of a character that is none. -/
lemma SignText.scan {negative : Bool} {sign : List Char} (h : SignText negative sign) {c : Char}
    {cs : List Char} (hminus : c ≠ '-') (hplus : c ≠ '+') :
    scanSign (sign ++ c :: cs) = (negative, c :: cs) := by
  cases h with
  | absent =>
    rw [List.nil_append]
    unfold scanSign
    split
    · next heq => exact absurd (List.cons.inj heq).1 hminus
    · next heq => exact absurd (List.cons.inj heq).1 hplus
    · rfl
  | plus => rfl
  | minus => rfl

/-- A sign is scanned in front of digits. -/
lemma SignText.scan_digits {negative : Bool} {sign ds : List Char} (h : SignText negative sign)
    (hds : IsDigits ds) : scanSign (sign ++ ds) = (negative, ds) := by
  obtain ⟨hne, hdigits⟩ := hds
  cases ds with
  | nil => exact absurd rfl hne
  | cons d ds =>
    have hd := hdigits d List.mem_cons_self
    exact h.scan (Document.ne_of_isDigit hd (by decide)) (Document.ne_of_isDigit hd (by decide))

/-- What is scanned as a power of ten is one. -/
lemma exists_of_scanPower {cs rest : List Char} {power : Option (Bool × List Char)}
    (h : scanPower cs = (power, rest)) : ∃ mark, PowerText power mark ∧ cs = mark ++ rest := by
  cases cs with
  | nil =>
    obtain ⟨rfl, rfl⟩ := Prod.mk.inj h
    exact ⟨[], .absent, rfl⟩
  | cons c cs =>
    rw [scanPower] at h
    split at h
    · next hmark =>
      cases hscan : scanSign cs with
      | mk negative unsigned =>
        obtain ⟨sign, hsign, rfl⟩ := exists_of_scanSign hscan
        rw [hscan] at h
        dsimp only at h
        split at h
        · obtain ⟨rfl, rfl⟩ := Prod.mk.inj h
          exact ⟨[], .absent, rfl⟩
        · next hne =>
          obtain ⟨rfl, rfl⟩ := Prod.mk.inj h
          refine ⟨_, .present hmark hsign ⟨hne, fun d hd => mem_takeWhile hd⟩, ?_⟩
          rw [List.cons_append, List.append_assoc, List.takeWhile_append_dropWhile]
    · obtain ⟨rfl, rfl⟩ := Prod.mk.inj h
      exact ⟨[], .absent, rfl⟩

/-- A power of ten is scanned as such. -/
lemma PowerText.scan {power : Option (Bool × List Char)} {mark : List Char}
    (h : PowerText power mark) : scanPower mark = (power, []) := by
  cases h with
  | absent => rfl
  | @present c negative sign ds hmark hsign hds =>
    have htake := takeWhile_append_of_stops hds.2 (stops_nil isDigit)
    have hdrop := dropWhile_append_of_stops hds.2 (stops_nil isDigit)
    rw [List.append_nil] at htake hdrop
    rw [scanPower, if_pos hmark, hsign.scan_digits hds]
    dsimp only
    rw [htake, hdrop]
    cases ds with
    | nil => exact absurd rfl hds.1
    | cons d ds => rfl

/-- A power of ten begins with no digit and no point. -/
lemma PowerText.stops {power : Option (Bool × List Char)} {mark : List Char}
    (h : PowerText power mark) : Stops isDigit mark ∧ mark.head? ≠ some '.' := by
  cases h with
  | absent => exact ⟨stops_nil _, by simp⟩
  | present hmark => rcases hmark with rfl | rfl <;> exact ⟨stops_cons.mpr (by decide), by simp⟩

/-! ## Scanning decimal notation -/

/-- What is scanned as a fraction is a point with digits behind it, if anything. -/
lemma eq_of_scanFraction {cs rest : List Char} {fraction : Option (List Char)}
    (h : scanFraction cs = (fraction, rest)) : cs = fractionText fraction ++ rest ∧
      ∀ fs, fraction = some fs → ∀ c ∈ fs, isDigit c = true := by
  unfold scanFraction at h
  split at h
  · obtain ⟨rfl, rfl⟩ := Prod.mk.inj h
    refine ⟨by simp [fractionText], ?_⟩
    rintro _ ⟨⟩
    exact fun c hc => mem_takeWhile hc
  · obtain ⟨rfl, rfl⟩ := Prod.mk.inj h
    exact ⟨rfl, by simp⟩

/-- The digits of a mantissa are digits, and there is one. -/
lemma MantissaText.parts {whole mantissa : List Char} {fraction : Option (List Char)}
    (h : MantissaText whole fraction mantissa) (power : Option (Bool × List Char)) :
    mantissa = whole ++ fractionText fraction ∧ (∀ c ∈ whole, isDigit c = true) ∧
      (∀ fs, fraction = some fs → ∀ c ∈ fs, isDigit c = true) ∧
      (⟨whole, fraction, power⟩ : Notation).hasDigits = true := by
  cases h with
  | whole hds => exact ⟨by simp [fractionText], hds.2, by simp, by simp [hasDigits, hds.1]⟩
  | point hds hfs =>
    exact ⟨rfl, hds.2, by rintro _ ⟨⟩; exact hfs, by simp [hasDigits, hds.1]⟩
  | fraction hfs => exact ⟨rfl, by simp, by rintro _ ⟨⟩; exact hfs.2, by simp [hasDigits, hfs.1]⟩

/-- Digits, and digits behind a point, are a mantissa if there is one. -/
lemma mantissaText_of_hasDigits {n : Notation} (hwhole : ∀ c ∈ n.whole, isDigit c = true)
    (hfraction : ∀ fs, n.fraction = some fs → ∀ c ∈ fs, isDigit c = true)
    (hdigits : n.hasDigits = true) :
    MantissaText n.whole n.fraction (n.whole ++ fractionText n.fraction) := by
  obtain ⟨whole, fraction, power⟩ := n
  simp only [hasDigits, Bool.or_eq_true, Bool.not_eq_true', List.isEmpty_eq_false_iff] at *
  cases fraction with
  | none =>
    rw [fractionText, List.append_nil]
    exact .whole ⟨hdigits.resolve_right (by simp), hwhole⟩
  | some fs =>
    by_cases hempty : whole = []
    · subst hempty
      exact .fraction ⟨hdigits.resolve_left (by simp), hfraction fs rfl⟩
    · exact .point ⟨hempty, hwhole⟩ (hfraction fs rfl)

/-- A mantissa begins with no sign. -/
lemma MantissaText.exists_cons {whole mantissa : List Char} {fraction : Option (List Char)}
    (h : MantissaText whole fraction mantissa) :
    ∃ c cs, mantissa = c :: cs ∧ c ≠ '-' ∧ c ≠ '+' := by
  have hfirst : ∀ {ds : List Char}, IsDigits ds → ∃ c cs, ds = c :: cs ∧ c ≠ '-' ∧ c ≠ '+' := by
    rintro (_ | ⟨d, ds⟩) hds
    · exact absurd rfl hds.1
    · have hd := hds.2 d List.mem_cons_self
      have hsign : ∀ {c}, isDigit c = false → d ≠ c := Document.ne_of_isDigit hd
      exact ⟨d, ds, rfl, hsign (by decide), hsign (by decide)⟩
  cases h with
  | whole hds => exact hfirst hds
  | point hds =>
    obtain ⟨c, cs, rfl, hc⟩ := hfirst hds
    exact ⟨c, _, rfl, hc⟩
  | fraction => exact ⟨'.', _, rfl, by decide, by decide⟩

/-- **What is scanned to its end, with a digit in it, is decimal notation**, and the other way
round. -/
theorem decimalText_iff {negative : Bool} {n : Notation} {cs : List Char} :
    DecimalText negative n cs ↔
      ∃ unsigned, scanSign cs = (negative, unsigned) ∧ scan unsigned = (n, []) ∧
        n.hasDigits = true := by
  constructor
  · intro h
    obtain @⟨whole, fraction, power, sign, mantissa, mark, hsign, hmantissa, hpower⟩ := h
    obtain ⟨c, rest, hcons, hminus, hplus⟩ := hmantissa.exists_cons
    obtain ⟨hparts, hwhole, hfraction, hdigits⟩ := hmantissa.parts power
    obtain ⟨hstops, hpoint⟩ := hpower.stops
    refine ⟨mantissa ++ mark, ?_, ?_, hdigits⟩
    · rw [hcons, List.cons_append]
      exact hsign.scan hminus hplus
    · rw [hparts, List.append_assoc]
      exact scan_parts hwhole hfraction hpower.scan hstops hpoint
  · rintro ⟨unsigned, hminus, hscan, hdigits⟩
    obtain ⟨sign, hsign, rfl⟩ := exists_of_scanSign hminus
    rw [scan] at hscan
    cases hfraction : scanFraction (unsigned.dropWhile isDigit) with
    | mk fraction behind =>
      obtain ⟨hbehind, hfs⟩ := eq_of_scanFraction hfraction
      rw [hfraction] at hscan
      cases hpower : scanPower behind with
      | mk power rest =>
        obtain ⟨mark, hmark, rfl⟩ := exists_of_scanPower hpower
        dsimp only at hscan
        rw [hpower] at hscan
        obtain ⟨rfl, rfl⟩ := Prod.mk.inj hscan
        have hmantissa := mantissaText_of_hasDigits (fun c hc => mem_takeWhile hc) hfs hdigits
        have htext : unsigned = unsigned.takeWhile isDigit ++ fractionText fraction ++ mark := by
          rw [List.append_assoc, ← List.append_nil mark, ← hbehind,
            List.takeWhile_append_dropWhile]
        have hdecimal := DecimalText.intro hsign hmantissa hmark
        dsimp only at hdecimal
        rwa [← htext] at hdecimal

/-! ## The number of a text -/

/-- A text in decimal notation is read as the number of its parts. -/
lemma DecimalText.number {s : String} {negative : Bool} {n : Notation}
    (h : DecimalText negative n (stripBlanks s.toList)) :
    numberOfText? s =
      if n.isWhole = true ∧ n.whole.length ≤ integerDigitLimit then
        some (.int (if negative then -(natOfDigits n.whole : ℤ) else natOfDigits n.whole))
      else Number.ofFloat? (Binary64.ofDecimal negative n.value) := by
  obtain ⟨unsigned, hsign, hscan, hdigits⟩ := decimalText_iff.mp h
  exact numberOfText?_of_scan rfl hsign hscan hdigits

/-- Only text in decimal notation is read as a number. -/
lemma exists_decimalText {s : String} {x : Number} (h : numberOfText? s = some x) :
    ∃ negative n, DecimalText negative n (stripBlanks s.toList) := by
  rw [numberOfText?] at h
  cases hsign : scanSign (stripBlanks s.toList) with
  | mk negative unsigned =>
    rw [hsign] at h
    cases hscan : scan unsigned with
    | mk n rest =>
      dsimp only at h
      rw [hscan] at h
      dsimp only at h
      split at h
      · cases h
      · next hread =>
        rw [Bool.or_eq_true, not_or, Bool.not_eq_true', Bool.not_eq_true', Bool.not_eq_false,
          Bool.not_eq_false, List.isEmpty_iff] at hread
        obtain ⟨rfl, hdigits⟩ := hread
        exact ⟨negative, n, decimalText_iff.mpr ⟨unsigned, hsign, hscan, hdigits⟩⟩

/-- **The number of a text.** Only text in decimal notation, blanks at its ends apart, is read as a
number. A whole number of at most 4300 digits is read as that integer. Every other number is read as
the nearest floating-point number with its sign, ties to even, unless its magnitude is at least
halfway between the greatest finite number and the next power of two: then it is not read as a
number. -/
theorem number?_text (s : String) :
    (∀ x, (Value.text s).number? = some x →
      ∃ negative n, DecimalText negative n (stripBlanks s.toList)) ∧
    (∀ {negative : Bool} {sign ds : List Char}, SignText negative sign → IsDigits ds →
      stripBlanks s.toList = sign ++ ds → ds.length ≤ 4300 →
        (Value.text s).number? =
          some (.int (if negative then -(natOfDigits ds : ℤ) else natOfDigits ds))) ∧
    ∀ {negative : Bool} {n : Notation}, DecimalText negative n (stripBlanks s.toList) →
      ¬(n.isWhole = true ∧ n.whole.length ≤ 4300) →
        ((Value.text s).number? = none ↔ (2 : ℚ) ^ 1024 - 2 ^ 970 ≤ n.magnitude) ∧
        (n.magnitude < (2 : ℚ) ^ 1024 - 2 ^ 970 → ∃ rank : Fin rankLimit,
          (Value.text s).number? = some (.real negative rank) ∧
            Binary64.IsNearest rank n.magnitude) := by
  refine ⟨fun x hx => exists_decimalText hx, fun {negative sign ds} hsign hds htext hlength => ?_,
    fun {negative n} hdecimal hother => ?_⟩
  · have hdecimal := DecimalText.intro hsign (.whole hds) .absent
    rw [List.append_nil, ← htext] at hdecimal
    exact hdecimal.number.trans (if_pos ⟨rfl, hlength⟩)
  · have hnumber : (Value.text s).number? =
        Number.ofFloat? (Binary64.ofDecimal negative n.value) :=
      hdecimal.number.trans (if_neg hother)
    rw [hnumber, ← n.toRat_value]
    rcases le_or_gt Binary64.overflow n.value.toRat with hlarge | hsmall
    · rw [Binary64.ofDecimal_infinite hlarge]
      exact ⟨iff_of_true rfl hlarge, fun hlt => absurd hlarge (not_le.mpr hlt)⟩
    · obtain ⟨rank, hread, hnearest⟩ := Binary64.exists_nearest hsmall negative
      rw [hread]
      exact ⟨iff_of_false (by simp [Number.ofFloat?]) (not_le.mpr hsmall),
        fun _ => ⟨rank, rfl, hnearest⟩⟩

/-- The number of three texts: an integer with blanks around it and zeros in front, a number without
digits before its point, and a number beyond the point of overflow. -/
theorem number?_text_notations :
    ((∃ negative n, DecimalText negative n (stripBlanks " +007\n".toList)) ∧
      (Value.text " +007\n").number? = some (.int 7)) ∧
    (∃ rank : Fin rankLimit, (Value.text "-.5").number? = some (.real true rank) ∧
      Binary64.IsNearest rank (1 / 2)) ∧
    (Value.text "1e400").number? = none := by
  obtain ⟨hdecimal, hinteger, -⟩ := number?_text " +007\n"
  obtain ⟨-, -, hhalf⟩ := number?_text "-.5"
  obtain ⟨-, -, hlarge⟩ := number?_text "1e400"
  refine ⟨?_, ?_, ?_⟩
  · have hseven : (Value.text " +007\n").number? = some (.int 7) :=
      hinteger .plus (show IsDigits ['0', '0', '7'] from ⟨by decide, by decide⟩) (by decide)
        (by decide)
    exact ⟨hdecimal _ hseven, hseven⟩
  · have htext : DecimalText true ⟨[], some ['5'], none⟩ (stripBlanks "-.5".toList) :=
      .intro .minus (.fraction ⟨by decide, by decide⟩) .absent
    have hvalue : (⟨[], some ['5'], none⟩ : Notation).magnitude = 1 / 2 := by
      norm_num [Notation.magnitude, show natOfDigits [] = 0 by decide,
        show natOfDigits ['5'] = 5 by decide, show powerValue none = 0 by decide]
    have hsmall : (1 / 2 : ℚ) < 2 ^ 1024 - 2 ^ 970 := by
      have hone : (1 : ℚ) ≤ 2 ^ 970 := one_le_pow₀ (by norm_num)
      rw [show (2 : ℚ) ^ 1024 = 2 ^ 970 * 2 ^ 54 by rw [← pow_add]]
      generalize (2 : ℚ) ^ 970 = unit at hone ⊢
      linarith
    obtain ⟨-, hnearest⟩ := hhalf htext (by decide)
    rw [hvalue] at hnearest
    exact hnearest hsmall
  · have htext : DecimalText false ⟨['1'], none, some (false, ['4', '0', '0'])⟩
        (stripBlanks "1e400".toList) :=
      .intro .absent (.whole ⟨by decide, by decide⟩)
        (.present (.inl rfl) .absent ⟨by decide, by decide⟩)
    have hvalue :
        (⟨['1'], none, some (false, ['4', '0', '0'])⟩ : Notation).magnitude = 10 ^ 400 := by
      simp [Notation.magnitude, show natOfDigits ['1'] = 1 by decide,
        show natOfDigits [] = 0 by decide,
        show powerValue (some (false, ['4', '0', '0'])) = 400 by decide]
    have hpowers : (2 : ℚ) ^ 1024 - 2 ^ 970 ≤ 10 ^ 400 :=
      calc (2 : ℚ) ^ 1024 - 2 ^ 970 ≤ 2 ^ 1024 := sub_le_self _ (by positivity)
        _ = (2 ^ 64) ^ 16 := by rw [← pow_mul]
        _ ≤ (10 ^ 25) ^ 16 := by gcongr; norm_num
        _ = 10 ^ 400 := by rw [← pow_mul]
    obtain ⟨hnone, -⟩ := hlarge htext (by decide)
    rw [hvalue] at hnone
    exact hnone.mpr hpowers

end StagedQuery
