import StagedQuery.Proofs.Document.Numbers
import StagedQuery.Value.Numeric

set_option relaxedAutoImplicit false
set_option autoImplicit false

/-!
# Texts that look like numbers

The parts of a number in decimal notation are told apart in a text that is put together from them.
So the text that a number is shown with looks like that number: no information is lost in either
direction between a number and its text.

## Main results

* `Notation.scan_parts` — the parts of a number are told apart in its text.
* `numberOfText?_of_scan` — the number of a text, by its parts.
* `numberOfText?_intText`, `numberOfText?_floatText` — the text of an integer that is not too long,
  and that of a finite floating-point number, look like that number.
-/

namespace StagedQuery

open Document Notation

/-! ## The parts of a number -/

/-- A fraction is told apart from what stands behind it. -/
lemma Notation.scanFraction_parts {fraction : Option (List Char)} {mark : List Char}
    (hfraction : ∀ ds, fraction = some ds → ∀ c ∈ ds, isDigit c = true)
    (hstops : Stops isDigit mark) (hpoint : mark.head? ≠ some '.') :
    Notation.scanFraction (fractionText fraction ++ mark) = (fraction, mark) := by
  cases fraction with
  | none =>
    rw [fractionText, List.nil_append]
    unfold Notation.scanFraction
    split
    · exact absurd rfl hpoint
    · rfl
  | some ds =>
    rw [fractionText, List.cons_append, Notation.scanFraction,
      takeWhile_append_of_stops (hfraction ds rfl) hstops,
      dropWhile_append_of_stops (hfraction ds rfl) hstops]

/-- **The parts of a number are told apart** in a text that is put together from them: digits, an
optional point with digits behind it, and what is read as a power of ten. -/
lemma Notation.scan_parts {whole : List Char} {fraction : Option (List Char)}
    {power : Option (Bool × List Char)} {mark : List Char}
    (hwhole : ∀ c ∈ whole, isDigit c = true)
    (hfraction : ∀ ds, fraction = some ds → ∀ c ∈ ds, isDigit c = true)
    (hpower : scanPower mark = (power, [])) (hstops : Stops isDigit mark)
    (hpoint : mark.head? ≠ some '.') :
    Notation.scan (whole ++ (fractionText fraction ++ mark)) = (⟨whole, fraction, power⟩, []) := by
  have hbehind : Stops isDigit (fractionText fraction ++ mark) := by
    cases fraction with
    | none => exact hstops
    | some ds => exact stops_cons.mpr (by decide)
  rw [Notation.scan, dropWhile_append_of_stops hwhole hbehind,
    takeWhile_append_of_stops hwhole hbehind,
    Notation.scanFraction_parts hfraction hstops hpoint]
  dsimp only
  rw [hpower]

/-- Canonical parts are told apart in their text. -/
lemma Notation.Canonical.scan_text {n : Notation} (h : n.Canonical) :
    Notation.scan n.text = (n, []) := by
  have hdelimited : Delimited [] := by
    intro c hc
    cases hc
  have hpower := scanPower_append h.power hdelimited
  rw [List.append_nil] at hpower
  have hstops : Stops isDigit (powerText n.power) := by
    have hundigited := (undigited_parts (n := n) hdelimited).1
    rwa [List.append_nil] at hundigited
  have hpoint : (powerText n.power).head? ≠ some '.' := by
    cases n.power <;> simp [powerText]
  rw [Notation.text, List.append_assoc]
  exact Notation.scan_parts h.whole.2 (fun ds hds => (h.fraction ds hds).2) hpower hstops hpoint

/-! ## The number of a text -/

/-- **The number of a text by its parts**: what stands between the blanks at its ends is a sign, if
there is one, and the parts of a number. -/
lemma numberOfText?_of_scan {s : String} {cs unsigned : List Char} {negative : Bool}
    {parts : Notation} (hstrip : stripBlanks s.toList = cs)
    (hsign : scanSign cs = (negative, unsigned)) (hscan : Notation.scan unsigned = (parts, []))
    (hdigits : parts.hasDigits = true) :
    numberOfText? s =
      if parts.isWhole = true ∧ parts.whole.length ≤ integerDigitLimit then
        some (.int (if negative then -(natOfDigits parts.whole : ℤ) else natOfDigits parts.whole))
      else Number.ofFloat? (Binary64.ofDecimal negative parts.value) := by
  rw [numberOfText?, hstrip, hsign]
  dsimp only
  rw [hscan]
  simp only [hdigits, List.isEmpty_nil, Bool.not_true, Bool.or_self, Bool.false_eq_true, if_false,
    Bool.and_eq_true, decide_eq_true_eq]

/-- A text without blanks has none at its ends. -/
lemma stripBlanks_of_not_blank {cs : List Char} (h : ∀ c ∈ cs, isBlank c = false) :
    stripBlanks cs = cs := by
  have hdrop : ∀ ds : List Char, (∀ c ∈ ds, isBlank c = false) → ds.dropWhile isBlank = ds := by
    intro ds hds
    cases ds with
    | nil => rfl
    | cons d ds => rw [List.dropWhile_cons, if_neg (by simp [hds d])]
  rw [stripBlanks, hdrop cs h, hdrop cs.reverse fun c hc => h c (List.mem_reverse.mp hc),
    List.reverse_reverse]

/-- A digit is not blank. -/
lemma not_isBlank_of_isDigit {c : Char} (h : isDigit c = true) : isBlank c = false :=
  isBlank_of_isWordChar (isWordChar_of_isDigit h)

/-- No blank stands in the text of canonical parts. -/
lemma Notation.Canonical.not_isBlank {n : Notation} (h : n.Canonical) :
    ∀ c ∈ n.text, isBlank c = false := by
  intro c hc
  rw [Notation.text, List.mem_append, List.mem_append] at hc
  rcases hc with (hwhole | hfraction) | hpower
  · exact not_isBlank_of_isDigit (h.whole.2 c hwhole)
  · cases hf : n.fraction with
    | none => simp [hf, fractionText] at hfraction
    | some ds =>
      rw [hf, fractionText, List.mem_cons] at hfraction
      rcases hfraction with rfl | hmem
      · decide
      · exact not_isBlank_of_isDigit ((h.fraction ds hf).2 c hmem)
  · cases hp : n.power with
    | none => simp [hp, powerText] at hpower
    | some p =>
      obtain ⟨negative, ds⟩ := p
      rw [hp, powerText, List.mem_cons, List.mem_cons] at hpower
      rcases hpower with rfl | rfl | hmem
      · decide
      · cases negative <;> decide
      · exact not_isBlank_of_isDigit ((h.power _ hp).2 c hmem)

/-- The sign of a number is told apart from its digits. -/
lemma scanSign_signed {n : Notation} (h : n.Canonical) (negative : Bool) :
    scanSign (if negative then '-' :: n.text else n.text) = (negative, n.text) := by
  cases negative with
  | true => rfl
  | false =>
    obtain ⟨c, cs, htext, hc⟩ := exists_text_eq_cons h
    rw [if_neg (by decide), htext]
    unfold scanSign
    split
    · next heq => exact absurd (List.cons.inj heq).1 (ne_of_isDigit hc (by decide))
    · next heq => exact absurd (List.cons.inj heq).1 (ne_of_isDigit hc (by decide))
    · rfl

/-- The text of canonical parts with or without a minus is the text of their number. -/
lemma numberOfText?_signed {n : Notation} (h : n.Canonical) (negative : Bool) {s : String}
    (hs : s.toList = if negative then '-' :: n.text else n.text) :
    numberOfText? s =
      if n.isWhole = true ∧ n.whole.length ≤ integerDigitLimit then
        some (.int (if negative then -(natOfDigits n.whole : ℤ) else natOfDigits n.whole))
      else Number.ofFloat? (Binary64.ofDecimal negative n.value) := by
  have hstrip : stripBlanks s.toList = if negative then '-' :: n.text else n.text := by
    rw [hs]
    refine stripBlanks_of_not_blank fun c hc => ?_
    cases negative with
    | true =>
      rw [if_pos rfl, List.mem_cons] at hc
      rcases hc with rfl | hmem
      · decide
      · exact h.not_isBlank c hmem
    | false => exact h.not_isBlank c hc
  have hdigits : n.hasDigits = true := by
    simp [Notation.hasDigits, h.whole.1]
  exact numberOfText?_of_scan hstrip (scanSign_signed h negative) h.scan_text hdigits

/-! ## The texts of numbers -/

/-- **The text of an integer** looks like that integer, provided that it is not too long. -/
theorem numberOfText?_intText {n : ℤ} (h : (digitsOf n.natAbs).length ≤ integerDigitLimit) :
    numberOfText? (intText n) = some (.int n) := by
  have hwhole : (wholeParts n).isWhole = true ∧ (wholeParts n).whole.length ≤ integerDigitLimit :=
    ⟨rfl, h⟩
  rw [numberOfText?_signed (canonical_wholeParts n) _ (toList_intText n), if_pos hwhole,
    wholeParts, natOfDigits_digitsOf]
  congr 2
  split
  · next hneg =>
    rw [decide_eq_true_eq] at hneg
    omega
  · next hneg =>
    rw [decide_eq_true_eq] at hneg
    omega

/-- **The text of a finite floating-point number** looks like that number. -/
theorem numberOfText?_floatText (negative : Bool) (rank : Fin rankLimit) :
    numberOfText? (Binary64.text (.finite negative rank)) = some (.real negative rank) := by
  obtain ⟨n, hcanonical, hwhole, hvalue, htext⟩ := exists_notation_text negative rank
  rw [numberOfText?_signed hcanonical negative htext, if_neg (by simp [hwhole]), hvalue]
  rfl

end StagedQuery
