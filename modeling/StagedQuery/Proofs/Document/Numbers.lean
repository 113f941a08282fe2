import StagedQuery.Document.Reader
import StagedQuery.Document.Writer
import StagedQuery.Proofs.Number.Notation
import StagedQuery.Proofs.Number.ShortestDigits
import StagedQuery.Proofs.Text.Fronts

set_option relaxedAutoImplicit false
set_option autoImplicit false

/-!
# Numbers, written and read

A number is read from the front of a text as far as it goes. It is read back if what stands behind
it cannot belong to a number.

## Main definitions

* `Document.Delimited` — text that cannot go on with a number.

## Main results

* `Document.scanUnsigned_text` — the parts of a number are read back from its text.
* `Document.scanAtom_intText`, `Document.scanAtom_floatText` — integers and floating-point numbers
  are read back from their texts.
-/

namespace StagedQuery.Document

open Notation

/-- Text that cannot go on with a number. -/
def Delimited (rest : List Char) : Prop :=
  ∀ c, rest.head? = some c → isDigit c = false ∧ c ≠ '.' ∧ c ≠ 'e' ∧ c ≠ 'E'

/-- Text that does not go on with a digit. -/
def Undigited (rest : List Char) : Prop := ∀ c, rest.head? = some c → isDigit c = false

/-- What cannot go on with a number does not go on with a digit. -/
lemma Delimited.undigited {rest : List Char} (h : Delimited rest) : Undigited rest :=
  fun c hc => (h c hc).1

/-! ## The parts of a number -/

/-- The digits before the point are read back. -/
lemma scanWhole_append {ds : List Char} (hds : IsDigits ds)
    (hlead : ds = ['0'] ∨ ds.head? ≠ some '0') {rest : List Char} (hrest : Undigited rest) :
    scanWhole (ds ++ rest) = some (ds, rest) := by
  cases ds with
  | nil => exact absurd rfl hds.1
  | cons c ds =>
    have hc := hds.2 c (by simp)
    have htail : ∀ a ∈ ds, isDigit a = true := fun a ha => hds.2 a (by simp [ha])
    rw [List.cons_append, scanWhole]
    split
    · next hzero =>
      rcases hlead with hone | hne
      · rw [(List.cons.inj hone).2, List.nil_append, hzero]
      · exact absurd (by rw [hzero]; rfl) hne
    · rw [takeWhile_append_of_stops htail hrest, dropWhile_append_of_stops htail hrest]

/-- A fraction is read back. -/
lemma scanFraction_append {fraction : Option (List Char)}
    (h : ∀ ds, fraction = some ds → IsDigits ds) {rest : List Char} (hrest : Undigited rest)
    (hpoint : rest.head? ≠ some '.') :
    scanFraction (fractionText fraction ++ rest) = (fraction, rest) := by
  cases fraction with
  | none =>
    cases rest with
    | nil => rfl
    | cons c rest =>
      rw [fractionText, List.nil_append]
      unfold scanFraction
      split
      · next hcons => exact absurd (congrArg List.head? hcons) hpoint
      · rfl
  | some ds =>
    have hds := h _ rfl
    cases ds with
    | nil => exact absurd rfl hds.1
    | cons d ds =>
      have htail : ∀ a ∈ ds, isDigit a = true := fun a ha => hds.2 a (by simp [ha])
      rw [fractionText, List.cons_append, List.cons_append, scanFraction,
        if_pos (hds.2 d (by simp)), takeWhile_append_of_stops htail hrest,
        dropWhile_append_of_stops htail hrest]

/-- A power of ten is read back. -/
lemma scanPower_append {power : Option (Bool × List Char)}
    (h : ∀ p, power = some p → IsDigits p.2) {rest : List Char} (hrest : Delimited rest) :
    scanPower (powerText power ++ rest) = (power, rest) := by
  cases power with
  | none =>
    cases rest with
    | nil => rfl
    | cons c rest =>
      obtain ⟨-, -, he, hE⟩ := hrest c rfl
      rw [powerText, List.nil_append, scanPower, if_neg (by simp [he, hE])]
  | some p =>
    obtain ⟨negative, ds⟩ := p
    have hds := h _ rfl
    have hsign : scanSign ((if negative then '-' else '+') :: (ds ++ rest)) =
        (negative, ds ++ rest) := by
      cases negative <;> rfl
    rw [powerText, List.cons_append, List.cons_append, scanPower, if_pos (Or.inl rfl), hsign]
    dsimp only
    rw [takeWhile_append_of_stops hds.2 hrest.undigited,
      dropWhile_append_of_stops hds.2 hrest.undigited]
    cases ds with
    | nil => exact absurd rfl hds.1
    | cons d ds => rfl

/-- Behind the digits before the point there is no digit. -/
lemma undigited_parts {n : Notation} {rest : List Char} (hrest : Delimited rest) :
    Undigited (powerText n.power ++ rest) ∧
      Undigited (fractionText n.fraction ++ (powerText n.power ++ rest)) := by
  have hpower : Undigited (powerText n.power ++ rest) := by
    cases hp : n.power with
    | none => exact hrest.undigited
    | some p => rintro c ⟨⟩; decide
  refine ⟨hpower, ?_⟩
  cases hf : n.fraction with
  | none => exact hpower
  | some ds => rintro c ⟨⟩; decide

/-- **The parts of a number are read back** from its text.

**Proof sketch.** Each part is read as far as it goes. The part behind it begins with no digit, and
the part behind a fraction with no point. -/
theorem scanUnsigned_text {n : Notation} (h : n.Canonical) {rest : List Char}
    (hrest : Delimited rest) (negative : Bool) :
    scanUnsigned negative (n.text ++ rest) =
      if n.isWhole then
        if integerDigitLimit < n.whole.length then none
        else some (.int (if negative then -natOfDigits n.whole else natOfDigits n.whole), rest)
      else some (.float (Binary64.ofDecimal negative n.value), rest) := by
  obtain ⟨hpower, hfraction⟩ := undigited_parts (n := n) hrest
  have hpoint : (powerText n.power ++ rest).head? ≠ some '.' := by
    cases hp : n.power with
    | none => exact fun hc => (hrest _ hc).2.1 rfl
    | some p => simp [powerText]
  rw [Notation.text, List.append_assoc, List.append_assoc, scanUnsigned,
    scanWhole_append h.whole h.leading hfraction]
  simp only [Option.bind_eq_bind, Option.bind_some]
  rw [scanFraction_append h.fraction hpower hpoint]
  dsimp only
  rw [scanPower_append h.power hrest]

/-! ## Numbers -/

/-- A digit is none of the letters that begin a word. -/
lemma ne_of_isDigit {c d : Char} (hc : isDigit c = true) (hd : isDigit d = false) : c ≠ d := by
  rintro rfl
  rw [hc] at hd
  exact absurd hd (by decide)

/-- A text that begins with a digit is read as a number without a sign. -/
lemma scanAtom_digit {c : Char} (hc : isDigit c = true) (rest : List Char) :
    scanAtom (c :: rest) = scanUnsigned false (c :: rest) := by
  have hne := fun d hd => ne_of_isDigit (d := d) hc hd
  have hword : ∀ word : String, ∀ d ds, word.toList = d :: ds → isDigit d = false →
      after? word (c :: rest) = none := by
    intro word d ds hword hd
    rw [after?, hword, List.isPrefixOf_cons_cons, beq_false_of_ne (hne d hd).symm, Bool.false_and]
    rfl
  rw [scanAtom, hword "null" 'n' _ rfl (by decide), hword "true" 't' _ rfl (by decide),
    hword "false" 'f' _ rfl (by decide), hword "NaN" 'N' _ rfl (by decide),
    hword "Infinity" 'I' _ rfl (by decide), hword "-Infinity" '-' _ rfl (by decide)]
  exact fun _ heq => hne '-' (by decide) (List.cons.inj heq).1

/-- A text that begins with a minus and a digit is read as a negative number. -/
lemma scanAtom_minus {c : Char} (hc : isDigit c = true) (rest : List Char) :
    scanAtom ('-' :: c :: rest) = scanUnsigned true (c :: rest) := by
  have hinfinity : after? "-Infinity" ('-' :: c :: rest) = none := by
    rw [after?, show "-Infinity".toList = '-' :: 'I' :: "nfinity".toList from rfl,
      List.isPrefixOf_cons_cons, List.isPrefixOf_cons_cons,
      beq_false_of_ne (ne_of_isDigit (d := 'I') hc (by decide)).symm, Bool.false_and,
      Bool.and_false]
    rfl
  have hword : ∀ word : String, ∀ d ds, word.toList = d :: ds → d ≠ '-' →
      after? word ('-' :: c :: rest) = none := by
    intro word d ds hword hd
    rw [after?, hword, List.isPrefixOf_cons_cons, beq_false_of_ne hd, Bool.false_and]
    rfl
  rw [scanAtom, hword "null" 'n' _ rfl (by decide), hword "true" 't' _ rfl (by decide),
    hword "false" 'f' _ rfl (by decide), hword "NaN" 'N' _ rfl (by decide),
    hword "Infinity" 'I' _ rfl (by decide), hinfinity]

/-- The text of canonical parts begins with a digit. -/
lemma exists_text_eq_cons {n : Notation} (h : n.Canonical) :
    ∃ c cs, n.text = c :: cs ∧ isDigit c = true := by
  cases hw : n.whole with
  | nil => exact absurd hw h.whole.1
  | cons c ds =>
    refine ⟨c, ds ++ fractionText n.fraction ++ powerText n.power, ?_, h.whole.2 c (by simp [hw])⟩
    rw [Notation.text, hw]
    rfl

/-- The text of canonical parts with or without a minus is read as a number with that sign. -/
lemma scanAtom_signed {n : Notation} (h : n.Canonical) (negative : Bool) (rest : List Char) :
    scanAtom ((if negative then '-' :: n.text else n.text) ++ rest) =
      scanUnsigned negative (n.text ++ rest) := by
  obtain ⟨c, cs, htext, hc⟩ := exists_text_eq_cons h
  cases negative with
  | true => rw [if_pos rfl, htext, List.cons_append, List.cons_append, scanAtom_minus hc]
  | false =>
    rw [if_neg (by decide), htext, List.cons_append, scanAtom_digit hc]

/-- The parts of an integer without its sign. -/
def wholeParts (n : ℤ) : Notation := ⟨digitsOf n.natAbs, none, none⟩

/-- The parts of an integer are canonical. -/
lemma canonical_wholeParts (n : ℤ) : (wholeParts n).Canonical :=
  ⟨isDigits_digitsOf _, leading_digitsOf _, by simp [wholeParts], by simp [wholeParts]⟩

/-- The text of an integer is that of its parts, with a minus if it is negative. -/
lemma toList_intText (n : ℤ) :
    (intText n).toList =
      if decide (n < 0) then '-' :: (wholeParts n).text else (wholeParts n).text := by
  rw [intText]
  by_cases hneg : n < 0
  · rw [if_pos hneg, if_pos (decide_eq_true hneg), String.toList_append]
    simp [wholeParts, Notation.text, fractionText, powerText, digitsOf]
  · rw [if_neg hneg, if_neg (by simpa using hneg)]
    simp [wholeParts, Notation.text, fractionText, powerText, digitsOf]

/-- **An integer is read back** from its text, provided that it is not too long. -/
theorem scanAtom_intText {n : ℤ} (h : (digitsOf n.natAbs).length ≤ integerDigitLimit)
    {rest : List Char} (hrest : Delimited rest) :
    scanAtom ((intText n).toList ++ rest) = some (.int n, rest) := by
  have hcanonical := canonical_wholeParts n
  have hwhole : (wholeParts n).isWhole = true := rfl
  have hlimit : (wholeParts n).whole.length ≤ integerDigitLimit := h
  have hvalue : (if decide (n < 0) = true then -(n.natAbs : ℤ) else n.natAbs) = n := by
    split
    · next hneg => rw [decide_eq_true_eq] at hneg; omega
    · next hneg => rw [decide_eq_true_eq] at hneg; omega
  rw [toList_intText, scanAtom_signed hcanonical, scanUnsigned_text hcanonical hrest, if_pos hwhole,
    if_neg (by omega), wholeParts, natOfDigits_digitsOf, hvalue]

/-- The text of a floating-point number that is finite is that of parts that denote it. -/
lemma exists_notation_text (negative : Bool) (rank : Fin rankLimit) :
    ∃ n : Notation, n.Canonical ∧ n.isWhole = false ∧
      Binary64.ofDecimal negative n.value = .finite negative rank ∧
      (Binary64.text (.finite negative rank)).toList =
        if negative then '-' :: n.text else n.text := by
  have htext : ∀ magnitude : String, (if negative then "-" ++ magnitude else magnitude).toList =
      if negative then '-' :: magnitude.toList else magnitude.toList := by
    intro magnitude
    cases negative <;> simp [String.toList_append]
  rw [Binary64.text, htext]
  by_cases hzero : rank.val = 0
  · refine ⟨⟨['0'], some ['0'], none⟩, ⟨isDigits_zero, Or.inl rfl, ?_, by simp⟩, rfl, ?_, ?_⟩
    · rintro _ ⟨⟩
      exact isDigits_zero
    · rw [Binary64.ofDecimal, if_pos (by decide), Binary64.zero]
      congr 1
      exact Fin.ext hzero.symm
    · rw [if_pos hzero]
      rfl
  · have hrank : 0 < rank.val := Nat.pos_of_ne_zero hzero
    obtain ⟨hpos, haround⟩ := Shortest.digits_spec hrank
    obtain ⟨n, hcanonical, hwhole, hvalue, hwrite⟩ :=
      Shortest.spells_write Shortest.layout hpos
    refine ⟨n, hcanonical, hwhole, ?_, ?_⟩
    · rw [← hvalue] at haround
      have hcoefficient : 0 < n.value.coefficient := by
        have hsign := Binary64.pos_of_around hrank haround
        rw [Decimal.toRat] at hsign
        exact_mod_cast (mul_pos_iff_of_pos_right (by positivity)).mp hsign
      exact Binary64.ofDecimal_eq hcoefficient hrank rank.isLt haround negative
    · rw [if_neg hzero, String.toList_ofList, hwrite]

/-- **A floating-point number is read back** from its text. -/
theorem scanAtom_floatText (x : Binary64) {rest : List Char} (hrest : Delimited rest) :
    scanAtom ((floatText x).toList ++ rest) = some (.float x, rest) := by
  cases x with
  | nan => rfl
  | infinite negative => cases negative <;> rfl
  | finite negative rank =>
    obtain ⟨n, hcanonical, hwhole, hvalue, htext⟩ := exists_notation_text negative rank
    rw [floatText, htext, scanAtom_signed hcanonical, scanUnsigned_text hcanonical hrest, hwhole,
      hvalue]
    · rfl
    all_goals simp

end StagedQuery.Document
