import Mathlib.Data.List.Basic
import StagedQuery.Text.Blank
import StagedQuery.Text.Letters

set_option relaxedAutoImplicit false
set_option autoImplicit false

/-!
# Fronts of texts

How far the characters of a class reach at the front of a text, and which classes of characters have
nothing in common.

## Main definitions

* `Stops` — a text does not go on with a character of a class.
* `blankCodes`, `signs` — the codes of the blank characters, and the characters that are signs of
  statement text.

## Main results

* `takeWhile_append_of_stops`, `dropWhile_append_of_stops` — the characters of a class at the front
  of a text, up to where they stop.
* `isBlank_of_isWordChar`, `not_isDigit_of_isNameStart`, `not_mem_signs_of_isWordChar` — the classes
  that exclude each other.
-/

namespace StagedQuery

/-! ## How far a class reaches -/

/-- A text does not go on with a character of a class. -/
def Stops (p : Char → Bool) (rest : List Char) : Prop := ∀ c, rest.head? = some c → p c = false

/-- The empty text does not go on. -/
lemma stops_nil (p : Char → Bool) : Stops p [] := by
  intro c hc
  cases hc

/-- A text goes on with its first character. -/
lemma stops_cons {p : Char → Bool} {c : Char} {rest : List Char} :
    Stops p (c :: rest) ↔ p c = false :=
  ⟨fun h => h c rfl, fun h d hd => by rwa [← Option.some.inj hd]⟩

/-- Where a text does not go on, its front does not. -/
lemma Stops.of_prefix {p : Char → Bool} {front rest : List Char} (h : Stops p rest)
    (hfront : front <+: rest) : Stops p front := by
  cases front with
  | nil => exact stops_nil p
  | cons c front =>
    obtain ⟨more, rfl⟩ := hfront
    exact stops_cons.mpr (stops_cons.mp h)

/-- What is left behind the characters of a class does not go on with one. -/
lemma stops_dropWhile (p : Char → Bool) (cs : List Char) : Stops p (cs.dropWhile p) := by
  intro c hc
  have h := List.head?_dropWhile_not p cs
  rw [hc] at h
  simpa using h

/-- The characters of a class are taken from the front of a text as far as they go. -/
lemma takeWhile_append_of_stops {p : Char → Bool} {word rest : List Char}
    (hword : ∀ c ∈ word, p c = true) (hrest : Stops p rest) :
    (word ++ rest).takeWhile p = word := by
  rw [List.takeWhile_append_of_pos hword]
  cases rest with
  | nil => simp
  | cons c rest => rw [List.takeWhile_cons, stops_cons.mp hrest]; simp

/-- What is left behind the characters of a class at the front of a text. -/
lemma dropWhile_append_of_stops {p : Char → Bool} {word rest : List Char}
    (hword : ∀ c ∈ word, p c = true) (hrest : Stops p rest) :
    (word ++ rest).dropWhile p = rest := by
  rw [List.dropWhile_append_of_pos hword]
  cases rest with
  | nil => rfl
  | cons c rest => rw [List.dropWhile_cons, stops_cons.mp hrest]; simp

/-- The characters of a class at the front of a text are of the class. -/
lemma mem_takeWhile {p : Char → Bool} {cs : List Char} {c : Char} (h : c ∈ cs.takeWhile p) :
    p c = true := List.all_eq_true.mp List.all_takeWhile c h

/-! ## Classes that exclude each other -/

/-- What holds of all characters of a text is decided over the text. Without this instance the
characters there are would be gone through. -/
instance decidableForallMem (p : Char → Prop) [DecidablePred p] (cs : List Char) :
    Decidable (∀ c ∈ cs, p c) := List.decidableBAll p cs

/-- The codes of the blank characters. -/
def blankCodes : List ℕ :=
  List.range' 9 5 ++ List.range' 28 5 ++ [0x85, 0xA0, 0x1680] ++ List.range' 0x2000 11
    ++ [0x2028, 0x2029, 0x202F, 0x205F, 0x3000]

/-- A blank character has one of these codes. -/
lemma mem_blankCodes {c : Char} (h : isBlank c = true) : c.toNat ∈ blankCodes := by
  simp only [isBlank, Bool.or_eq_true, decide_eq_true_eq, beq_iff_eq] at h
  simp only [blankCodes, List.mem_append, List.mem_range'_1, List.mem_cons, List.not_mem_nil]
  omega

/-- No blank character may stand in a name. -/
lemma isWordChar_of_isBlank {c : Char} (h : isBlank c = true) : isWordChar c = false := by
  have hall : ∀ n ∈ blankCodes, isWordChar (Char.ofNat n) = false := by decide +kernel
  have hc := hall c.toNat (mem_blankCodes h)
  rwa [Char.ofNat_toNat] at hc

/-- No character of a name is blank. -/
lemma isBlank_of_isWordChar {c : Char} (h : isWordChar c = true) : isBlank c = false := by
  cases hblank : isBlank c with
  | false => rfl
  | true => rw [isWordChar_of_isBlank hblank] at h; cases h

/-- A digit may stand in a name. -/
lemma isWordChar_of_isDigit {c : Char} (h : isDigit c = true) : isWordChar c = true := by
  have hcode : c.toNat < 128 := by
    rw [isDigit, Bool.and_eq_true, decide_eq_true_eq, decide_eq_true_eq] at h
    have hle : c.toNat ≤ '9'.toNat := h.2
    have hnine : '9'.toNat = 57 := rfl
    omega
  simp [isWordChar, isAlphanumeric, hcode, h]

/-- No name begins with a digit. -/
lemma not_isDigit_of_isNameStart {c : Char} (h : isNameStart c = true) : isDigit c = false := by
  have hall : ∀ n ∈ List.range' 48 10, isNameStart (Char.ofNat n) = false := by decide +kernel
  cases hdigit : isDigit c with
  | false => rfl
  | true =>
    rw [isDigit, Bool.and_eq_true, decide_eq_true_eq, decide_eq_true_eq] at hdigit
    have hzero : 48 ≤ c.toNat := hdigit.1
    have hnine : c.toNat ≤ 57 := hdigit.2
    have hc := hall c.toNat (by rw [List.mem_range'_1]; omega)
    rw [Char.ofNat_toNat, h] at hc
    cases hc

/-- The signs of statement text: those of comparisons, the marks, the quotes and the point. -/
def signs : List Char := "!<>=(),;*-+'\".".toList

/-- No sign may stand in a name. -/
lemma not_mem_signs_of_isWordChar {c : Char} (h : isWordChar c = true) : c ∉ signs := by
  have hall : ∀ d ∈ signs, isWordChar d = false := by decide +kernel
  intro hc
  rw [hall c hc] at h
  cases h

/-- No sign is blank. -/
lemma isBlank_of_mem_signs {c : Char} (h : c ∈ signs) : isBlank c = false := by
  have hall : ∀ d ∈ signs, isBlank d = false := by decide +kernel
  exact hall c h

end StagedQuery
