import Mathlib.Data.List.Infix
import StagedQuery.Pipeline.Routing

set_option relaxedAutoImplicit false
set_option autoImplicit false

/-!
# Words without regard to case

There are two ways to tell which word stands in a text: the lexer takes its capital form, and the
routing of statements compares letter by letter without regard to case. For the words that
statements begin with, the first way implies the second.

## Main definitions

* `openingWords` — the words that statements begin with.

## Main results

* `capitalOf_cases` — the capital form of a character by the three tables.
* `sameLetter_of_capital` — a character whose capital form is an ASCII letter is the same letter.
* `afterWord_of_capitals` — a word whose capital form is an opening word is that word but for case.
-/

namespace StagedQuery

open CaseMap CharTable

/-- The words that statements begin with. -/
def openingWords : List (List Char) :=
  ["CREATE", "TABLE", "DROP", "INSERT", "INTO", "SELECT", "UPDATE", "DELETE", "FROM", "SAVE",
    "LOAD", "DATABASE"].map String.toList

/-! ## Capital forms -/

/-- The capital form of a character: the basic one, a long one, or another character. -/
lemma capitalOf_cases (c : Char) :
    (c.toNat < 128 ∧ capitalOf c = [c.toUpper]) ∨
    (∃ entry ∈ longCapitals, capitalOf c = entry.2.map Char.ofNat) ∨
    (128 ≤ c.toNat ∧ capitalOf c = [image capitals c]) := by
  rw [capitalOf]
  by_cases hbasic : c.toNat < 128
  · exact .inl ⟨hbasic, if_pos hbasic⟩
  · rw [if_neg hbasic]
    cases hlong : longCapitals.find? (·.1 == c.toNat) with
    | some entry => exact .inr (.inl ⟨entry, List.mem_of_find?_eq_some hlong, rfl⟩)
    | none => exact .inr (.inr ⟨by omega, rfl⟩)

/-- The images of the table of capitals are beyond ASCII, and characters, but for two entries: the
dotless `i` and the long `s`. -/
lemma capitals_beyond : ∀ run ∈ capitals,
    (128 ≤ run.2.2.2 ∧ (run.2.2.2 + (run.2.1 - run.1) < 0xD800 ∨
      (0xE000 ≤ run.2.2.2 ∧ run.2.2.2 + (run.2.1 - run.1) < 0x110000))) ∨
    run = (0x131, 0x131, 1, 0x49) ∨ run = (0x17F, 0x17F, 1, 0x53) := by
  decide +kernel

/-- Every basic character is the same letter as its capital form. -/
lemma sameLetter_toUpper {c : Char} (h : c.toNat < 128) : sameLetter c.toUpper c = true := by
  have hall : ∀ n : Fin 128, sameLetter (Char.ofNat n.val).toUpper (Char.ofNat n.val) = true := by
    decide +kernel
  have hc := hall ⟨c.toNat, h⟩
  rwa [Char.ofNat_toNat] at hc

/-- The code of a character that is given by a valid code. -/
lemma toNat_ofNat_of_valid {n : ℕ} (h : n < 0xD800 ∨ (0xE000 ≤ n ∧ n < 0x110000)) :
    (Char.ofNat n).toNat = n := by
  have hvalid : n.isValidChar := by
    rw [Nat.isValidChar]
    omega
  rw [Char.ofNat, dif_pos hvalid]
  rfl

/-- **A character whose capital form is an ASCII letter** is the same letter.

**Proof sketch.** A character beyond ASCII has an image beyond ASCII, except by the two special
entries of the table. For these two the comparison agrees. -/
lemma sameLetter_of_capital {c u : Char} (hu : u.toNat < 128) (h : capitalOf c = [u])
    (hlong : ∀ entry ∈ longCapitals, capitalOf c ≠ entry.2.map Char.ofNat) :
    sameLetter u c = true := by
  rcases capitalOf_cases c with ⟨hbasic, hupper⟩ | ⟨entry, hentry, heq⟩ | ⟨hbeyond, himage⟩
  · rw [hupper] at h
    rw [← List.singleton_inj.mp h]
    exact sameLetter_toUpper hbasic
  · exact absurd heq (hlong entry hentry)
  · rw [himage, List.singleton_inj, image, image?] at h
    cases hfind : capitals.find? (CaseRun.covers · c.toNat) with
    | none =>
      rw [hfind] at h
      obtain rfl : c = u := h
      omega
    | some run =>
      rw [hfind] at h
      have hcovers := List.find?_some hfind
      simp only [CaseRun.covers, Bool.and_eq_true, decide_eq_true_eq] at hcovers
      obtain ⟨⟨hfirst, hlast⟩, -⟩ := hcovers
      have hcode : Char.ofNat (run.2.2.2 + (c.toNat - run.1)) = u := h
      rcases capitals_beyond run (List.mem_of_find?_eq_some hfind) with
        ⟨hlarge, hvalid⟩ | hrun | hrun
      · rw [← hcode, toNat_ofNat_of_valid (by omega)] at hu
        omega
      · subst hrun
        dsimp only at hfirst hlast
        obtain rfl : c = Char.ofNat 0x131 := by
          rw [← Char.ofNat_toNat c, show c.toNat = 0x131 by omega]
        rw [← hcode]
        decide +kernel
      · subst hrun
        dsimp only at hfirst hlast
        obtain rfl : c = Char.ofNat 0x17F := by
          rw [← Char.ofNat_toNat c, show c.toNat = 0x17F by omega]
        rw [← hcode]
        decide +kernel

/-! ## Opening words -/

/-- Opening words are written in ASCII. -/
lemma openingWords_basic : ∀ word ∈ openingWords, ∀ u ∈ word, u.toNat < 128 := by
  have h : (openingWords.all fun word => word.all fun u => u.toNat < 128) = true := by
    decide +kernel
  simpa only [List.all_eq_true, decide_eq_true_eq] using h

/-- No long capital form stands in an opening word. -/
lemma openingWords_short : ∀ word ∈ openingWords, ∀ tail ∈ word.tails, ∀ entry ∈ longCapitals,
    (entry.2.map Char.ofNat).isPrefixOf tail = false := by
  have h : (openingWords.all fun word => word.tails.all fun tail => longCapitals.all fun entry =>
      !(entry.2.map Char.ofNat).isPrefixOf tail) = true := by
    decide +kernel
  simpa only [List.all_eq_true, Bool.not_eq_true'] using h

/-- **A word whose capital form is an opening word** is that word without regard to case.

**Proof sketch.** Induction on the characters, for every end of the opening word. The capital form
of the first character is no long one, since none stands in an opening word. So it is one ASCII
letter, which is the same letter as the character. -/
lemma afterWord_of_capitals {word : List Char} (hword : word ∈ openingWords) (rest : List Char) :
    ∀ (cs tail : List Char), tail <:+ word → cs.flatMap capitalOf = tail →
      afterWord tail (cs ++ rest) = some rest := by
  intro cs
  induction cs with
  | nil =>
    rintro tail - rfl
    rfl
  | cons c cs ih =>
    rintro tail htail heq
    rw [List.flatMap_cons] at heq
    have hlong : ∀ entry ∈ longCapitals, capitalOf c ≠ entry.2.map Char.ofNat := by
      intro entry hentry hcapital
      have hnot := openingWords_short word hword tail ((List.mem_tails tail word).mpr htail) entry
        hentry
      rw [← hcapital, ← heq, List.isPrefixOf_iff_prefix.mpr (List.prefix_append _ _)] at hnot
      exact absurd hnot (by decide)
    obtain ⟨u, hu⟩ : ∃ u, capitalOf c = [u] := by
      rcases capitalOf_cases c with ⟨-, h⟩ | ⟨entry, hentry, h⟩ | ⟨-, h⟩
      · exact ⟨_, h⟩
      · exact absurd h (hlong entry hentry)
      · exact ⟨_, h⟩
    rw [hu, List.singleton_append] at heq
    subst heq
    have hbasic : u.toNat < 128 := openingWords_basic word hword u (htail.subset (by simp))
    rw [List.cons_append, afterWord, if_pos (sameLetter_of_capital hbasic hu hlong)]
    exact ih (cs.flatMap capitalOf) ((List.suffix_cons u _).trans htail) rfl

end StagedQuery
