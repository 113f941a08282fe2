import StagedQuery.Proofs.Number.Digits
import StagedQuery.Proofs.Sql.Lexing
import StagedQuery.Sql.Parser.Basic

set_option relaxedAutoImplicit false
set_option autoImplicit false

/-!
# What the tokens of a text are like

A token that stands for an integer stands for one with a bounded number of digits. A token that
stands for a floating-point number stands for a number. A token that can be a name is spelled as one
word.

## Main definitions

* `TokenKind.IsPlain` — the two bounds.
* `IsWord`, `IsName` — the texts that are one word, and those that can be names.
* `Token.IsSound` — both for a token.

## Main results

* `sound_of_tokenize` — every token of every text is sound.
-/

namespace StagedQuery

/-! ## Numbers -/

/-- A token whose number, if it has one, is short enough or is a number. -/
def TokenKind.IsPlain : TokenKind → Prop
  | .integer n => (digitsOf n).length ≤ integerDigitLimit
  | .decimal x => x ≠ .nan
  | _ => True

/-- The number nearest to a decimal is a number. -/
lemma Binary64.ofDecimal_ne_nan (negative : Bool) (d : Decimal) :
    Binary64.ofDecimal negative d ≠ .nan := by
  have hrank : ∀ rank, Binary64.ofRank negative rank ≠ .nan := by
    intro rank
    rw [ofRank]
    split <;> simp
  rw [ofDecimal]
  split
  · simp [zero]
  · split
    · simp
    · split
      · simp [zero]
      · split
        · exact hrank _
        · exact hrank _

/-- A number with the other sign is a number as well. -/
lemma Binary64.neg_ne_nan {x : Binary64} (h : x ≠ .nan) : -x ≠ .nan := by
  intro hneg
  cases x with
  | nan => exact h rfl
  | infinite negative => cases hneg
  | finite negative rank => cases hneg

/-! ## Words -/

/-- A text that is one word. -/
def IsWord (s : String) : Prop :=
  ∃ c word, s.toList = c :: word ∧ isNameStart c = true ∧ ∀ d ∈ word, isWordChar d = true

/-- A text that can be the name of a table or a column. -/
structure IsName (s : String) : Prop where
  word : IsWord s
  name : (TokenKind.ofWord s).isName = true

/-! ## Tokens -/

/-- A token as texts have it: its number is short enough or is a number, and if it can be a name, it
is spelled as one. -/
structure Token.IsSound (t : Token) : Prop where
  plain : t.kind.IsPlain
  named : t.kind.isName = true → IsName t.lexeme

namespace Lexeme

variable {c : Char} {word rest : List Char} {kind : TokenKind}

/-- The number of a token by the rules is short enough or is a number. -/
lemma plain (h : Lexeme c word kind rest) : kind.IsPlain := by
  cases h with
  | integer hc hword _ _ hshort =>
    have hdigits : ∀ d ∈ c :: word, isDigit d = true := List.forall_mem_cons.mpr ⟨hc, hword⟩
    exact (length_digitsOf_natOfDigits_le (by simp) hdigits).trans hshort
  | decimal => exact Binary64.ofDecimal_ne_nan _ _
  | word =>
    rcases ofWord_cases (String.ofList (c :: word)) with h | ⟨k, h⟩ | h <;> rw [h] <;> trivial
  | relation | mark | quoted => trivial

/-- A token by the rules that can be a name is spelled as one. -/
lemma isName (h : Lexeme c word kind rest) (hname : kind.isName = true) :
    IsName (String.ofList (c :: word)) := by
  cases h with
  | word hc hword =>
    exact ⟨⟨c, word, String.toList_ofList, hc, hword⟩, hname⟩
  | relation | mark | quoted | integer | decimal => cases hname

end Lexeme

/-- **Every token of every text is sound.** -/
theorem sound_of_tokenize {text : String} {tokens : List Token} (h : tokenize text = .ok tokens) :
    ∀ t ∈ tokens, t.IsSound := by
  obtain ⟨body, last, rfl, hlast, hbody⟩ := exists_lexeme_of_tokenize h
  intro t ht
  rcases List.mem_append.mp ht with ht | ht
  · obtain ⟨c, word, rest, hlexeme, htext⟩ := hbody t ht
    exact ⟨hlexeme.plain, fun hname => htext ▸ hlexeme.isName hname⟩
  · rw [List.mem_singleton.mp ht]
    refine ⟨by rw [hlast]; trivial, fun hname => ?_⟩
    rw [hlast] at hname
    cases hname

end StagedQuery
