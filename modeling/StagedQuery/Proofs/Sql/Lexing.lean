import Mathlib.Data.List.DropRight
import StagedQuery.Proofs.Sql.Lexemes
import StagedQuery.Proofs.Success

set_option relaxedAutoImplicit false
set_option autoImplicit false

/-!
# Texts as sequences of tokens

The tokens of a text without their places: the kind of each token and its text as written. They are
given by rules that do not count characters, so that texts can be cut into parts and put together.

## Main definitions

* `Token.content` — a token without its place.
* `Lexed` — the tokens of a text, by the rules of `Lexeme`.

## Main results

* `lexed_of_tokenize`, `tokenize_of_lexed` — the tokens of a text are those that the rules give.
* `exists_lexeme_of_tokenize` — each token of a text comes from one rule.
* `Lexed.strip` — blanks at the ends of a text do not matter.
-/

namespace StagedQuery

/-- The kind of a token and its text as written. -/
def Token.content (t : Token) : TokenKind × String := (t.kind, t.lexeme)

/-- What every text ends with. -/
def endContent : TokenKind × String := (.finish, "")

/-- The tokens of a text up to its end: blanks are passed over, and at every other place there is a
token. -/
inductive Lexed : List Char → List (TokenKind × String) → Prop
  | nil : Lexed [] []
  | blank {c : Char} {cs : List Char} {ws : List (TokenKind × String)} (hc : isBlank c = true)
    (h : Lexed cs ws) : Lexed (c :: cs) ws
  | token {c : Char} {word rest : List Char} {kind : TokenKind} {ws : List (TokenKind × String)}
    (hword : Lexeme c word kind rest) (h : Lexed rest ws) :
    Lexed (c :: (word ++ rest)) ((kind, String.ofList (c :: word)) :: ws)

/-! ## The lexer -/

/-- The characters of a token that are left are passed over. -/
lemma tokensFrom_skip (cs : List Char) : ∀ (skip : ℕ) (place : Cursor), skip ≤ cs.length →
    ∃ place', tokensFrom skip place cs = tokensFrom 0 place' (cs.drop skip) := by
  induction cs with
  | nil =>
    intro skip place hskip
    obtain rfl : skip = 0 := by simpa using hskip
    exact ⟨place, rfl⟩
  | cons c cs ih =>
    intro skip place hskip
    cases skip with
    | zero => exact ⟨place, rfl⟩
    | succ skip =>
      rw [List.length_cons] at hskip
      rw [tokensFrom, List.drop_succ_cons]
      exact ih skip (place.past c) (by omega)

/-- The lexer reads the tokens that the rules give, from every place. -/
lemma tokensFrom_of_lexed {cs : List Char} {ws : List (TokenKind × String)} (h : Lexed cs ws) :
    ∀ place : Cursor, ∃ tokens, tokensFrom 0 place cs = .ok tokens ∧
      tokens.map Token.content = ws ++ [endContent] := by
  induction h with
  | nil => exact fun place => ⟨_, rfl, rfl⟩
  | blank hc _ ih =>
    intro place
    rw [tokensFrom, if_pos hc]
    exact ih _
  | @token c word rest kind ws hword _ ih =>
    intro place
    obtain ⟨place', hskip⟩ := tokensFrom_skip (word ++ rest) word.length (place.past c) (by simp)
    obtain ⟨tokens, htokens, hcontent⟩ := ih place'
    rw [List.drop_left, htokens] at hskip
    rw [tokensFrom, if_neg (by simp [hword.not_isBlank_first])]
    simp only [scan_of_lexeme hword, hskip, List.take_left]
    exact ⟨_, rfl, by rw [List.map_cons, hcontent]; rfl⟩

/-- What the lexer reads are the tokens that the rules give, and the end of the text.

**Proof sketch.** Induction on the text. Characters of the token before and blanks are passed over;
at every other character one token is read. -/
lemma lexed_of_tokensFrom (cs : List Char) : ∀ (skip : ℕ) (place : Cursor) (tokens : List Token),
    tokensFrom skip place cs = .ok tokens → ∃ body last, tokens = body ++ [last] ∧
      last.content = endContent ∧ Lexed (cs.drop skip) (body.map Token.content) := by
  induction cs with
  | nil =>
    intro skip place tokens h
    rw [tokensFrom] at h
    rw [List.drop_nil]
    exact ⟨[], _, (Except.ok.inj h).symm, rfl, .nil⟩
  | cons c cs ih =>
    intro skip place tokens h
    unfold tokensFrom at h
    split at h
    · exact ih _ _ tokens h
    · split at h
      · next hblank =>
        obtain ⟨body, last, rfl, hlast, hlexed⟩ := ih _ _ tokens h
        exact ⟨body, last, rfl, hlast, .blank hblank hlexed⟩
      · split at h
        · cases h
        · next kind more hscan =>
          obtain ⟨later, hlater, rfl⟩ := map_eq_ok.mp h
          obtain ⟨word, rest, rfl, rfl, hword⟩ := exists_of_scan hscan
          obtain ⟨body, last, rfl, hlast, hlexed⟩ := ih _ _ later hlater
          rw [List.drop_left] at hlexed
          rw [List.take_left]
          exact ⟨_ :: body, last, rfl, hlast, .token hword hlexed⟩

/-- **The tokens of a text** are those that the rules give, and the end of the text. -/
theorem lexed_of_tokenize {text : String} {tokens : List Token} (h : tokenize text = .ok tokens) :
    ∃ body last, tokens = body ++ [last] ∧ last.content = endContent ∧
      Lexed text.toList (body.map Token.content) := lexed_of_tokensFrom text.toList 0 _ tokens h

/-- **A text with tokens by the rules** has these tokens. -/
theorem tokenize_of_lexed {text : String} {ws : List (TokenKind × String)}
    (h : Lexed text.toList ws) :
    ∃ tokens, tokenize text = .ok tokens ∧ tokens.map Token.content = ws ++ [endContent] :=
  tokensFrom_of_lexed h _

/-- Each of the tokens that the rules give comes from one rule. -/
lemma Lexed.exists_lexeme {cs : List Char} {ws : List (TokenKind × String)} (h : Lexed cs ws)
    {w : TokenKind × String} (hw : w ∈ ws) :
    ∃ c word rest, Lexeme c word w.1 rest ∧ w.2 = String.ofList (c :: word) := by
  induction h with
  | nil => cases hw
  | blank _ _ ih => exact ih hw
  | token hword _ ih =>
    rcases List.mem_cons.mp hw with rfl | hw
    · exact ⟨_, _, _, hword, rfl⟩
    · exact ih hw

/-- **Each token of a text** comes from one rule, but for the one that ends the text. -/
theorem exists_lexeme_of_tokenize {text : String} {tokens : List Token}
    (h : tokenize text = .ok tokens) : ∃ body last, tokens = body ++ [last] ∧
      last.kind = .finish ∧ ∀ t ∈ body, ∃ c word rest, Lexeme c word t.kind rest ∧
        t.lexeme = String.ofList (c :: word) := by
  obtain ⟨body, last, rfl, hlast, hlexed⟩ := lexed_of_tokenize h
  exact ⟨body, last, rfl, (Prod.mk.inj hlast).1, fun t ht =>
    hlexed.exists_lexeme (List.mem_map_of_mem ht)⟩

/-! ## Blanks at the ends -/

namespace Lexed

variable {cs : List Char} {ws : List (TokenKind × String)}

/-- A text without tokens is blank. -/
lemma isBlank_of_nil (h : Lexed cs []) : ∀ c ∈ cs, isBlank c = true := by
  generalize hws : ([] : List (TokenKind × String)) = ws at h
  induction h with
  | nil => simp
  | blank hc _ ih => exact List.forall_mem_cons.mpr ⟨hc, ih hws⟩
  | token => cases hws

/-- Blanks in front of a text do not matter. -/
lemma dropWhile (h : Lexed cs ws) : Lexed (cs.dropWhile isBlank) ws := by
  induction h with
  | nil => exact .nil
  | blank hc _ ih => rwa [List.dropWhile_cons, if_pos hc]
  | token hword hrest _ =>
    rw [List.dropWhile_cons, if_neg (by simp [hword.not_isBlank_first])]
    exact .token hword hrest

/-- One blank character behind a text does not matter.

**Proof sketch.** Induction on the tokens. The last character is not that of a token, since no token
ends with a blank; so the token in front stands before it, and stays as it is. -/
lemma of_concat {b : Char} (hb : isBlank b = true) {whole : List Char} (h : Lexed whole ws) :
    ∀ cs, whole = cs ++ [b] → Lexed cs ws := by
  induction h with
  | nil => simp
  | @blank c cs' ws hc h ih =>
    intro cs heq
    cases cs with
    | nil =>
      obtain ⟨-, rfl⟩ : c = b ∧ cs' = [] := by simpa using heq
      exact h
    | cons d cs =>
      obtain ⟨rfl, rfl⟩ : c = d ∧ cs' = cs ++ [b] := by simpa using heq
      exact .blank hc (ih cs rfl)
  | @token c word rest kind ws hword h ih =>
    intro cs heq
    rcases List.eq_nil_or_concat rest with rfl | ⟨front, d, rfl⟩
    · rw [List.append_nil] at heq
      exact absurd hb (by simp [hword.not_isBlank_last heq])
    · rw [List.concat_eq_append, ← List.append_assoc, ← List.cons_append] at heq
      obtain ⟨rfl, hd⟩ := List.append_inj' heq rfl
      obtain rfl := List.singleton_inj.mp hd
      rw [List.concat_eq_append] at hword ih
      exact .token (hword.of_prefix (List.prefix_append front [d])) (ih front rfl)

/-- Blanks behind a text do not matter. -/
lemma rdropWhile (h : Lexed cs ws) : Lexed (cs.rdropWhile isBlank) ws := by
  induction cs using List.reverseRecOn with
  | nil => exact h
  | append_singleton cs b ih =>
    rw [List.rdropWhile_concat]
    split
    · next hb => exact ih (h.of_concat hb cs rfl)
    · exact h

/-- **Blanks at the ends of a text** do not matter. -/
lemma strip (h : Lexed cs ws) : Lexed (stripBlanks cs) ws := h.dropWhile.rdropWhile

/-- A text has no tokens exactly if nothing but blanks stands in it. -/
lemma stripBlanks_eq_nil (h : Lexed cs ws) : stripBlanks cs = [] ↔ ws = [] := by
  constructor
  · intro hstrip
    have hnil := h.strip
    rw [hstrip] at hnil
    cases hnil
    rfl
  · rintro rfl
    rw [stripBlanks, List.dropWhile_eq_nil_iff.mpr h.isBlank_of_nil]
    rfl

end Lexed

end StagedQuery
