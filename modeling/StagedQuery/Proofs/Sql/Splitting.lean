import Mathlib.Data.List.Forall2
import StagedQuery.Proofs.Sql.Lexing
import StagedQuery.Sql.Script

set_option relaxedAutoImplicit false
set_option autoImplicit false

/-!
# Scripts and their tokens

Three scanners look for quotes in a text: the lexer, which reads a doubled quote as one character,
and the two that look for semicolons, which close and open the quote there. They agree: a semicolon
separates statements exactly if it is a token.

## Main definitions

* `Sealed` — characters that hold no semicolon outside quotes and leave no quote open.
* `isSeparator` — the tokens that separate statements.

## Main results

* `Lexeme.sealed` — every token but a semicolon is sealed.
* `Lexed.pieces` — the pieces of a text have the tokens between its semicolons.
* `tokenize_statementTexts` — the statements of a script have the tokens of the script, piece by
  piece.
-/

namespace StagedQuery

/-! ## Sealed characters -/

/-- Characters that hold no semicolon outside quotes, where `quote` is open before them, and leave
no quote open. -/
def Sealed : (quote : Option Char) → List Char → Prop
  | quote, [] => quote = none
  | quote, c :: cs => ¬(quote.isNone ∧ c = ';') ∧ Sealed (quoteAfter quote c) cs

/-- Plain characters are sealed. -/
lemma sealed_of_plain {cs : List Char} (h : ∀ c ∈ cs, IsPlainChar c) : Sealed none cs := by
  induction cs with
  | nil => rfl
  | cons c cs ih =>
    obtain ⟨⟨-, hsemicolon, hsingle, hdouble⟩, hrest⟩ := List.forall_mem_cons.mp h
    refine ⟨fun hc => hsemicolon hc.2, ?_⟩
    rw [quoteAfter, if_neg (by simp [hsingle, hdouble])]
    exact ih hrest

/-- Text with doubled quotes is sealed by the closing quote.

**Proof sketch.** Induction on the text. A doubled quote closes and opens the quote, and every other
character leaves it open. -/
lemma sealed_doubled {quote : Char} (hquote : quote = '\x27' ∨ quote = '\x22')
    (content : List Char) : Sealed (some quote) (doubled quote content ++ [quote]) := by
  have hopen : quoteAfter none quote = some quote := if_pos hquote
  have hclose : quoteAfter (some quote) quote = none := if_pos rfl
  have hplain : quote ≠ ';' := by rcases hquote with rfl | rfl <;> decide
  induction content with
  | nil => exact ⟨by simp, hclose⟩
  | cons c content ih =>
    by_cases hc : c = quote
    · subst hc
      rw [doubled_quote]
      refine ⟨by simp, ?_⟩
      rw [hclose]
      refine ⟨fun h => hplain h.2, ?_⟩
      rwa [hopen]
    · rw [doubled_cons hc]
      refine ⟨by simp, ?_⟩
      rwa [quoteAfter, if_neg hc]

/-- **Every token but a semicolon is sealed.** -/
lemma Lexeme.sealed {c : Char} {word rest : List Char} {kind : TokenKind}
    (h : Lexeme c word kind rest) (hkind : kind ≠ .mark .semicolon) : Sealed none (c :: word) := by
  rcases h.cases_plain with ⟨-, -, hsemicolon⟩ | ⟨content, hquote, rfl, -⟩ | ⟨-, hplain⟩
  · exact absurd hsemicolon hkind
  · refine ⟨?_, ?_⟩
    · rcases hquote with rfl | rfl <;> decide
    · rw [quoteAfter, if_pos hquote]
      exact sealed_doubled hquote content
  · exact sealed_of_plain hplain

/-- A blank character is sealed. -/
lemma sealed_blank {c : Char} (h : isBlank c = true) : Sealed none [c] := by
  have hne : ∀ d ∈ signs, c ≠ d := by
    rintro d hd rfl
    rw [isBlank_of_mem_signs hd] at h
    cases h
  refine ⟨fun hc => hne ';' (by decide) hc.2, if_neg ?_⟩
  rintro (hc | hc)
  · exact hne _ (by decide) hc
  · exact hne _ (by decide) hc

/-! ## Sealed characters in a text -/

/-- A text has a first piece, which is a front of it. -/
lemma exists_piecesFrom (quote : Option Char) (cs : List Char) :
    ∃ piece pieces, piecesFrom quote cs = piece :: pieces ∧ piece <+: cs := by
  induction cs generalizing quote with
  | nil => exact ⟨[], [], rfl, List.nil_prefix⟩
  | cons c cs ih =>
    rw [piecesFrom]
    split
    · exact ⟨[], _, rfl, List.nil_prefix⟩
    · obtain ⟨piece, pieces, hpieces, hprefix⟩ := ih (quoteAfter quote c)
      rw [hpieces]
      exact ⟨c :: piece, pieces, rfl, List.cons_prefix_cons.mpr ⟨rfl, hprefix⟩⟩

/-- Sealed characters at the front of a text belong to its first piece. -/
lemma Sealed.pieces {quote : Option Char} {cs : List Char} (h : Sealed quote cs)
    {rest piece : List Char} {pieces : List (List Char)}
    (hrest : piecesFrom none rest = piece :: pieces) :
    piecesFrom quote (cs ++ rest) = (cs ++ piece) :: pieces := by
  induction cs generalizing quote with
  | nil =>
    obtain rfl : quote = none := h
    exact hrest
  | cons c cs ih =>
    rw [List.cons_append, piecesFrom, if_neg h.1, ih h.2]
    rfl

/-- Sealed characters at the front of a text complete no statement. -/
lemma Sealed.complete {quote : Option Char} {cs : List Char} (h : Sealed quote cs)
    (rest : List Char) : completeFrom quote (cs ++ rest) = completeFrom none rest := by
  induction cs generalizing quote with
  | nil =>
    obtain rfl : quote = none := h
    rfl
  | cons c cs ih => rw [List.cons_append, completeFrom, if_neg h.1, ih h.2]

/-- Sealed characters one behind the other. -/
lemma Sealed.append {quote : Option Char} {cs rest : List Char} (h : Sealed quote cs)
    (hrest : Sealed none rest) : Sealed quote (cs ++ rest) := by
  induction cs generalizing quote with
  | nil =>
    obtain rfl : quote = none := h
    exact hrest
  | cons c cs ih => exact ⟨h.1, ih h.2⟩

/-- **A script of one statement** has that statement, and nothing behind its semicolon. -/
lemma statementTexts_of_sealed {text : String} (h : Sealed none text.toList)
    (hne : strip text ≠ "") : statementTexts (text ++ ";") = [strip text] := by
  have hpieces : piecesFrom none (text ++ ";").toList = [text.toList, []] := by
    have hsemicolon : piecesFrom none ";".toList = [[], []] := rfl
    rw [String.toList_append, h.pieces hsemicolon, List.append_nil]
  have hkept : (stripBlanks text.toList).isEmpty = false := by
    rw [List.isEmpty_eq_false_iff]
    intro hempty
    exact hne (by rw [strip, hempty])
  rw [statementTexts, hpieces, List.map_cons, List.map_cons, List.map_nil, List.filter_cons,
    hkept, List.filter_cons]
  rfl

/-! ## Pieces and tokens -/

/-- Whether a token separates statements. -/
def isSeparator (w : TokenKind × String) : Bool := w.1 = .mark .semicolon

/-- A token separates statements exactly if it is a semicolon. -/
lemma isSeparator_content (t : Token) :
    isSeparator t.content = true ↔ t.kind = .mark .semicolon := decide_eq_true_iff

/-- **The pieces of a text have the tokens between its semicolons.**

**Proof sketch.** Induction on the tokens. A semicolon begins a new piece on both sides. Blanks and
all other tokens are sealed, so they go to the first piece; the token stays as it is, since the
piece is a front of the text. -/
theorem Lexed.pieces {cs : List Char} {ws : List (TokenKind × String)} (h : Lexed cs ws) :
    List.Forall₂ Lexed (piecesFrom none cs) (ws.splitOnP isSeparator) := by
  induction h with
  | nil =>
    rw [List.splitOnP_nil]
    exact .cons .nil .nil
  | @blank c cs ws hc _ ih =>
    obtain ⟨piece, pieces, hpieces, -⟩ := exists_piecesFrom none cs
    rw [hpieces] at ih
    rw [show c :: cs = [c] ++ cs from rfl, (sealed_blank hc).pieces hpieces]
    generalize ws.splitOnP isSeparator = parts at ih
    cases ih with
    | cons hpiece hrest => exact .cons (.blank hc hpiece) hrest
  | @token c word rest kind ws hword _ ih =>
    rw [List.splitOnP_cons_eq_if_modifyHead]
    by_cases hkind : kind = .mark .semicolon
    · obtain ⟨rfl, rfl⟩ := hword.of_semicolon hkind
      rw [if_pos (by simpa [isSeparator] using hkind), List.nil_append, piecesFrom,
        if_pos ⟨rfl, rfl⟩]
      exact .cons .nil ih
    · obtain ⟨piece, pieces, hpieces, hprefix⟩ := exists_piecesFrom none rest
      rw [hpieces] at ih
      rw [if_neg (by simpa [isSeparator] using hkind), ← List.cons_append,
        (hword.sealed hkind).pieces hpieces]
      generalize ws.splitOnP isSeparator = parts at ih
      cases ih with
      | cons hpiece hrest => exact .cons (.token (hword.of_prefix hprefix) hpiece) hrest

/-- A text without semicolons among its tokens is sealed. -/
lemma Lexed.sealed {cs : List Char} {ws : List (TokenKind × String)} (h : Lexed cs ws)
    (hws : ∀ w ∈ ws, w.1 ≠ .mark .semicolon) : Sealed none cs := by
  induction h with
  | nil => rfl
  | blank hc _ ih => exact (sealed_blank hc).append (ih hws)
  | token hword _ ih =>
    obtain ⟨hkind, hrest⟩ := List.forall_mem_cons.mp hws
    exact (hword.sealed hkind).append (ih hrest)

/-- **A text is complete** exactly if one of its tokens is a semicolon. -/
theorem Lexed.complete {cs : List Char} {ws : List (TokenKind × String)} (h : Lexed cs ws) :
    completeFrom none cs = ws.any isSeparator := by
  induction h with
  | nil => rfl
  | @blank c cs ws hc _ ih =>
    rw [show c :: cs = [c] ++ cs from rfl, (sealed_blank hc).complete, ih]
  | @token c word rest kind ws hword _ ih =>
    rw [List.any_cons]
    by_cases hkind : kind = .mark .semicolon
    · obtain ⟨rfl, rfl⟩ := hword.of_semicolon hkind
      rw [List.nil_append, completeFrom, if_pos ⟨rfl, rfl⟩, hkind]
      rfl
    · rw [← List.cons_append, (hword.sealed hkind).complete, ih]
      simp [isSeparator, hkind]

/-! ## Whole scripts -/

/-- **The statements of a script have its tokens.** Let a script have tokens. Cut at its semicolons,
without the empty parts, they are the tokens of its statements, one part for each statement in
order, with the same kinds, values and texts. A script is complete exactly if it has a semicolon
among its tokens. -/
theorem tokenize_statementTexts {script : String} {tokens : List Token}
    (h : tokenize script = .ok tokens) :
    ∃ body last, tokens = body ++ [last] ∧ last.content = endContent ∧
      List.Forall₂ (fun text part => ∃ ts, tokenize text = .ok ts ∧
          ts.map Token.content = part ++ [endContent])
        (statementTexts script)
        (((body.map Token.content).splitOnP isSeparator).filter (!·.isEmpty)) ∧
      (isComplete script = true ↔ ∃ t ∈ tokens, t.kind = .mark .semicolon) := by
  obtain ⟨body, last, rfl, hlast, hlexed⟩ := lexed_of_tokenize h
  refine ⟨body, last, rfl, hlast, ?_, ?_⟩
  · rw [statementTexts, List.forall₂_map_left_iff]
    refine List.Forall₂.imp (fun piece part hpiece => ?_) (List.rel_filter
      (R := fun piece part => Lexed piece part ∧ (piece = [] ↔ part = [])) ?_ ?_)
    · exact tokenize_of_lexed (by rw [String.toList_ofList]; exact hpiece.1)
    · rintro piece part ⟨-, hempty⟩
      simp [hempty]
    · rw [List.forall₂_map_left_iff]
      exact hlexed.pieces.imp fun piece part hpiece => ⟨hpiece.strip, hpiece.stripBlanks_eq_nil⟩
  · rw [isComplete, hlexed.complete, List.any_map, List.any_eq_true]
    have hfinish : last.kind ≠ .mark .semicolon := by
      rw [show last.kind = .finish from congrArg Prod.fst hlast]
      simp
    simp only [Function.comp_apply, isSeparator_content, List.mem_append, List.mem_singleton,
      or_and_right, exists_or, exists_eq_left, hfinish, or_false]

/-- Of the five semicolons of this script, two stand inside quotes. The others cut it into two
statements. -/
theorem tokenize_statementTexts_quotes :
    ∃ body last, tokenize "a ';''\";' ;; b;" = .ok (body ++ [last]) ∧
      body.map Token.lexeme = ["a", "';''\";'", ";", ";", "b", ";"] ∧
      ∃ first second,
        ((body.map Token.content).splitOnP isSeparator).filter (!·.isEmpty) = [first, second] ∧
        (∃ ts, tokenize "a ';''\";'" = .ok ts ∧ ts.map Token.content = first ++ [endContent]) ∧
        ∃ ts, tokenize "b" = .ok ts ∧ ts.map Token.content = second ++ [endContent] := by
  have hlexemes : (tokenize "a ';''\";' ;; b;").toOption.map (·.dropLast.map Token.lexeme) =
      some ["a", "';''\";'", ";", ";", "b", ";"] := by decide +kernel
  have htexts : statementTexts "a ';''\";' ;; b;" = ["a ';''\";'", "b"] := by decide +kernel
  obtain ⟨tokens, htokens, hmap⟩ := Option.map_eq_some_iff.mp hlexemes
  rw [toOption_eq_some] at htokens
  obtain ⟨body, last, rfl, -, hparts, -⟩ := tokenize_statementTexts htokens
  rw [List.dropLast_concat] at hmap
  refine ⟨body, last, htokens, hmap, ?_⟩
  rw [htexts] at hparts
  generalize ((body.map Token.content).splitOnP isSeparator).filter (!·.isEmpty) = parts at hparts
  rcases hparts with - | ⟨hfirst, - | ⟨hsecond, ⟨⟩⟩⟩
  exact ⟨_, _, rfl, hfirst, hsecond⟩

end StagedQuery
