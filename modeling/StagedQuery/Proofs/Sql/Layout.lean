import StagedQuery.Proofs.Sql.Lexing

set_option relaxedAutoImplicit false
set_option autoImplicit false

/-!
# The layout of a text does not matter

The tokens of a text, written one behind the other with any blanks between them, are read as the
same tokens again. Each rule for a token asks of the text behind it only that the token cannot go
on there, and no token goes on with a blank.

## Main definitions

* `Spaced` — words with blanks between them.
* `IsLexeme` — a kind and a text that is a token of this kind.

## Main results

* `Lexeme.in_front_of_blank` — a token stays when blanks stand behind it.
* `Spaced.lexed` — words that are tokens are read as these tokens.
* `tokenize_respaced` — a text with other blanks between its tokens has the same tokens.
-/

namespace StagedQuery

/-! ## Tokens in front of blanks -/

/-- A text that begins with a blank, or is empty. -/
def BlankAhead (rest : List Char) : Prop := ∀ c, rest.head? = some c → isBlank c = true

/-- No class of characters that are not blank goes on in front of a blank. -/
lemma BlankAhead.stops {rest : List Char} (h : BlankAhead rest) {p : Char → Bool}
    (hp : ∀ c, p c = true → isBlank c = false) : Stops p rest := by
  intro c hc
  cases hpc : p c with
  | false => rfl
  | true => exact absurd (h c hc) (by simp [hp c hpc])

/-- **A token stays** when other text stands behind it, if that begins with a blank. -/
lemma Lexeme.in_front_of_blank {c : Char} {word behind rest : List Char} {kind : TokenKind}
    (h : Lexeme c word kind behind) (hrest : BlankAhead rest) : Lexeme c word kind rest := by
  have hdigits : Stops isDigit rest :=
    hrest.stops fun d hd => isBlank_of_isWordChar (isWordChar_of_isDigit hd)
  cases h with
  | relation htext _ =>
    refine .relation htext fun s d hd heq => ?_
    have hplain := plain_relation s d (by simp [heq])
    exact absurd (hrest d hd) (by simp [hplain.1])
  | mark hchar => exact .mark hchar
  | quoted hquote _ =>
    refine .quoted hquote fun hc => ?_
    have hblank := hrest c hc
    rcases hquote with rfl | rfl <;> exact absurd hblank (by decide)
  | integer hc hword _ _ hshort =>
    refine .integer hc hword hdigits (fun d more heq => ?_) hshort
    exact absurd (hrest '.' (by rw [heq]; rfl)) (by decide)
  | decimal hc hwhole hfraction hne _ => exact .decimal hc hwhole hfraction hne hdigits
  | word hc hword _ => exact .word hc hword (hrest.stops fun d hd => isBlank_of_isWordChar hd)

/-- A kind and a text that is a token of this kind. -/
def IsLexeme (w : TokenKind × String) : Prop :=
  ∃ c word, w.2 = String.ofList (c :: word) ∧ Lexeme c word w.1 []

/-- The tokens of a text are tokens by themselves. -/
lemma Lexed.isLexeme {cs : List Char} {ws : List (TokenKind × String)} (h : Lexed cs ws)
    {w : TokenKind × String} (hw : w ∈ ws) : IsLexeme w := by
  obtain ⟨c, word, rest, hlexeme, htext⟩ := h.exists_lexeme hw
  exact ⟨c, word, htext, hlexeme.of_prefix List.nil_prefix⟩

/-- **A token is of one kind**: what is written determines it. -/
lemma IsLexeme.kind_unique {kind kind' : TokenKind} {s : String} (h : IsLexeme (kind, s))
    (h' : IsLexeme (kind', s)) : kind = kind' := by
  obtain ⟨c, word, htext, hword⟩ := h
  obtain ⟨c', word', htext', hword'⟩ := h'
  obtain ⟨rfl, rfl⟩ : c = c' ∧ word = word' := by
    simpa using String.ofList_injective (htext.symm.trans htext')
  have hscan := (scan_of_lexeme hword).symm.trans (scan_of_lexeme hword')
  exact (Prod.mk.inj (Except.ok.inj hscan)).1

/-! ## Spaced words -/

/-- Words in their order with blanks between them: at least one between any two, and any number in
front of the first one and behind the last one. -/
inductive Spaced : List String → List Char → Prop
  | nil {gap : List Char} (hgap : ∀ c ∈ gap, isBlank c = true) : Spaced [] gap
  | cons {gap rest : List Char} {word : String} {words : List String}
    (hgap : ∀ c ∈ gap, isBlank c = true) (h : Spaced words rest) (hapart : BlankAhead rest) :
    Spaced (word :: words) (gap ++ (word.toList ++ rest))

/-- Blanks in front of spaced words do not matter. -/
lemma Spaced.blanks {gap cs : List Char} {words : List String}
    (hgap : ∀ c ∈ gap, isBlank c = true) (h : Spaced words cs) : Spaced words (gap ++ cs) := by
  have hmore {gap' : List Char} (hgap' : ∀ c ∈ gap', isBlank c = true) :
      ∀ c ∈ gap ++ gap', isBlank c = true := fun c hc =>
    (List.mem_append.mp hc).elim (hgap c) (hgap' c)
  cases h with
  | nil hgap' => exact .nil (hmore hgap')
  | cons hgap' hrest hapart =>
    rw [← List.append_assoc]
    exact .cons (hmore hgap') hrest hapart

/-- Words joined by a gap of blanks are spaced. -/
lemma spaced_intercalate {gap : String} (hne : gap ≠ "")
    (hgap : ∀ c ∈ gap.toList, isBlank c = true) (words : List String) :
    Spaced words (gap.intercalate words).toList := by
  induction words with
  | nil => exact .nil (by simp)
  | cons word words ih =>
    cases words with
    | nil =>
      have hlast : Spaced [word] ([] ++ (word.toList ++ [])) :=
        .cons (by simp) (.nil (by simp)) (by simp [BlankAhead])
      simpa using hlast
    | cons word' words =>
      have hapart : BlankAhead (gap.toList ++ (gap.intercalate (word' :: words)).toList) := by
        obtain ⟨c, more, heq⟩ := List.exists_cons_of_ne_nil (l := gap.toList) (by simpa using hne)
        rw [heq] at hgap ⊢
        intro d hd
        exact hgap d (by simpa using .inl (Option.some.inj hd).symm)
      have hjoined : Spaced (word :: word' :: words) ([] ++ (word.toList ++
          (gap.toList ++ (gap.intercalate (word' :: words)).toList))) :=
        .cons (by simp) (ih.blanks hgap) hapart
      simpa [String.intercalate_cons_cons] using hjoined

/-! ## Reading spaced words -/

/-- Blanks in front of a text do not matter. -/
lemma Lexed.blanks {gap cs : List Char} {ws : List (TokenKind × String)}
    (hgap : ∀ c ∈ gap, isBlank c = true) (h : Lexed cs ws) : Lexed (gap ++ cs) ws := by
  induction gap with
  | nil => exact h
  | cons c gap ih =>
    obtain ⟨hc, hgap⟩ := List.forall_mem_cons.mp hgap
    exact .blank hc (ih hgap)

/-- **Spaced words** that are tokens are read as these tokens. -/
lemma Spaced.lexed {cs : List Char} : ∀ {ws : List (TokenKind × String)},
    Spaced (ws.map Prod.snd) cs → (∀ w ∈ ws, IsLexeme w) → Lexed cs ws
  | [], h, _ => by
    cases h with
    | nil hgap => simpa using Lexed.nil.blanks hgap
  | (kind, s) :: ws, h, hws => by
    obtain ⟨⟨c, word, htext, hword⟩, hmore⟩ := List.forall_mem_cons.mp hws
    obtain rfl : s = String.ofList (c :: word) := htext
    cases h with
    | cons hgap hrest hapart =>
      rw [String.toList_ofList]
      exact (Lexed.token (hword.in_front_of_blank hapart) (hrest.lexed hmore)).blanks hgap

/-- Words without the empty one that stands for the end of a text. -/
lemma Spaced.of_end {cs : List Char} : ∀ {words : List String}, Spaced (words ++ [""]) cs →
    Spaced words cs
  | [], h => by
    cases h with
    | cons hgap hrest _ =>
      cases hrest with
      | nil hgap' =>
        rw [String.toList_empty, List.nil_append]
        exact .nil fun c hc => (List.mem_append.mp hc).elim (hgap c) (hgap' c)
  | word :: words, h => by
    cases h with
    | cons hgap hrest hapart => exact .cons hgap hrest.of_end hapart

/-- **Layout does not change the tokens.** The tokens of a text, written one behind the other with
any blanks between them, are the tokens of what has been written: the same kinds, with their values,
and the same texts. This is so where the same blanks stand in every gap, and where each gap has its
own. -/
theorem tokenize_respaced {text : String} {tokens : List Token} (h : tokenize text = .ok tokens) :
    (∀ gap : String, gap ≠ "" → (∀ c ∈ gap.toList, isBlank c = true) →
      ∃ tokens', tokenize (gap.intercalate (tokens.map Token.lexeme)) = .ok tokens' ∧
        tokens'.map Token.content = tokens.map Token.content) ∧
      ∀ text' : String, Spaced (tokens.map Token.lexeme) text'.toList →
        ∃ tokens', tokenize text' = .ok tokens' ∧
          tokens'.map Token.content = tokens.map Token.content := by
  have hany (text' : String) (hspaced : Spaced (tokens.map Token.lexeme) text'.toList) :
      ∃ tokens', tokenize text' = .ok tokens' ∧
        tokens'.map Token.content = tokens.map Token.content := by
    obtain ⟨body, last, rfl, hlast, hlexed⟩ := lexed_of_tokenize h
    have hend : last.lexeme = "" := (Prod.mk.inj hlast).2
    rw [List.map_append, List.map_singleton, hend] at hspaced
    have hbody : (body.map Token.content).map Prod.snd = body.map Token.lexeme := by
      simp [Token.content]
    obtain ⟨tokens', htokens', hcontent⟩ := tokenize_of_lexed
      ((hbody ▸ hspaced.of_end).lexed fun w hw => hlexed.isLexeme hw)
    exact ⟨tokens', htokens', by simp [hcontent, hlast]⟩
  exact ⟨fun gap hne hgap => hany _ (spaced_intercalate hne hgap _), hany⟩

/-- A text without blanks has six tokens, and has them still with newlines between them. -/
theorem tokenize_respaced_lines : (tokenize "a<=1.5'it''s'!=b").toOption.map (·.map Token.lexeme) =
      some ["a", "<=", "1.5", "'it''s'", "!=", "b", ""] ∧
    ∃ tokens tokens', tokenize "a<=1.5'it''s'!=b" = .ok tokens ∧
      tokenize "a\n<=\n1.5\n'it''s'\n!=\nb\n" = .ok tokens' ∧
      tokens'.map Token.content = tokens.map Token.content := by
  have hlexemes : (tokenize "a<=1.5'it''s'!=b").toOption.map (·.map Token.lexeme) =
      some ["a", "<=", "1.5", "'it''s'", "!=", "b", ""] := by decide +kernel
  obtain ⟨tokens, htokens, htexts⟩ := Option.map_eq_some_iff.mp hlexemes
  have h : tokenize "a<=1.5'it''s'!=b" = .ok tokens := toOption_eq_some.mp htokens
  obtain ⟨tokens', htokens', hcontent⟩ := (tokenize_respaced h).1 "\n" (by decide) (by decide)
  rw [htexts] at htokens'
  exact ⟨hlexemes, tokens, tokens', h, htokens', hcontent⟩

end StagedQuery
