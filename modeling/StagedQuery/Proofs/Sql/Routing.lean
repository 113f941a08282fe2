import StagedQuery.Proofs.Pipeline.Stages
import StagedQuery.Proofs.Sql.Statements
import StagedQuery.Proofs.Sql.Words

set_option relaxedAutoImplicit false
set_option autoImplicit false

/-!
# Texts are routed to the production that reads them

A text that some production reads begins with the words of that kind of statement, and with those of
no other kind. So the stage that takes the text is the one that can read it.

## Main definitions

* `StatementKind.keywords` — the words that a kind of statement begins with, as keywords.

## Main results

* `Production.keywords_prefix` — a statement begins with the keywords of its kind.
* `opens_of_lexed` — a text whose first tokens are the keywords of a kind opens that kind.
* `StatementKind.eq_of_opens` — no text opens two kinds.
* `opening?_of_readStatement` — a text that can be read as a kind of statement is routed to it.
-/

namespace StagedQuery

/-- The keywords that a statement of a kind begins with. -/
def StatementKind.keywords : StatementKind → List Keyword
  | createTable => [.CREATE, .TABLE]
  | dropTable => [.DROP, .TABLE]
  | insert => [.INSERT, .INTO]
  | select => [.SELECT]
  | update => [.UPDATE]
  | delete => [.DELETE, .FROM]
  | save => [.SAVE, .DATABASE]
  | load => [.LOAD, .DATABASE]

/-- The opening words of a kind are the texts of its keywords. -/
lemma StatementKind.opening_eq (kind : StatementKind) :
    kind.opening = kind.keywords.map Keyword.text := by
  cases kind <;> rfl

/-- They are opening words. -/
lemma StatementKind.text_mem_openingWords (kind : StatementKind) :
    ∀ k ∈ kind.keywords, k.text.toList ∈ openingWords := by
  cases kind <;> decide +kernel

/-- A statement begins with the keywords of its kind. -/
lemma Production.keywords_prefix {kind : StatementKind} {ts : List Token} {s : Statement}
    (h : Production kind ts s) : kind.keywords.map TokenKind.keyword <+: ts.map Token.kind := by
  have hopening : ∀ {kinds : List TokenKind} {us vs : List Token}, Spelled kinds us →
      kinds <+: (us ++ vs).map Token.kind := by
    rintro _ us vs rfl
    rw [List.map_append]
    exact List.prefix_append _ _
  cases h with
  | createTable h | dropTable h | insert h | select h | update h | delete h => exact hopening h
  | save h | load h =>
    rw [Spelled] at h
    rw [h]
    exact List.prefix_append [_, _] _

/-! ## Words in the text -/

/-- A word that is a keyword has the text of the keyword as its capital form. -/
lemma capitalize_of_ofWord {word : String} {k : Keyword}
    (h : TokenKind.ofWord word = .keyword k) : capitalize word = k.text := by
  rw [TokenKind.ofWord] at h
  split at h
  · cases h
  · split at h
    · next found =>
      obtain rfl := TokenKind.keyword.inj h
      have htext := List.find?_some found
      exact (beq_iff_eq.mp htext).symm
    · cases h

/-- Only a word is a keyword: it begins like a name, goes on as far as it can, and its capital form
is the keyword. -/
lemma Lexeme.word_of_keyword {c : Char} {word rest : List Char} {k : Keyword}
    (h : Lexeme c word (.keyword k) rest) : isNameStart c = true ∧ Stops isWordChar rest ∧
      (c :: word).flatMap capitalOf = k.text.toList := by
  generalize hkind : TokenKind.keyword k = kind at h
  cases h with
  | word hc hword hstops =>
    refine ⟨hc, hstops, ?_⟩
    rw [← capitalize_of_ofWord hkind.symm, capitalize, String.toList_ofList, String.toList_ofList]
  | relation | mark | quoted | integer | decimal => cases hkind

/-- A word ends where a text does not go on with it. -/
lemma wordEnds_iff {cs : List Char} : wordEnds cs = true ↔ Stops isWordChar cs := by
  cases cs with
  | nil => exact iff_of_true rfl (stops_nil _)
  | cons c cs => rw [wordEnds, stops_cons, Bool.not_eq_true']

/-- A text whose first token is an opening keyword begins with that word, blanks apart, and the
other tokens are those of what follows.

**Proof sketch.** Induction on the tokens. Blanks are passed over. The first token is the word of
the keyword. -/
lemma Lexed.word_of_keyword {k : Keyword} (hk : k.text.toList ∈ openingWords) {s : String}
    {cs : List Char} {ws : List (TokenKind × String)} (h : Lexed cs ((.keyword k, s) :: ws)) :
    ∃ rest, (∃ c cs', cs.dropWhile isBlank = c :: cs' ∧ isWordChar c = true) ∧
      afterWord k.text.toList (cs.dropWhile isBlank) = some rest ∧ wordEnds rest = true ∧
        Lexed rest ws := by
  generalize hws : ((.keyword k, s) :: ws : List (TokenKind × String)) = whole at h
  induction h with
  | nil => cases hws
  | blank hc _ ih =>
    rw [List.dropWhile_cons, if_pos hc]
    exact ih hws
  | @token c word rest kind ws' hword hrest _ =>
    obtain ⟨hfirst, rfl⟩ := List.cons.inj hws
    obtain ⟨rfl, -⟩ := Prod.mk.inj hfirst
    obtain ⟨hname, hstops, hcapitals⟩ := hword.word_of_keyword
    rw [List.dropWhile_cons, if_neg (by simp [hword.not_isBlank_first])]
    exact ⟨rest, ⟨c, _, rfl, isWordChar_of_isNameStart hname⟩,
      afterWord_of_capitals hk rest (c :: word) _ List.suffix_rfl hcapitals,
      wordEnds_iff.mpr hstops, hrest⟩

/-- Behind the end of a word, tokens that begin with opening keywords come from these words with
blanks before each.

**Proof sketch.** Induction on the keywords. The first character behind the end of a word is a
blank, since it does not go on with the word, and the keyword begins a word. -/
lemma Lexed.afterBlankWords {ks : List Keyword} (hks : ∀ k ∈ ks, k.text.toList ∈ openingWords) :
    ∀ {cs : List Char} {ws : List (TokenKind × String)}, wordEnds cs = true → Lexed cs ws →
      ks.map TokenKind.keyword <+: ws.map Prod.fst →
        ∃ rest, afterBlankWords (ks.map Keyword.text) cs = some rest ∧ wordEnds rest = true := by
  induction ks with
  | nil => exact fun hcs _ _ => ⟨_, rfl, hcs⟩
  | cons k ks ih =>
    obtain ⟨hk, hks⟩ := List.forall_mem_cons.mp hks
    rintro cs (- | ⟨⟨kind, s⟩, ws⟩) hcs h hfront
    · simp at hfront
    · rw [List.map_cons, List.map_cons, List.cons_prefix_cons] at hfront
      obtain ⟨rfl, hfront⟩ := hfront
      obtain ⟨rest, ⟨c, cs', hfirst, hc⟩, hword, hends, hrest⟩ := h.word_of_keyword hk
      obtain ⟨final, hfinal, hfinalEnds⟩ := ih hks hends hrest hfront
      refine ⟨final, ?_, hfinalEnds⟩
      cases cs with
      | nil => cases hfirst
      | cons b bs =>
        have hblank : isBlank b = true := by
          by_contra hb
          rw [List.dropWhile_cons, if_neg hb, List.cons.injEq] at hfirst
          simp [wordEnds, hfirst.1, hc] at hcs
        rw [List.dropWhile_cons, if_pos hblank] at hword
        rw [List.map_cons, StagedQuery.afterBlankWords, if_pos hblank, hword]
        exact hfinal

/-- **A text whose first tokens are the keywords of a kind** opens that kind. -/
theorem opens_of_lexed {kind : StatementKind} {text : String} {ws : List (TokenKind × String)}
    (h : Lexed text.toList ws) (hfront : kind.keywords.map TokenKind.keyword <+: ws.map Prod.fst) :
    kind.opens text = true := by
  have hall := kind.text_mem_openingWords
  rw [StatementKind.opens, StatementKind.opening_eq]
  cases hks : kind.keywords with
  | nil => cases kind <;> cases hks
  | cons k ks =>
    rw [hks] at hfront hall
    obtain ⟨hk, hrest⟩ := List.forall_mem_cons.mp hall
    rcases ws with - | ⟨⟨kind, s⟩, ws⟩
    · simp at hfront
    · rw [List.map_cons, List.map_cons, List.cons_prefix_cons] at hfront
      obtain ⟨rfl, hfront⟩ := hfront
      obtain ⟨rest, -, hword, hends, hlexed⟩ := h.word_of_keyword hk
      obtain ⟨final, hfinal, hfinalEnds⟩ := hlexed.afterBlankWords hrest hends hfront
      rw [List.map_cons, afterWords, hword]
      dsimp only
      rw [hfinal]
      exact hfinalEnds

/-! ## One kind for each text -/

/-- A word that stands at the front of a text is a front of it, with representatives for letters. -/
lemma prefix_of_afterWord (word : List Char) : ∀ (cs rest : List Char),
    afterWord word cs = some rest → word.map representative <+: cs.map representative := by
  induction word with
  | nil => exact fun _ _ _ => List.nil_prefix
  | cons w word ih =>
    intro cs rest h
    cases cs with
    | nil => simp [afterWord] at h
    | cons c cs =>
      rw [afterWord] at h
      split at h
      · next hsame =>
        rw [sameLetter, beq_iff_eq] at hsame
        rw [List.map_cons, List.map_cons, hsame, List.cons_prefix_cons]
        exact ⟨rfl, ih cs rest h⟩
      · simp at h

/-- The first word of a kind of statement. -/
def StatementKind.firstWord (kind : StatementKind) : List Char := (kind.opening.headD "").toList

/-- A text that opens a kind begins with the first word of the kind, blanks apart. -/
lemma StatementKind.prefix_of_opens {kind : StatementKind} {text : String}
    (h : kind.opens text = true) :
    kind.firstWord.map representative <+:
      (text.toList.dropWhile isBlank).map representative := by
  have hwords : ∀ (word : String) (words : List String) (rest : List Char),
      afterWords (word :: words) text.toList = some rest →
      word.toList.map representative <+: (text.toList.dropWhile isBlank).map representative := by
    intro word words rest h
    rw [afterWords] at h
    cases hword : afterWord word.toList (text.toList.dropWhile isBlank) with
    | none => simp [hword] at h
    | some rest => exact prefix_of_afterWord _ _ _ hword
  obtain ⟨rest, hrest⟩ : ∃ rest, afterWords kind.opening text.toList = some rest := by
    rw [opens] at h
    cases hafter : afterWords kind.opening text.toList with
    | none => simp [hafter] at h
    | some rest => exact ⟨rest, rfl⟩
  cases kind <;> exact hwords _ _ rest hrest

/-- The first word of no kind begins like that of another one. -/
lemma StatementKind.firstWord_incomparable : ∀ a ∈ readingOrder, ∀ b ∈ readingOrder, a ≠ b →
    (a.firstWord.map representative).isPrefixOf (b.firstWord.map representative) = false := by
  decide +kernel

/-- Every kind of statement is among those that are read. -/
lemma StatementKind.mem_readingOrder (kind : StatementKind) : kind ∈ readingOrder := by
  cases kind <;> decide

/-- **No text opens two kinds of statements.** -/
theorem StatementKind.eq_of_opens {a b : StatementKind} {text : String} (ha : a.opens text = true)
    (hb : b.opens text = true) : a = b := by
  by_contra hne
  have hab := firstWord_incomparable a a.mem_readingOrder b b.mem_readingOrder hne
  have hba := firstWord_incomparable b b.mem_readingOrder a a.mem_readingOrder (Ne.symm hne)
  rcases List.prefix_or_prefix_of_prefix (prefix_of_opens ha) (prefix_of_opens hb) with h | h
  · rw [List.isPrefixOf_iff_prefix.mpr h] at hab
    exact absurd hab (by decide)
  · rw [List.isPrefixOf_iff_prefix.mpr h] at hba
    exact absurd hba (by decide)

/-- **A text that can be read as a kind of statement** is routed to the production of that kind. -/
theorem opening?_of_readStatement {kind : StatementKind} {text : String} {s : Statement}
    (h : readStatement kind text = .ok s) : StatementKind.opening? text = some kind := by
  obtain ⟨ts, rest, last, htokens, hproduction⟩ := exists_production_of_readStatement h
  obtain ⟨body, last', heq, -, hlexed⟩ := lexed_of_tokenize htokens
  obtain ⟨rfl, -⟩ := List.append_inj' heq rfl
  have hopens : kind.opens text = true := by
    refine opens_of_lexed hlexed (hproduction.keywords_prefix.trans ?_)
    rw [List.map_map, List.map_append]
    exact List.prefix_append _ _
  rw [StatementKind.opening?]
  cases hfind : readingOrder.find? (·.opens text) with
  | none =>
    exact absurd hopens (List.find?_eq_none.mp hfind kind kind.mem_readingOrder)
  | some other =>
    have hother := List.find?_some (p := fun k : StatementKind => k.opens text) hfind
    rw [StatementKind.eq_of_opens hother hopens]

end StagedQuery
