import StagedQuery.Proofs.Sql.Routing
import StagedQuery.Proofs.Sql.Written

set_option relaxedAutoImplicit false
set_option autoImplicit false

/-!
# Basic texts begin with the words that their tokens say

The routing of a statement compares its first words letter by letter, and the lexer takes the
longest words that it can and looks up their capital forms. For texts of basic characters the two
agree: a letter without regard to case is a letter with that capital form, so a word that the
routing has found is the whole word that the lexer reads there.

## Main results

* `word_of_afterWord` — the characters in which the routing finds a word.
* `Lexed.of_word` — the first token of a text that begins with a word.
* `StatementKind.opens_iff_of_tokenize` — a basic text opens a kind of statement exactly if its
  first tokens are the keywords of the kind.
-/

namespace StagedQuery

open CaseMap

/-! ## Basic letters -/

/-- The capital letters of opening words. -/
lemma openingWords_capital : ∀ word ∈ openingWords, ∀ u ∈ word,
    isAsciiLetter u = true ∧ representative u = u := by
  have h : (openingWords.all fun word => word.all fun u =>
      isAsciiLetter u && representative u == u) = true := by
    decide
  simpa only [List.all_eq_true, Bool.and_eq_true, beq_iff_eq] using h

/-- A basic character whose capital is a letter begins a word. -/
lemma isNameStart_of_toUpper {c : Char} (hc : c.toNat < 128)
    (h : isAsciiLetter c.toUpper = true) : isNameStart c = true := by
  have hall : ∀ n : Fin 128, isAsciiLetter (Char.ofNat n.val).toUpper = true →
      isNameStart (Char.ofNat n.val) = true := by
    decide
  have hn := hall ⟨c.toNat, hc⟩
  rw [Char.ofNat_toNat] at hn
  exact hn h

/-- **The characters in which a word is found** without regard to case have the word as their
capital form, and each of them may begin a word. -/
lemma word_of_afterWord {word : List Char}
    (hword : ∀ u ∈ word, isAsciiLetter u = true ∧ representative u = u) :
    ∀ {cs rest : List Char}, (∀ c ∈ cs, c.toNat < 128) → afterWord word cs = some rest →
      ∃ front, cs = front ++ rest ∧ front.flatMap capitalOf = word ∧
        ∀ c ∈ front, isNameStart c = true := by
  induction word with
  | nil =>
    intro cs rest _ h
    obtain rfl : cs = rest := Option.some.inj h
    exact ⟨[], rfl, rfl, by simp⟩
  | cons u word ih =>
    obtain ⟨⟨hletter, hcapital⟩, hword⟩ := List.forall_mem_cons.mp hword
    rintro (- | ⟨c, cs⟩) rest hbasic h
    · cases h
    · obtain ⟨hc, hbasic⟩ := List.forall_mem_cons.mp hbasic
      rw [afterWord] at h
      split at h
      · next hsame =>
        rw [sameLetter, beq_iff_eq, hcapital, representative, if_pos hc] at hsame
        obtain ⟨front, rfl, hfront, hstart⟩ := ih hword hbasic h
        refine ⟨c :: front, rfl, ?_, List.forall_mem_cons.mpr ⟨?_, hstart⟩⟩
        · rw [List.flatMap_cons, capitalOf, if_pos hc, hfront, ← hsame]
          rfl
        · exact isNameStart_of_toUpper hc (hsame ▸ hletter)
      · cases h

/-! ## Words as tokens -/

/-- A word is a keyword exactly if its capital form is the text of the keyword. -/
lemma ofWord_eq_keyword_iff {word : String} {k : Keyword} :
    TokenKind.ofWord word = .keyword k ↔ capitalize word = k.text := by
  refine ⟨capitalize_of_ofWord, fun h => ?_⟩
  have hcapital : capitalize word = capitalize k.text :=
    h.trans (capitalize_of_ofWord (ofWord_keyword k)).symm
  rw [← ofWord_keyword k, TokenKind.ofWord, TokenKind.ofWord, hcapital]

/-- **The first token of a text that begins with a word** is that word, and the other tokens are
those of what follows.

**Proof sketch.** The lexer gives one token at this place, and the rule for words gives the word. -/
lemma Lexed.of_word {c : Char} {word rest : List Char} {ws : List (TokenKind × String)}
    (hc : isNameStart c = true) (hword : ∀ d ∈ word, isWordChar d = true)
    (hstops : Stops isWordChar rest) (h : Lexed (c :: (word ++ rest)) ws) :
    ∃ ws', ws = (.ofWord (String.ofList (c :: word)), String.ofList (c :: word)) :: ws' ∧
      Lexed rest ws' := by
  generalize hcs : c :: (word ++ rest) = cs at h
  cases h with
  | nil => cases hcs
  | blank hblank _ =>
    obtain ⟨rfl, -⟩ := List.cons.inj hcs
    rw [isBlank_of_isWordChar (isWordChar_of_isNameStart hc)] at hblank
    cases hblank
  | @token c' word' rest' kind ws' hlexeme hrest =>
    obtain ⟨rfl, heq⟩ := List.cons.inj hcs
    have hscan := scan_of_lexeme (Lexeme.word hc hword hstops)
    rw [heq, scan_of_lexeme hlexeme, Except.ok.injEq, Prod.mk.injEq] at hscan
    obtain ⟨rfl, hlength⟩ := hscan
    obtain ⟨rfl, rfl⟩ := List.append_inj heq hlength.symm
    exact ⟨ws', rfl, hrest⟩

/-- An opening keyword that the routing finds at the front of a basic text, and that ends there, is
the first token. -/
lemma Lexed.keyword_of_afterWord {kind : StatementKind} {k : Keyword} (hk : k ∈ kind.keywords)
    {cs rest : List Char} {ws : List (TokenKind × String)} (hbasic : ∀ c ∈ cs, c.toNat < 128)
    (h : Lexed cs ws) (hafter : afterWord k.text.toList (cs.dropWhile isBlank) = some rest)
    (hends : wordEnds rest = true) :
    ∃ s ws', ws = (.keyword k, s) :: ws' ∧ Lexed rest ws' ∧ ∀ c ∈ rest, c.toNat < 128 := by
  have hcapitals := openingWords_capital _ (kind.text_mem_openingWords k hk)
  have hbasic' : ∀ c ∈ cs.dropWhile isBlank, c.toNat < 128 :=
    fun c hc => hbasic c ((List.dropWhile_sublist _).subset hc)
  obtain ⟨front, hfront, hcapital, hstart⟩ := word_of_afterWord hcapitals hbasic' hafter
  have hlexed := h.dropWhile
  rw [hfront] at hlexed hbasic'
  have hrest : ∀ c ∈ rest, c.toNat < 128 := fun c hc => hbasic' c (List.mem_append_right _ hc)
  have hkeyword : TokenKind.ofWord (String.ofList front) = .keyword k := by
    rw [ofWord_eq_keyword_iff, capitalize, String.toList_ofList, hcapital, String.ofList_toList]
  cases front with
  | nil =>
    have hname : TokenKind.ofWord (String.ofList []) = .name := by decide
    rw [hname] at hkeyword
    cases hkeyword
  | cons c front =>
    obtain ⟨hc, hfronts⟩ := List.forall_mem_cons.mp hstart
    obtain ⟨ws', rfl, hlexed'⟩ := Lexed.of_word hc
      (fun d hd => isWordChar_of_isNameStart (hfronts d hd)) (wordEnds_iff.mp hends) hlexed
    exact ⟨_, ws', by rw [hkeyword], hlexed', hrest⟩

/-! ## First tokens -/

/-- Where blanks and further words are found, no word goes on. -/
lemma wordEnds_of_afterBlankWords {words : List String} {cs rest : List Char}
    (h : afterBlankWords words cs = some rest) (hends : wordEnds rest = true) :
    wordEnds cs = true := by
  cases words with
  | nil => rwa [Option.some.inj h]
  | cons word words =>
    cases cs with
    | nil => rfl
    | cons c cs =>
      rw [afterBlankWords] at h
      split at h
      · next hblank => rw [wordEnds, isWordChar_of_isBlank hblank, Bool.not_false]
      · cases h

/-- Further words that are found in a basic text are its first tokens.

**Proof sketch.** Induction on the words. Each of them ends, for what is found behind it are blanks
and further words. -/
lemma Lexed.keywords_of_afterBlankWords {kind : StatementKind} {ks : List Keyword}
    (hks : ∀ k ∈ ks, k ∈ kind.keywords) :
    ∀ {cs rest : List Char} {ws : List (TokenKind × String)}, (∀ c ∈ cs, c.toNat < 128) →
      Lexed cs ws → StagedQuery.afterBlankWords (ks.map Keyword.text) cs = some rest →
      wordEnds rest = true → ks.map TokenKind.keyword <+: ws.map Prod.fst := by
  induction ks with
  | nil => exact fun _ _ _ _ => List.nil_prefix
  | cons k ks ih =>
    obtain ⟨hk, hks⟩ := List.forall_mem_cons.mp hks
    rintro (- | ⟨c, cs⟩) rest ws hbasic h hafter hends
    · cases hafter
    · rw [List.map_cons, StagedQuery.afterBlankWords] at hafter
      split at hafter
      · next hblank =>
        split at hafter
        · next behind hword =>
          have hdrop : (c :: cs).dropWhile isBlank = cs.dropWhile isBlank := by
            rw [List.dropWhile_cons, if_pos hblank]
          obtain ⟨s, ws', rfl, hlexed, hbasic'⟩ := h.keyword_of_afterWord hk hbasic
            (by rwa [hdrop]) (wordEnds_of_afterBlankWords hafter hends)
          rw [List.map_cons, List.map_cons, List.cons_prefix_cons]
          exact ⟨rfl, ih hks hbasic' hlexed hafter hends⟩
        · cases hafter
      · cases hafter

/-- A basic text that opens a kind of statement begins with the keywords of the kind as tokens. -/
lemma StatementKind.keywords_prefix_of_opens {kind : StatementKind} {text : String}
    {ws : List (TokenKind × String)} (hbasic : ∀ c ∈ text.toList, c.toNat < 128)
    (h : Lexed text.toList ws) (hopens : kind.opens text = true) :
    kind.keywords.map TokenKind.keyword <+: ws.map Prod.fst := by
  rw [opens, opening_eq] at hopens
  split at hopens
  · next rest hafter =>
    cases hkeywords : kind.keywords with
    | nil => exact List.nil_prefix
    | cons k ks =>
      have hmem : ∀ j ∈ k :: ks, j ∈ kind.keywords := fun j hj => hkeywords ▸ hj
      obtain ⟨hk, hks⟩ := List.forall_mem_cons.mp hmem
      rw [hkeywords, List.map_cons, afterWords] at hafter
      split at hafter
      · next behind hword =>
        obtain ⟨s, ws', rfl, hlexed, hbasic'⟩ := h.keyword_of_afterWord hk hbasic hword
          (wordEnds_of_afterBlankWords hafter hopens)
        rw [List.map_cons, List.map_cons, List.cons_prefix_cons]
        exact ⟨rfl, hlexed.keywords_of_afterBlankWords hks hbasic' hafter hopens⟩
      · cases hafter
  · cases hopens

/-- **A basic text opens a kind of statement** exactly if its first tokens are the keywords of the
kind. -/
theorem StatementKind.opens_iff_of_tokenize {kind : StatementKind} {text : String}
    {tokens : List Token} (hbasic : ∀ c ∈ text.toList, c.toNat < 128)
    (h : tokenize text = .ok tokens) :
    kind.opens text = true ↔ kind.keywords.map TokenKind.keyword <+: tokens.map Token.kind := by
  obtain ⟨body, last, rfl, hlast, hlexed⟩ := lexed_of_tokenize h
  have hkinds : (body ++ [last]).map Token.kind =
      (body.map Token.content).map Prod.fst ++ [TokenKind.finish] := by
    rw [List.map_append, List.map_map, List.map_singleton, ← (Prod.mk.inj hlast).1]
    rfl
  rw [hkinds]
  refine ⟨fun hopens => (keywords_prefix_of_opens hbasic hlexed hopens).trans
    (List.prefix_append _ _), fun hfront => opens_of_lexed hlexed ?_⟩
  rw [List.prefix_concat_iff] at hfront
  refine hfront.resolve_left fun heq => ?_
  have hfinish : TokenKind.finish ∈ kind.keywords.map TokenKind.keyword := by
    rw [heq]
    exact List.mem_append_right _ (List.mem_singleton_self _)
  obtain ⟨k, -, hk⟩ := List.mem_map.mp hfinish
  cases hk

end StagedQuery
