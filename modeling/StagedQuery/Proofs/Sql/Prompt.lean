import StagedQuery.Proofs.Sql.Layout
import StagedQuery.Proofs.Sql.Unbounded
import StagedQuery.Proofs.Sql.Written

set_option relaxedAutoImplicit false
set_option autoImplicit false

/-!
# Parsers that fail at the first wrong token

A front of tokens is *viable* for a kind of phrase if written tokens behind it can make it one. A
parser is *prompt* if it fails neither too early nor too late: where it fails, the tokens that it
has taken are viable, and with the next token they are not, since the parser fails whatever stands
behind that token. The same is asked of success: what is taken depends on the next token alone, and
not on those behind it.

Promptness is stated of a parser that goes on behind a front, for the phrases of a whole. So a
parser of several steps is prompt if each of its steps is, and the last one completes the phrase.

## Main definitions

* `Viable` — fronts of written phrases.
* `Parser.PromptOn` — a parser that is prompt on given tokens.
* `Parser.Prompt` — a parser that is prompt on all tokens up to a number.

## Main results

* `Prompt.bind`, `PromptOn.accept`, `Prompt.flag` — parsers of several steps.
* `prompt_keyword`, `prompt_name`, `prompt_literal` — single tokens and values.
* `Prompt.following`, `Prompt.separated` — repeated phrases.
-/

namespace StagedQuery

/-! ## Viable fronts -/

/-- Tokens behind which others, each of which can be written, complete a phrase. -/
def Viable {α : Type} (W : Phrase α) (front : List Token) : Prop :=
  ∃ us a, (∀ u ∈ us, IsLexeme u.content) ∧ W (front ++ us) a

section Viable

variable {α β : Type} {p : Phrase α} {W : Phrase β} {front ts : List Token}

/-- A whole phrase is viable. -/
lemma viable_of_phrase {b : β} (h : W front b) : Viable W front :=
  ⟨[], b, by simp, by rwa [List.append_nil]⟩

/-- A viable front of a part is one of the whole, if the whole can be completed behind the part. -/
lemma Viable.part (h : Viable p ts) (hW : ∀ us a, p us a → Viable W (front ++ us)) :
    Viable W (front ++ ts) := by
  obtain ⟨us, a, hus, hp⟩ := h
  obtain ⟨vs, b, hvs, hb⟩ := hW _ a hp
  refine ⟨us ++ vs, b, List.forall_mem_append.mpr ⟨hus, hvs⟩, ?_⟩
  simpa only [List.append_assoc] using hb

/-- What is viable for phrases that do not hold the end of a text does not hold it. -/
lemma Viable.proper (h : Viable p ts) (hp : ∀ us a, p us a → Proper us) : Proper ts := by
  obtain ⟨us, a, -, ha⟩ := h
  exact (proper_append.mp (hp _ a ha)).1

/-- What is written for a value begins with nothing. -/
lemma Written.viable {cs : List Char} {a : α} (h : Written p cs a) : Viable p [] := by
  obtain ⟨ws, -, hlexed, hphrase⟩ := h.exists_lexed
  have hcontent : (ws.map fun w => (⟨w.1, w.2, Cursor.start⟩ : Token)).map Token.content = ws := by
    simp [Token.content, Function.comp_def]
  refine ⟨_, a, fun u hu => hlexed.isLexeme ?_, hphrase _ hcontent⟩
  rw [← hcontent]
  exact List.mem_map_of_mem hu

/-- One token that can be written begins with nothing. -/
lemma IsLexeme.viable {kind : TokenKind} {s : String} (h : IsLexeme (kind, s)) {a : α}
    (hp : ∀ t : Token, t.kind = kind → t.lexeme = s → p [t] a) : Viable p [] :=
  ⟨[⟨kind, s, Cursor.start⟩], a, by simpa [Token.content] using h, hp _ rfl rfl⟩

end Viable

/-! ## The next token -/

/-- A token of a kind. -/
lemma spelled_token {t : Token} {kind : TokenKind} (h : t.kind = kind) : Spelled [kind] [t] :=
  spelled_single.mpr ⟨t, rfl, h⟩

/-- The next token; a text ends behind its last one. -/
def nextToken (tokens : List Token) : Token := tokens.headD Token.finish

/-- The next token is the same where the tokens are the same up to the next one. -/
lemma nextToken_append (ts : List Token) {rest rest' : List Token}
    (h : nextToken rest' = nextToken rest) : nextToken (ts ++ rest') = nextToken (ts ++ rest) := by
  cases ts with
  | nil => exact h
  | cons t ts => rfl

namespace Parser

variable {α β : Type}

/-- A parser goes on behind a front on given tokens, and is prompt there. If it succeeds, the tokens
that it takes complete a phrase, whatever stands behind the next one. If it fails, then at the next
token behind some that it has taken; these are viable, and it fails whatever stands behind the next
token. -/
structure PromptOn (tokens : List Token) (m : Parser β) (W : Phrase β) (front : List Token) :
    Prop where
  ok : ∀ {b : β} {rest : List Token}, m tokens = .ok (b, rest) →
    ∃ ts, tokens = ts ++ rest ∧ Ended rest ∧ W (front ++ ts) b ∧
      ∀ rest', Ended rest' → nextToken rest' = nextToken rest → m (ts ++ rest') = .ok (b, rest')
  error : ∀ {e : SyntaxError}, m tokens = .error e →
    ∃ ts rest, tokens = ts ++ rest ∧ Ended rest ∧
      e.position = some (nextToken rest).place.position ∧ Viable W (front ++ ts) ∧
      ∀ rest', Ended rest' → nextToken rest' = nextToken rest → ∃ e', m (ts ++ rest') = .error e'

/-- A parser that can be completed behind a front, and is prompt on all tokens up to a number. -/
structure Prompt (n : ℕ) (m : Parser β) (W : Phrase β) (front : List Token) : Prop where
  viable : Viable W front
  on : ∀ tokens, Ended tokens → tokens.length ≤ n → PromptOn tokens m W front

/-! ## Steps -/

section Steps

variable {n : ℕ} {m m' : Parser β} {p : Phrase α} {W W' : Phrase β} {front tokens : List Token}

/-- A result without a step completes the phrase. -/
lemma PromptOn.pure {b : β} (hended : Ended tokens) (h : W front b) :
    PromptOn tokens (Pure.pure b) W front where
  ok hrun := by
    obtain ⟨rfl, rfl⟩ := Prod.mk.inj (Except.ok.inj hrun)
    exact ⟨[], rfl, hended, by rwa [List.append_nil], fun _ _ _ => rfl⟩
  error hrun := by cases hrun

/-- A failure at the next token. -/
lemma PromptOn.throw {e : SyntaxError} (hended : Ended tokens)
    (he : e.position = some (nextToken tokens).place.position) (h : Viable W front) :
    PromptOn tokens (MonadExcept.throw e) W front where
  ok hrun := by cases hrun
  error hrun := by
    obtain rfl := Except.error.inj hrun
    exact ⟨[], tokens, rfl, hended, he, by rwa [List.append_nil], fun _ _ _ => ⟨e, rfl⟩⟩

/-- A failure at the next token for want of something else. -/
lemma PromptOn.fail {fault : SyntaxFault} (hended : Ended tokens) (h : Viable W front) :
    PromptOn tokens (Parser.fail (nextToken tokens) fault) W front := .throw hended rfl h

/-- Parsers that agree wherever the tokens have an end. -/
lemma PromptOn.congr (h : PromptOn tokens m W front) (hended : Ended tokens)
    (hm : ∀ us, Ended us → nextToken us = nextToken tokens → m' us = m us) :
    PromptOn tokens m' W front where
  ok hrun := by
    rw [hm tokens hended rfl] at hrun
    obtain ⟨ts, rfl, hrest, hW, hlocal⟩ := h.ok hrun
    refine ⟨ts, rfl, hrest, hW, fun rest' hended' hnext => ?_⟩
    rw [hm _ (hended'.append ts) (nextToken_append ts hnext), hlocal rest' hended' hnext]
  error hrun := by
    rw [hm tokens hended rfl] at hrun
    obtain ⟨ts, rest, rfl, hrest, he, hviable, hlocal⟩ := h.error hrun
    refine ⟨ts, rest, rfl, hrest, he, hviable, fun rest' hended' hnext => ?_⟩
    rw [hm _ (hended'.append ts) (nextToken_append ts hnext)]
    exact hlocal rest' hended' hnext

/-- Looking at the next token. -/
lemma PromptOn.peek {f : Token → Parser β} (hended : Ended tokens)
    (h : PromptOn tokens (f (nextToken tokens)) W front) :
    PromptOn tokens (Parser.peek >>= f) W front :=
  h.congr hended fun us _ hnext => by rw [bind_peek, ← hnext]; rfl

/-- Phrases of another kind, behind another front. -/
lemma PromptOn.imp {front' : List Token} (h : PromptOn tokens m W front)
    (hW : ∀ ts b, W (front ++ ts) b → W' (front' ++ ts) b) : PromptOn tokens m W' front' where
  ok hrun := by
    obtain ⟨ts, rfl, hrest, hb, hlocal⟩ := h.ok hrun
    exact ⟨ts, rfl, hrest, hW ts _ hb, hlocal⟩
  error hrun := by
    obtain ⟨ts, rest, rfl, hrest, he, ⟨us, b, hus, hb⟩, hlocal⟩ := h.error hrun
    refine ⟨ts, rest, rfl, hrest, he, ⟨us, b, hus, ?_⟩, hlocal⟩
    rw [List.append_assoc] at hb ⊢
    exact hW _ b hb

/-- Phrases of another kind, behind another front. -/
lemma Prompt.imp {front' : List Token} (h : Prompt n m W front)
    (hW : ∀ ts b, W (front ++ ts) b → W' (front' ++ ts) b) : Prompt n m W' front' where
  viable := by
    obtain ⟨us, b, hus, hb⟩ := h.viable
    exact ⟨us, b, hus, hW us b hb⟩
  on tokens hended hn := (h.on tokens hended hn).imp hW

/-- What is prompt up to a number is so up to a smaller one. -/
lemma Prompt.mono {n' : ℕ} (h : Prompt n m W front) (hn : n' ≤ n) : Prompt n' m W front :=
  ⟨h.viable, fun tokens hended hlength => h.on tokens hended (hlength.trans hn)⟩

/-- Tokens with an end are not none. -/
lemma Prompt.zero (h : Viable W front) : Prompt 0 m W front :=
  ⟨h, fun _ hended hn => absurd hended.length_pos (by omega)⟩

/-- **Two parsers one after the other**, on given tokens. -/
lemma PromptOn.bind {m : Parser α} {f : α → Parser β} (hm : PromptOn tokens m p [])
    (hf : ∀ ts a, p ts a → Prompt tokens.length (f a) W (front ++ ts)) :
    PromptOn tokens (m >>= f) W front where
  ok hrun := by
    obtain ⟨a, middle, ha, hb⟩ := exists_of_bind hrun
    obtain ⟨ts, rfl, hmiddle, hp, hlocal⟩ := hm.ok ha
    obtain ⟨us, rfl, hrest, hW, hlocal'⟩ := ((hf ts a hp).on middle hmiddle (by simp)).ok hb
    refine ⟨ts ++ us, (List.append_assoc ts us _).symm, hrest, by simpa using hW,
      fun rest' hended' hnext => ?_⟩
    rw [List.append_assoc,
      bind_of_ok (hlocal _ (hended'.append us) (nextToken_append us hnext))]
    exact hlocal' rest' hended' hnext
  error hrun := by
    rcases cases_of_bind_error hrun with hfirst | ⟨a, middle, ha, hsecond⟩
    · obtain ⟨ts, rest, rfl, hrest, he, hviable, hlocal⟩ := hm.error hfirst
      refine ⟨ts, rest, rfl, hrest, he, hviable.part fun us a hp => (hf us a hp).viable,
        fun rest' hended' hnext => ?_⟩
      obtain ⟨e', he'⟩ := hlocal rest' hended' hnext
      exact ⟨e', bind_eq_error.mpr (.inl he')⟩
    · obtain ⟨ts, rfl, hmiddle, hp, hlocal⟩ := hm.ok ha
      obtain ⟨us, rest, rfl, hrest, he, hviable, hlocal'⟩ :=
        ((hf ts a hp).on middle hmiddle (by simp)).error hsecond
      refine ⟨ts ++ us, rest, (List.append_assoc ts us rest).symm, hrest, he,
        by simpa using hviable, fun rest' hended' hnext => ?_⟩
      rw [List.append_assoc,
        bind_of_ok (hlocal _ (hended'.append us) (nextToken_append us hnext))]
      exact hlocal' rest' hended' hnext

/-- **Two parsers one after the other.** -/
lemma Prompt.bind {m : Parser α} {f : α → Parser β} (hm : Prompt n m p [])
    (hf : ∀ ts a, p ts a → Prompt n (f a) W (front ++ ts)) : Prompt n (m >>= f) W front where
  viable := by
    have hviable : Viable W (front ++ []) := hm.viable.part fun us a hp => (hf us a hp).viable
    rwa [List.append_nil] at hviable
  on tokens hended hn := (hm.on tokens hended hn).bind fun ts a hp => (hf ts a hp).mono hn

/-- A result without a step completes the phrase. -/
lemma Prompt.pure {b : β} (h : W front b) : Prompt n (Pure.pure b) W front :=
  ⟨viable_of_phrase h, fun _ hended _ => .pure hended h⟩

/-- The next token is taken. -/
lemma PromptOn.advance {f : Unit → Parser β} (hended : Ended tokens)
    (hkind : (nextToken tokens).kind ≠ .finish)
    (h : Prompt (tokens.length - 1) (f ()) W (front ++ [nextToken tokens])) :
    PromptOn tokens (Parser.advance >>= f) W front := by
  obtain ⟨t, us, rfl, ht⟩ := exists_cons_of_next hkind
  have hended' : Ended us := by
    have hwhole : Ended ([t] ++ us) := hended
    exact hwhole.of_append (proper_single (by rwa [ht]))
  have hon := h.on us hended' (by simp)
  constructor
  · intro b rest hrun
    obtain ⟨ts, rfl, hrest, hW, hlocal⟩ := hon.ok hrun
    exact ⟨t :: ts, rfl, hrest, by simpa [nextToken] using hW, hlocal⟩
  · intro e hrun
    obtain ⟨ts, rest, rfl, hrest, he, hviable, hlocal⟩ := hon.error hrun
    exact ⟨t :: ts, rest, rfl, hrest, he, by simpa [nextToken] using hviable, hlocal⟩

/-- **A branch on an optional token.** -/
lemma PromptOn.accept {kind : TokenKind} (hkind : kind ≠ .finish) {f : Bool → Parser β}
    (hended : Ended tokens)
    (htrue : ∀ t, t.kind = kind → Prompt (tokens.length - 1) (f true) W (front ++ [t]))
    (hfalse : nextKind tokens ≠ kind → PromptOn tokens (f false) W front) :
    PromptOn tokens (Parser.accept kind >>= f) W front := by
  by_cases hnext : nextKind tokens = kind
  · have htaken : PromptOn tokens (Parser.advance >>= fun _ => f true) W front :=
      .advance hended (fun h => hkind (hnext.symm.trans h)) (htrue _ hnext)
    refine htaken.congr hended fun us _ hus => ?_
    have hnext' : nextKind us = kind := (congrArg Token.kind hus).trans hnext
    obtain ⟨t, vs, rfl, ht⟩ := exists_cons_of_next (hnext' ▸ hkind)
    exact bind_accept_of_spelled (spelled_single.mpr ⟨t, rfl, hnext'⟩) vs
  · refine (hfalse hnext).congr hended fun us _ hus => bind_accept_of_ne ?_
    rwa [show nextKind us = nextKind tokens from congrArg Token.kind hus]

/-- **A branch on an optional token.** -/
lemma Prompt.accept {kind : TokenKind} (hkind : kind ≠ .finish) {f : Bool → Parser β}
    (htrue : ∀ t, t.kind = kind → Prompt (n - 1) (f true) W (front ++ [t]))
    (hfalse : Prompt n (f false) W front) : Prompt n (Parser.accept kind >>= f) W front where
  viable := hfalse.viable
  on tokens hended hn := .accept hkind hended (fun t ht => (htrue t ht).mono (by omega))
    fun _ => hfalse.on tokens hended hn

/-- A parser that gives the results of another one, and fails where that one does. -/
lemma Prompt.rethrow (h : Prompt n m W front)
    (hok : ∀ tokens r, m' tokens = .ok r ↔ m tokens = .ok r)
    (herror : ∀ tokens e', m' tokens = .error e' →
      ∃ e, m tokens = .error e ∧ e'.position = e.position) : Prompt n m' W front where
  viable := h.viable
  on tokens hended hn := by
    refine ⟨fun hrun => ?_, fun hrun => ?_⟩
    · obtain ⟨ts, hts, hrest, hW, hlocal⟩ := (h.on tokens hended hn).ok ((hok _ _).mp hrun)
      exact ⟨ts, hts, hrest, hW, fun rest' hended' hnext =>
        (hok _ _).mpr (hlocal rest' hended' hnext)⟩
    · obtain ⟨e, he, hposition⟩ := herror _ _ hrun
      obtain ⟨ts, rest, hts, hrest, hplace, hviable, hlocal⟩ := (h.on tokens hended hn).error he
      refine ⟨ts, rest, hts, hrest, hposition.trans hplace, hviable, fun rest' hended' hnext => ?_⟩
      obtain ⟨e', he'⟩ := hlocal rest' hended' hnext
      cases hrun' : m' (ts ++ rest') with
      | error e'' => exact ⟨e'', rfl⟩
      | ok r => cases ((hok _ _).mp hrun').symm.trans he'

end Steps

/-! ## Single tokens -/

section Tokens

variable {n : ℕ}

/-- Looking at the next token and taking it, or failing there, is prompt. -/
lemma Prompt.of_peek {f : Token → Parser β} {W : Phrase β} {front : List Token}
    (hviable : Viable W front)
    (h : ∀ tokens, Ended tokens → tokens.length ≤ n →
      PromptOn tokens (f (nextToken tokens)) W front) :
    Prompt n (Parser.peek >>= f) W front :=
  ⟨hviable, fun tokens hended hn => .peek hended (h tokens hended hn)⟩

/-- A token that is taken alone completes a phrase of one token. -/
lemma PromptOn.advance_pure {W : Phrase β} {tokens : List Token} {b : β} (hended : Ended tokens)
    {kind : TokenKind} (hnext : (nextToken tokens).kind = kind) (hkind : kind ≠ .finish)
    (h : W [nextToken tokens] b) : PromptOn tokens (do Parser.advance; return b) W [] :=
  .advance hended (hnext ▸ hkind) (.pure h)

/-- A token that must be of a kind, where one of this kind can be written. -/
lemma prompt_expect {kind : TokenKind} {s : String} (h : IsLexeme (kind, s)) (what : String) :
    Prompt n (expect kind what) (fun ts _ => Spelled [kind] ts) [] := by
  have hviable : Viable (fun ts (_ : Unit) => Spelled [kind] ts) [] :=
    h.viable (a := ()) fun t ht _ => spelled_token ht
  have hkind : kind ≠ .finish := by
    obtain ⟨c, word, -, hword⟩ := h
    exact hword.ne_finish
  refine .of_peek hviable fun tokens hended _ => ?_
  split
  · next hnext =>
    exact .advance_pure hended hnext hkind (spelled_token hnext)
  · exact .fail hended hviable

/-- A word can be written. -/
lemma isLexeme_word {s : String} {kind : TokenKind} (hs : IsWord s)
    (hkind : TokenKind.ofWord s = kind) : IsLexeme (kind, s) := by
  obtain ⟨c, word, heq, hc, hword⟩ := hs
  have htext : s = String.ofList (c :: word) := by rw [← heq, String.ofList_toList]
  have hlexeme : Lexeme c word (TokenKind.ofWord (String.ofList (c :: word))) [] :=
    .word hc hword (by simp [Stops])
  rw [← htext, hkind] at hlexeme
  exact ⟨c, word, htext, hlexeme⟩

/-- A keyword can be written. -/
lemma isLexeme_keyword (k : Keyword) : IsLexeme (.keyword k, k.text) :=
  isLexeme_word (isWord_keyword k) (ofWord_keyword k)

/-- A mark can be written. -/
lemma isLexeme_mark (m : Mark) : IsLexeme (.mark m, String.ofList [m.char]) :=
  ⟨m.char, [], rfl, .mark rfl⟩

/-- `NULL` can be written. -/
lemma isLexeme_null : IsLexeme (.null, "NULL") := isLexeme_word isWord_null ofWord_null

/-- A name that is no keyword can be written. -/
lemma isLexeme_name : IsLexeme (.name, "x") := by
  have hword : IsWord "x" := ⟨'x', [], rfl, by decide +kernel, by simp⟩
  exact isLexeme_word hword (by decide +kernel)

/-- An integer can be written. -/
lemma isLexeme_one : IsLexeme (.integer (natOfDigits ['1']), "1") :=
  ⟨'1', [], by decide, .integer (by decide) (by simp) (by simp [Stops]) (by simp) (by decide)⟩

/-- A keyword. -/
lemma prompt_keyword (k : Keyword) (what : String) :
    Prompt n (keyword k what) (fun ts _ => Spelled [.keyword k] ts) [] :=
  prompt_expect (isLexeme_keyword k) what

/-- A mark. -/
lemma prompt_mark (m : Mark) (what : String) :
    Prompt n (mark m what) (fun ts _ => Spelled [.mark m] ts) [] :=
  prompt_expect (isLexeme_mark m) what

/-- A name. -/
lemma prompt_name (what : String) : Prompt n (name what) Name [] := by
  have hviable : Viable Name [] := isLexeme_name.viable (a := "x") fun t ht hlexeme => by
    rw [← hlexeme]
    exact .intro (by rw [ht]; rfl)
  refine .of_peek hviable fun tokens hended _ => ?_
  split
  · next hname =>
    refine .advance_pure hended rfl (fun hfinish => ?_) (.intro hname)
    rw [hfinish] at hname
    cases hname
  · exact .fail hended hviable

/-- An unsigned integer. -/
lemma prompt_natural (what : String) :
    Prompt n (natural what) (fun ts n => Spelled [.integer n] ts) [] := by
  have hviable : Viable (fun ts (n : ℕ) => Spelled [.integer n] ts) [] :=
    isLexeme_one.viable fun t ht _ => spelled_token ht
  refine .of_peek hviable fun tokens hended _ => ?_
  split
  · next k hk =>
    exact .advance_pure hended hk (by simp)
      (spelled_token hk)
  · exact .fail hended hviable

/-- A quoted text. -/
lemma prompt_quoted (what : String) :
    Prompt n (quoted what) (fun ts s => Spelled [.quoted s] ts) [] := by
  have hquoted : Lexeme '\x27' (doubled '\x27' [] ++ ['\x27']) (.quoted (String.ofList [])) [] :=
    .quoted (.inl rfl) (by simp)
  have hempty : IsLexeme (.quoted (String.ofList []), "\x27\x27") := ⟨_, _, by decide, hquoted⟩
  have hviable : Viable (fun ts (s : String) => Spelled [.quoted s] ts) [] :=
    hempty.viable fun t ht _ => spelled_token ht
  refine .of_peek hviable fun tokens hended _ => ?_
  split
  · next s hs =>
    exact .advance_pure hended hs (by simp)
      (spelled_token hs)
  · exact .fail hended hviable

/-- A number behind a sign. -/
lemma prompt_signed (sign : Token) (negative : Bool) :
    Prompt n (signed sign negative) (Numeral negative) [] := by
  have hviable : Viable (Numeral negative) [] := isLexeme_one.viable fun t ht _ => .integer ht
  refine .of_peek hviable fun tokens hended _ => ?_
  split
  · next k hk =>
    exact .advance_pure hended hk (by simp) (.integer hk)
  · next x hx =>
    exact .advance_pure hended hx (by simp) (.decimal hx)
  · exact .fail hended hviable

/-- **A value.** -/
lemma prompt_literal : Prompt n literal Literal [] := by
  have hviable : Viable Literal [] := isLexeme_null.viable fun t ht _ =>
    .null (spelled_token ht)
  refine .of_peek hviable fun tokens hended _ => ?_
  split
  · next hk =>
    refine .advance hended (by simp [hk]) ?_
    exact (prompt_signed _ true).imp fun ts v hv =>
      .negative (spelled_token hk) hv
  · next hk =>
    refine .advance hended (by simp [hk]) ?_
    exact (prompt_signed _ false).imp fun ts v hv =>
      .positive (spelled_token hk) hv
  · next k hk =>
    exact .advance_pure hended hk (by simp) (.unsigned (.integer hk))
  · next x hx =>
    exact .advance_pure hended hx (by simp) (.unsigned (.decimal hx))
  · next s hs => exact .advance_pure hended hs (by simp) (.text hs)
  · next hk =>
    exact .advance_pure hended hk (by simp)
      (.null (spelled_token hk))
  · next hk => exact .advance_pure hended hk (by simp) (.word hk)
  · exact .fail hended hviable

end Tokens

/-! ## Repeated and optional parts -/

section Parts

variable {n : ℕ} {item first m : Parser α} {p phrase : Phrase α} {follow : TokenKind → Prop}

/-- **Items behind separators.**

**Proof sketch.** Induction on the number of tokens. Behind a separator there is one token less for
the item and for the rest of the repetition. -/
lemma Prompt.following (hitem : Prompt n item p []) (hreads : Reads item phrase follow)
    {separator : TokenKind} (hsep : separator ≠ .finish) :
    Prompt n (following separator item) (Repeated p separator) [] := by
  induction n with
  | zero => exact .zero (viable_of_phrase .nil)
  | succ n ih =>
    refine ⟨viable_of_phrase .nil, fun tokens hended hn => ?_⟩
    rw [following_eq hreads hsep]
    refine .accept hsep hended (fun t ht => ?_) fun _ => .pure hended .nil
    refine (hitem.mono (by omega)).bind fun ts a ha => ?_
    refine ((ih (hitem.mono (by omega))).mono (by omega)).bind fun us as has => .pure ?_
    simpa using Repeated.cons (spelled_token ht) ha has

/-- One item, and others behind commas, where the first may be read by another parser. -/
lemma Prompt.first_following (hfirst : Prompt n first p []) (hitem : Prompt n item p [])
    (hreads : Reads item phrase follow) :
    Prompt n (do return (← first) :: (← Parser.following (.mark .comma) item)) (CommaList p) [] :=
  hfirst.bind fun _ _ ha => (hitem.following hreads (by simp)).bind fun _ _ has =>
    .pure (.intro ha has)

/-- **Items with commas between them.** -/
lemma Prompt.separated (hitem : Prompt n item p []) (hreads : Reads item phrase follow) :
    Prompt n (separated item) (CommaList p) [] := hitem.first_following hitem hreads

/-- **Names with commas between them.** -/
lemma prompt_nameList : Prompt n nameList (CommaList Name) [] :=
  (prompt_name _).first_following (prompt_name _) (reads_name _)

variable {W : Phrase β} {front tokens : List Token}

/-- In front of another token than one of a kind, a phrase does not begin with that kind. -/
lemma PromptOn.avoid {kind : TokenKind} (h : PromptOn tokens m p [])
    (hne : ∀ ts a, p ts a → ts ≠ []) (hnext : nextKind tokens ≠ kind)
    (hother : Viable (fun ts a => p ts a ∧ nextKind ts ≠ kind) []) :
    PromptOn tokens m (fun ts a => p ts a ∧ nextKind ts ≠ kind) [] where
  ok hrun := by
    obtain ⟨ts, rfl, hrest, hp, hlocal⟩ := h.ok hrun
    refine ⟨ts, rfl, hrest, ⟨hp, ?_⟩, hlocal⟩
    rw [nextKind_append (hne ts _ hp)] at hnext
    exact hnext
  error hrun := by
    obtain ⟨ts, rest, rfl, hrest, he, hviable, hlocal⟩ := h.error hrun
    refine ⟨ts, rest, rfl, hrest, he, ?_, hlocal⟩
    cases ts with
    | nil => exact hother
    | cons t ts =>
      obtain ⟨us, a, hus, hp⟩ := hviable
      exact ⟨us, a, hus, hp, hnext⟩

/-- **Optional keywords** in front of a phrase that can begin with another token than the first of
them. -/
lemma Prompt.flag {k : Keyword} (ks : List Keyword) {others : Parser Unit} {f : Bool → α → Parser β}
    (hothers : Prompt n others (fun ts _ => Spelled (ks.map .keyword) ts) [])
    (hm : Prompt n m p []) (hne : ∀ ts a, p ts a → ts ≠ [])
    (hother : Viable (fun ts a => p ts a ∧ nextKind ts ≠ .keyword k) [])
    (hf : ∀ guard ts b a, Flag k ks ts guard b → p ts a →
      Prompt n (f b a) W (front ++ (guard ++ ts))) :
    Prompt n (flag k others >>= fun b => m >>= f b) W front where
  viable := by
    have hviable : Viable W (front ++ []) := hother.part fun us a h =>
      (hf [] us false a (.absent h.2) h.1).viable
    rwa [List.append_nil] at hviable
  on tokens hended hn := by
    rw [Parser.flag, bind_assoc]
    refine .accept (by simp) hended (fun t ht => ?_) fun hnext => ?_
    · simp only [if_true, bind_assoc, pure_bind]
      refine (hothers.mono (by omega)).bind fun us _ hus =>
        (hm.mono (by omega)).bind fun ts a ha => ?_
      have hspelled := spelled_append (spelled_token ht) hus
      have hmore := hf ([t] ++ us) ts true a (.present hspelled) ha
      exact Prompt.mono (by simpa using hmore) (by omega)
    · simp only [Bool.false_eq_true, if_false, pure_bind]
      exact ((hm.on tokens hended hn).avoid hne hnext hother).bind fun ts a h =>
        (hf [] ts false a (.absent h.2) h.1).mono hn

end Parts

end Parser

end StagedQuery
