import StagedQuery.Proofs.Sql.Grammar
import StagedQuery.Proofs.Sql.Lexing

set_option relaxedAutoImplicit false
set_option autoImplicit false

/-!
# Parsers that read phrases

A parser reads a kind of phrase if it takes nothing but such phrases, and takes every one of them
wherever what follows cannot go on with it. Since a parser decides by one token at a time, what may
follow is a condition on the kind of the next token.

## Main definitions

* `Parser.Reads` — a parser reads the phrases of a kind in front of certain tokens.
* `Whole` — tokens that are one phrase and the end of the text.

## Main results

* `Reads.exists_of_bind`, `Reads.bind_eq` — two parsers one after the other.
* `reads_expect`, `reads_name`, `reads_literal` — single tokens and values.
* `Reads.following`, `Reads.separated` — repeated phrases.
* `exists_of_tokenize` — the tokens of a text end where the text ends, and nowhere before.
* `Reads.whole_iff` — a parser takes all tokens of a text if and only if they are one phrase.
-/

namespace StagedQuery

/-! ## The tokens at the front -/

/-- A token that is not the end stands at the front of the tokens. -/
lemma exists_cons_of_next {tokens : List Token} (h : nextKind tokens ≠ .finish) :
    ∃ t rest, tokens = t :: rest ∧ t.kind = nextKind tokens := by
  cases tokens with
  | nil => exact absurd rfl h
  | cons t rest => exact ⟨t, rest, rfl, rfl⟩

/-- The next token of some tokens with others behind them is the first of them. -/
lemma nextKind_append {ts : List Token} (h : ts ≠ []) (rest : List Token) :
    nextKind (ts ++ rest) = nextKind ts := by
  cases ts with
  | nil => exact absurd rfl h
  | cons t ts => rfl

/-- Tokens of given kinds begin with one of the first kind. -/
lemma spelled_cons {k : TokenKind} {ks : List TokenKind} {ts : List Token} :
    Spelled (k :: ks) ts ↔ ∃ t us, ts = t :: us ∧ t.kind = k ∧ Spelled ks us :=
  List.map_eq_cons_iff

/-- No tokens. -/
lemma spelled_nil {ts : List Token} : Spelled [] ts ↔ ts = [] := List.map_eq_nil_iff

/-- One token of a kind. -/
lemma spelled_single {k : TokenKind} {ts : List Token} :
    Spelled [k] ts ↔ ∃ t, ts = [t] ∧ t.kind = k := by
  simp only [spelled_cons, spelled_nil]
  constructor
  · rintro ⟨t, us, rfl, hk, rfl⟩
    exact ⟨t, rfl, hk⟩
  · rintro ⟨t, rfl, hk⟩
    exact ⟨t, [], rfl, hk, rfl⟩

/-- Tokens of given kinds in two parts. -/
lemma spelled_append {ks ls : List TokenKind} {ts us : List Token} (hts : Spelled ks ts)
    (hus : Spelled ls us) : Spelled (ks ++ ls) (ts ++ us) := by
  rw [Spelled, List.map_append, hts, hus]

/-- Tokens of given kinds, the first of which is taken apart. -/
lemma exists_of_spelled {k : TokenKind} {ks : List TokenKind} {ts : List Token}
    (h : Spelled (k :: ks) ts) : ∃ us vs, ts = us ++ vs ∧ Spelled [k] us ∧ Spelled ks vs := by
  obtain ⟨t, us, rfl, hk, hus⟩ := spelled_cons.mp h
  exact ⟨[t], us, rfl, spelled_single.mpr ⟨t, rfl, hk⟩, hus⟩

/-- Tokens of given kinds begin with one of the first kind, whatever follows. -/
lemma nextKind_of_spelled {k : TokenKind} {ks : List TokenKind} {ts : List Token}
    (h : Spelled (k :: ks) ts) (rest : List Token) : nextKind (ts ++ rest) = k := by
  obtain ⟨t, us, rfl, hk, -⟩ := spelled_cons.mp h
  exact hk

/-! ## Repetitions as tokens -/

section Repeated

variable {α : Type} {phrase : Phrase α} {separator : TokenKind}

/-- What follows a repetition inside other tokens: a separator, or what follows the whole. -/
lemma Repeated.follows {follow : TokenKind → Prop} {ts rest : List Token} {as : List α}
    (h : Repeated phrase separator ts as) (hsep : follow separator)
    (hrest : follow (nextKind rest)) : follow (nextKind (ts ++ rest)) := by
  cases h with
  | nil => exact hrest
  | cons hs =>
    rw [List.append_assoc, nextKind_of_spelled hs]
    exact hsep

/-- A repetition has at least one token for each item. -/
lemma Repeated.length_le {ts : List Token} {as : List α} (h : Repeated phrase separator ts as) :
    as.length ≤ ts.length := by
  induction h with
  | nil => simp
  | cons hs _ _ ih =>
    obtain ⟨t, rfl, -⟩ := spelled_single.mp hs
    simp only [List.length_cons, List.length_append, List.length_nil]
    omega

end Repeated

namespace Parser

variable {α β : Type}

/-- A parser reads the phrases of a kind in front of tokens of certain kinds: what it takes is such
a phrase, and it takes every such phrase that stands in front of such a token. -/
structure Reads (m : Parser α) (phrase : Phrase α) (follow : TokenKind → Prop) : Prop where
  sound : ∀ {tokens rest : List Token} {a : α}, m tokens = .ok (a, rest) →
    ∃ ts, tokens = ts ++ rest ∧ phrase ts a
  complete : ∀ {ts rest : List Token} {a : α}, phrase ts a → follow (nextKind rest) →
    m (ts ++ rest) = .ok (a, rest)

/-- Anything may follow. -/
def anything (_ : TokenKind) : Prop := True

/-! ## One parser after the other -/

/-- Two parsers one after the other succeed if both do. -/
lemma exists_of_bind {m : Parser α} {f : α → Parser β} {tokens rest : List Token} {b : β}
    (h : (m >>= f) tokens = .ok (b, rest)) :
    ∃ a middle, m tokens = .ok (a, middle) ∧ f a middle = .ok (b, rest) := by
  obtain ⟨⟨a, middle⟩, ha, hb⟩ := bind_eq_ok.mp h
  exact ⟨a, middle, ha, hb⟩

/-- Two parsers one after the other fail if the first one does, or if the second one does behind
it. -/
lemma cases_of_bind_error {m : Parser α} {f : α → Parser β} {tokens : List Token} {e : SyntaxError}
    (h : (m >>= f) tokens = .error e) :
    m tokens = .error e ∨ ∃ a rest, m tokens = .ok (a, rest) ∧ f a rest = .error e := by
  rcases bind_eq_error.mp h with hfirst | ⟨⟨a, rest⟩, ha, hsecond⟩
  · exact .inl hfirst
  · exact .inr ⟨a, rest, ha, hsecond⟩

/-- Where the first of two parsers succeeds, the second one goes on behind it. -/
lemma bind_of_ok {m : Parser α} {f : α → Parser β} {tokens rest : List Token} {a : α}
    (h : m tokens = .ok (a, rest)) : (m >>= f) tokens = f a rest := by
  show (m tokens >>= fun r => f r.1 r.2) = _
  rw [h]
  rfl

namespace Reads

variable {m : Parser α} {phrase : Phrase α} {follow : TokenKind → Prop}

/-- Two parsers that succeed have read a phrase of the first kind, behind which the second one
succeeds. -/
lemma exists_of_bind (hm : Reads m phrase follow) {f : α → Parser β} {tokens rest : List Token}
    {b : β} (h : (m >>= f) tokens = .ok (b, rest)) :
    ∃ a ts middle, tokens = ts ++ middle ∧ phrase ts a ∧ f a middle = .ok (b, rest) := by
  obtain ⟨a, middle, ha, hb⟩ := Parser.exists_of_bind h
  obtain ⟨ts, hts, hphrase⟩ := hm.sound ha
  exact ⟨a, ts, middle, hts, hphrase, hb⟩

/-- In front of a phrase of the first kind, the second of two parsers goes on behind it. -/
lemma bind_eq (hm : Reads m phrase follow) {f : α → Parser β} {ts rest : List Token} {a : α}
    (h : phrase ts a) (hfollow : follow (nextKind rest)) :
    (m >>= f) (ts ++ rest) = f a rest := bind_of_ok (hm.complete h hfollow)

end Reads

/-- A parser that fails gives nothing. -/
lemma fail_ne_ok (t : Token) (fault : SyntaxFault) (tokens : List Token) (r : α × List Token) :
    (fail t fault : Parser α) tokens ≠ .ok r := by
  simp [fail, throw, throwThe, MonadExceptOf.throw, StateT.lift, bind, Except.bind]

/-! ## Single tokens -/

/-- Looking at the next token takes none. -/
lemma bind_peek {f : Token → Parser β} (tokens : List Token) :
    (peek >>= f) tokens = f (tokens.headD Token.finish) tokens := rfl

/-- Taking a token that must be of a kind. -/
lemma reads_expect {kind : TokenKind} (hkind : kind ≠ .finish) (what : String) :
    Reads (expect kind what) (fun ts _ => Spelled [kind] ts) anything where
  sound {tokens rest a} h := by
    rw [expect, bind_peek] at h
    split at h
    · next hnext =>
      have hcons : nextKind tokens ≠ .finish := by
        rw [nextKind, hnext]
        exact hkind
      obtain ⟨t, tokens, rfl, ht⟩ := exists_cons_of_next hcons
      obtain ⟨-, rfl⟩ := Prod.mk.inj (Except.ok.inj h)
      exact ⟨[t], rfl, spelled_single.mpr ⟨t, rfl, hnext⟩⟩
    · exact absurd h (fail_ne_ok _ _ _ _)
  complete {ts rest a} h _ := by
    obtain ⟨t, rfl, ht⟩ := spelled_single.mp h
    show (if t.kind = kind then advance else _) (t :: rest) = _
    rw [if_pos ht]
    rfl

/-- A token that must be of a kind, and is. -/
lemma bind_expect {kind : TokenKind} (hkind : kind ≠ .finish) {what : String} {f : Unit → Parser β}
    {ts : List Token} (h : Spelled [kind] ts) (rest : List Token) :
    (expect kind what >>= f) (ts ++ rest) = f () rest :=
  bind_of_ok ((reads_expect hkind what).complete h trivial)

/-- A keyword that must be there, and is. -/
lemma bind_keyword {k : Keyword} {what : String} {f : Unit → Parser β} {ts : List Token}
    (h : Spelled [.keyword k] ts) (rest : List Token) :
    (keyword k what >>= f) (ts ++ rest) = f () rest := bind_expect (by simp) h rest

/-- A mark that must be there, and is. -/
lemma bind_mark {m : Mark} {what : String} {f : Unit → Parser β} {ts : List Token}
    (h : Spelled [.mark m] ts) (rest : List Token) :
    (mark m what >>= f) (ts ++ rest) = f () rest := bind_expect (by simp) h rest

/-- Taking a keyword. -/
lemma reads_keyword (k : Keyword) (what : String) :
    Reads (keyword k what) (fun ts _ => Spelled [.keyword k] ts) anything :=
  reads_expect (by simp) what

/-- Taking a mark. -/
lemma reads_mark (m : Mark) (what : String) :
    Reads (mark m what) (fun ts _ => Spelled [.mark m] ts) anything :=
  reads_expect (by simp) what

/-- Taking a name. -/
lemma reads_name (what : String) : Reads (name what) Name anything where
  sound {tokens rest a} h := by
    rw [name, bind_peek] at h
    split at h
    · next hname =>
      have hcons : nextKind tokens ≠ .finish := by
        intro hfinish
        rw [show (tokens.headD Token.finish).kind = _ from hfinish] at hname
        simp [TokenKind.isName] at hname
      obtain ⟨t, tokens, rfl, ht⟩ := exists_cons_of_next hcons
      obtain ⟨rfl, rfl⟩ := Prod.mk.inj (Except.ok.inj h)
      exact ⟨[t], rfl, .intro hname⟩
    · exact absurd h (fail_ne_ok _ _ _ _)
  complete {ts rest a} h _ := by
    obtain ⟨hname⟩ := h
    rename_i t
    show (if t.kind.isName = true then _ else _ : Parser String) (t :: rest) = _
    rw [if_pos hname]
    rfl

/-- Taking an unsigned integer. -/
lemma reads_natural (what : String) :
    Reads (natural what) (fun ts n => Spelled [.integer n] ts) anything where
  sound {tokens rest a} h := by
    rw [natural, bind_peek] at h
    obtain _ | ⟨⟨kind, lexeme, place⟩, tokens⟩ := tokens
    · exact absurd h (fail_ne_ok _ _ _ _)
    · cases kind with
      | integer n =>
        obtain ⟨rfl, rfl⟩ := Prod.mk.inj (Except.ok.inj h)
        exact ⟨_, rfl, spelled_single.mpr ⟨_, rfl, rfl⟩⟩
      | _ => exact absurd h (fail_ne_ok _ _ _ _)
  complete {ts rest a} h _ := by
    obtain ⟨t, rfl, ht⟩ := spelled_single.mp h
    rw [natural, bind_peek, List.singleton_append, List.headD_cons, ht]
    rfl

/-- Taking a quoted text. -/
lemma reads_quoted (what : String) :
    Reads (quoted what) (fun ts s => Spelled [.quoted s] ts) anything where
  sound {tokens rest a} h := by
    rw [quoted, bind_peek] at h
    obtain _ | ⟨⟨kind, lexeme, place⟩, tokens⟩ := tokens
    · exact absurd h (fail_ne_ok _ _ _ _)
    · cases kind with
      | quoted s =>
        obtain ⟨rfl, rfl⟩ := Prod.mk.inj (Except.ok.inj h)
        exact ⟨_, rfl, spelled_single.mpr ⟨_, rfl, rfl⟩⟩
      | _ => exact absurd h (fail_ne_ok _ _ _ _)
  complete {ts rest a} h _ := by
    obtain ⟨t, rfl, ht⟩ := spelled_single.mp h
    rw [quoted, bind_peek, List.singleton_append, List.headD_cons, ht]
    rfl

/-- Taking a token if it is of a kind: it is taken and told, or the next token is of another
kind. -/
lemma accept_eq_ok {kind : TokenKind} (hkind : kind ≠ .finish) {tokens rest : List Token} {b : Bool}
    (h : accept kind tokens = .ok (b, rest)) :
    (b = true ∧ ∃ ts, tokens = ts ++ rest ∧ Spelled [kind] ts) ∨
      (b = false ∧ tokens = rest ∧ nextKind rest ≠ kind) := by
  rw [accept, bind_peek] at h
  split at h
  · next hnext =>
    have hcons : nextKind tokens ≠ .finish := by
      rw [nextKind, hnext]
      exact hkind
    obtain ⟨t, tokens, rfl, ht⟩ := exists_cons_of_next hcons
    obtain ⟨rfl, rfl⟩ := Prod.mk.inj (Except.ok.inj h)
    exact .inl ⟨rfl, [t], rfl, spelled_single.mpr ⟨t, rfl, hnext⟩⟩
  · next hnext =>
    obtain ⟨rfl, rfl⟩ := Prod.mk.inj (Except.ok.inj h)
    exact .inr ⟨rfl, rfl, hnext⟩

/-- A token of the kind is taken. -/
lemma accept_of_spelled {kind : TokenKind} {ts : List Token} (h : Spelled [kind] ts)
    (rest : List Token) : accept kind (ts ++ rest) = .ok (true, rest) := by
  obtain ⟨t, rfl, ht⟩ := spelled_single.mp h
  show (if t.kind = kind then _ else _ : Parser Bool) (t :: rest) = _
  rw [if_pos ht]
  rfl

/-- A token of another kind is left. -/
lemma accept_of_ne {kind : TokenKind} {tokens : List Token} (h : nextKind tokens ≠ kind) :
    accept kind tokens = .ok (false, tokens) := by
  show (if nextKind tokens = kind then _ else _ : Parser Bool) tokens = _
  rw [if_neg h]
  rfl

/-- A branch on an optional token: the token is there and the first branch is taken, or it is not
there and the second one is. -/
lemma exists_of_accept {kind : TokenKind} (hkind : kind ≠ .finish) {f : Bool → Parser β}
    {tokens rest : List Token} {b : β} (h : (accept kind >>= f) tokens = .ok (b, rest)) :
    (∃ ts middle, tokens = ts ++ middle ∧ Spelled [kind] ts ∧ f true middle = .ok (b, rest)) ∨
      (nextKind tokens ≠ kind ∧ f false tokens = .ok (b, rest)) := by
  obtain ⟨found, middle, hfound, hb⟩ := Parser.exists_of_bind h
  rcases accept_eq_ok hkind hfound with ⟨rfl, ts, rfl, hts⟩ | ⟨rfl, rfl, hnext⟩
  · exact .inl ⟨ts, middle, rfl, hts, hb⟩
  · exact .inr ⟨hnext, hb⟩

/-- An optional token that is there. -/
lemma bind_accept_of_spelled {kind : TokenKind} {f : Bool → Parser β} {ts : List Token}
    (h : Spelled [kind] ts) (rest : List Token) :
    (accept kind >>= f) (ts ++ rest) = f true rest := bind_of_ok (accept_of_spelled h rest)

/-- An optional token that is not there. -/
lemma bind_accept_of_ne {kind : TokenKind} {f : Bool → Parser β} {tokens : List Token}
    (h : nextKind tokens ≠ kind) : (accept kind >>= f) tokens = f false tokens :=
  bind_of_ok (accept_of_ne h)

/-- An optional token in whose place there is another one. -/
lemma bind_accept_other {kind k : TokenKind} {ks : List TokenKind} {f : Bool → Parser β}
    {ts : List Token} (h : Spelled (k :: ks) ts) (hne : k ≠ kind) (rest : List Token) :
    (accept kind >>= f) (ts ++ rest) = f false (ts ++ rest) :=
  bind_accept_of_ne (by rwa [nextKind_of_spelled h])

/-! ## Values -/

/-- A number behind a sign, or without one. -/
lemma reads_signed (sign : Token) (negative : Bool) :
    Reads (signed sign negative) (Numeral negative) anything where
  sound {tokens rest a} h := by
    rw [signed, bind_peek] at h
    obtain _ | ⟨⟨kind, lexeme, place⟩, tokens⟩ := tokens
    · exact absurd h (fail_ne_ok _ _ _ _)
    · cases kind with
      | integer n =>
        obtain ⟨rfl, rfl⟩ := Prod.mk.inj (Except.ok.inj h)
        exact ⟨_, rfl, .integer rfl⟩
      | decimal x =>
        obtain ⟨rfl, rfl⟩ := Prod.mk.inj (Except.ok.inj h)
        exact ⟨_, rfl, .decimal rfl⟩
      | _ => exact absurd h (fail_ne_ok _ _ _ _)
  complete {ts rest a} h _ := by
    cases h with
    | integer ht | decimal ht =>
      rw [signed, bind_peek, List.singleton_append, List.headD_cons, ht]
      rfl

/-- **A value.** -/
lemma reads_literal : Reads literal Literal anything where
  sound {tokens rest a} h := by
    rw [literal, bind_peek] at h
    obtain _ | ⟨⟨kind, lexeme, place⟩, tokens⟩ := tokens
    · exact absurd h (fail_ne_ok _ _ _ _)
    cases kind with
    | null =>
      obtain ⟨rfl, rfl⟩ := Prod.mk.inj (Except.ok.inj h)
      exact ⟨_, rfl, .null (spelled_single.mpr ⟨_, rfl, rfl⟩)⟩
    | integer n =>
      obtain ⟨rfl, rfl⟩ := Prod.mk.inj (Except.ok.inj h)
      exact ⟨_, rfl, .unsigned (.integer rfl)⟩
    | decimal x =>
      obtain ⟨rfl, rfl⟩ := Prod.mk.inj (Except.ok.inj h)
      exact ⟨_, rfl, .unsigned (.decimal rfl)⟩
    | quoted s =>
      obtain ⟨rfl, rfl⟩ := Prod.mk.inj (Except.ok.inj h)
      exact ⟨_, rfl, .text rfl⟩
    | name =>
      obtain ⟨rfl, rfl⟩ := Prod.mk.inj (Except.ok.inj h)
      exact ⟨_, rfl, .word rfl⟩
    | mark m =>
      cases m with
      | plus =>
        obtain ⟨ts, rfl, hts⟩ := (reads_signed _ _).sound h
        exact ⟨_ :: ts, rfl, .positive (spelled_single.mpr ⟨_, rfl, rfl⟩) hts⟩
      | minus =>
        obtain ⟨ts, rfl, hts⟩ := (reads_signed _ _).sound h
        exact ⟨_ :: ts, rfl, .negative (spelled_single.mpr ⟨_, rfl, rfl⟩) hts⟩
      | _ => exact absurd h (fail_ne_ok _ _ _ _)
    | _ => exact absurd h (fail_ne_ok _ _ _ _)
  complete {ts rest a} h _ := by
    rw [literal, bind_peek]
    cases h with
    | null h =>
      obtain ⟨t, rfl, ht⟩ := spelled_single.mp h
      rw [List.singleton_append, List.headD_cons, ht]
      rfl
    | unsigned h =>
      cases h with
      | integer ht | decimal ht =>
        rw [List.singleton_append, List.headD_cons, ht]
        rfl
    | positive hsign h | negative hsign h =>
      obtain ⟨t, rfl, ht⟩ := spelled_single.mp hsign
      rw [List.append_assoc, List.singleton_append, List.headD_cons, ht]
      exact (reads_signed _ _).complete h trivial
    | text ht | word ht =>
      rw [List.singleton_append, List.headD_cons, ht]
      rfl

/-! ## Repetition -/

variable {item : Parser α} {phrase : Phrase α} {follow : TokenKind → Prop}
  {separator : TokenKind}

/-- What is taken as repeated items is a repetition of phrases, whatever the bound. -/
lemma Reads.sound_followingUpTo (hitem : Reads item phrase follow) (hsep : separator ≠ .finish)
    (bound : ℕ) : ∀ (tokens rest : List Token) (as : List α),
      followingUpTo separator item bound tokens = .ok (as, rest) →
      ∃ ts, tokens = ts ++ rest ∧ Repeated phrase separator ts as := by
  induction bound with
  | zero =>
    intro tokens rest as h
    obtain ⟨rfl, rfl⟩ := Prod.mk.inj (Except.ok.inj h)
    exact ⟨[], rfl, .nil⟩
  | succ bound ih =>
    intro tokens rest as h
    rw [followingUpTo] at h
    rcases exists_of_accept hsep h with ⟨sep, middle, rfl, hs, h⟩ | ⟨-, h⟩
    · rw [if_pos rfl] at h
      obtain ⟨a, ts, later, rfl, ha, h⟩ := hitem.exists_of_bind h
      obtain ⟨as', rest', hrest, hpure⟩ := Parser.exists_of_bind h
      obtain ⟨us, rfl, hus⟩ := ih _ _ _ hrest
      obtain ⟨rfl, rfl⟩ := Prod.mk.inj (Except.ok.inj hpure)
      exact ⟨sep ++ (ts ++ us), by simp only [List.append_assoc], .cons hs ha hus⟩
    · rw [if_neg (by decide)] at h
      obtain ⟨rfl, rfl⟩ := Prod.mk.inj (Except.ok.inj h)
      exact ⟨[], rfl, .nil⟩

/-- A repetition of phrases is taken as a whole if the bound admits it and no separator follows.

**Proof sketch.** Induction on the repetition. Behind each separator the item is taken, since what
follows it is a separator or what follows the whole. -/
lemma Reads.complete_followingUpTo (hitem : Reads item phrase follow) (hsep : follow separator)
    {ts : List Token} {as : List α} (h : Repeated phrase separator ts as) {rest : List Token}
    (hnext : nextKind rest ≠ separator) (hrest : follow (nextKind rest)) :
    ∀ bound, as.length ≤ bound →
      followingUpTo separator item bound (ts ++ rest) = .ok (as, rest) := by
  induction h with
  | nil =>
    intro bound _
    cases bound with
    | zero => rfl
    | succ bound =>
      rw [followingUpTo, List.nil_append, bind_accept_of_ne hnext]
      rfl
  | @cons sep ts us a as hs ha hus ih =>
    intro bound hbound
    cases bound with
    | zero => simp at hbound
    | succ bound =>
      rw [followingUpTo, List.append_assoc, bind_accept_of_spelled hs, if_pos rfl,
        List.append_assoc, hitem.bind_eq ha (hus.follows hsep hrest),
        bind_of_ok (ih bound (by simpa using hbound))]
      rfl

/-- **Items behind separators.** -/
lemma Reads.following (hitem : Reads item phrase follow) (hkind : separator ≠ .finish)
    (hsep : follow separator) :
    Reads (following separator item) (Repeated phrase separator)
      fun kind => kind ≠ separator ∧ follow kind where
  sound h := hitem.sound_followingUpTo hkind _ _ _ _ h
  complete {ts rest as} h hnext := by
    refine hitem.complete_followingUpTo hsep h hnext.1 hnext.2 _ ?_
    have hlen := h.length_le
    rw [List.length_append]
    omega

/-- One item, and others behind commas, where the first may be read by another parser. -/
lemma Reads.first_following {first : Parser α} (hfirst : Reads first phrase follow)
    (hitem : Reads item phrase follow) (hsep : follow (.mark .comma)) :
    Reads (do return (← first) :: (← Parser.following (.mark .comma) item)) (CommaList phrase)
      fun kind => kind ≠ .mark .comma ∧ follow kind where
  sound {tokens rest as} h := by
    obtain ⟨a, ts, middle, rfl, ha, h⟩ := hfirst.exists_of_bind h
    obtain ⟨as', us, rest', rfl, hus, h⟩ :=
      (hitem.following (by simp) hsep).exists_of_bind h
    obtain ⟨rfl, rfl⟩ := Prod.mk.inj (Except.ok.inj h)
    exact ⟨ts ++ us, by rw [List.append_assoc], .intro ha hus⟩
  complete {ts rest as} h hnext := by
    obtain ⟨ha, hus⟩ := h
    rw [List.append_assoc, hfirst.bind_eq ha (hus.follows hsep hnext.2),
      (hitem.following (by simp) hsep).bind_eq hus hnext]
    rfl

/-- **Items with commas between them.** -/
lemma Reads.separated (hitem : Reads item phrase follow) (hsep : follow (.mark .comma)) :
    Reads (separated item) (CommaList phrase) fun kind => kind ≠ .mark .comma ∧ follow kind :=
  hitem.first_following hitem hsep

/-- **Names with commas between them.** -/
lemma reads_nameList :
    Reads nameList (CommaList Name) fun kind => kind ≠ .mark .comma ∧ anything kind :=
  (reads_name _).first_following (reads_name _) trivial

end Parser

/-! ## Whole texts -/

/-- Tokens that are one phrase and, behind it, the end of the text. -/
def Whole {α : Type} (phrase : Phrase α) (tokens : List Token) (a : α) : Prop :=
  ∃ ts last, tokens = ts ++ [last] ∧ last.kind = .finish ∧ phrase ts a

/-- A sequence has only one place where it ends. -/
lemma Proper.eq_of_append {ts us : List Token} (hts : Proper ts) (hus : Proper us)
    {rest rest' : List Token} (h : ts ++ rest = us ++ rest') (hrest : nextKind rest = .finish)
    (hrest' : nextKind rest' = .finish) : ts = us := by
  induction ts generalizing us with
  | nil =>
    cases us with
    | nil => rfl
    | cons u us =>
      rw [List.nil_append, List.cons_append] at h
      subst h
      exact absurd hrest (hus u List.mem_cons_self)
  | cons t ts ih =>
    cases us with
    | nil =>
      rw [List.nil_append, List.cons_append] at h
      subst h
      exact absurd hrest' (hts t List.mem_cons_self)
    | cons u us =>
      rw [List.cons_append, List.cons_append] at h
      obtain ⟨rfl, htail⟩ := List.cons.inj h
      rw [ih (fun x hx => hts x (List.mem_cons_of_mem _ hx))
        (fun x hx => hus x (List.mem_cons_of_mem _ hx)) htail]

/-- **The tokens of a text end with the end of the text, which stands nowhere else.** -/
theorem exists_of_tokenize {text : String} {tokens : List Token} (h : tokenize text = .ok tokens) :
    ∃ body last, tokens = body ++ [last] ∧ last.kind = .finish ∧ Proper body := by
  obtain ⟨body, last, rfl, hlast, hbody⟩ := exists_lexeme_of_tokenize h
  refine ⟨body, last, rfl, hlast, fun t ht => ?_⟩
  obtain ⟨c, word, rest, hlexeme, -⟩ := hbody t ht
  exact hlexeme.ne_finish

/-- Where a sequence ends is the only place up to which it can be one phrase. -/
lemma whole_iff {α : Type} {phrase : Phrase α} (hproper : ∀ {ts a}, phrase ts a → Proper ts)
    {body : List Token} {last : Token} (hbody : Proper body) (hlast : last.kind = .finish) {a : α} :
    Whole phrase (body ++ [last]) a ↔ phrase body a := by
  constructor
  · rintro ⟨ts, last', heq, hlast', h⟩
    rwa [hbody.eq_of_append (hproper h) heq hlast hlast']
  · exact fun h => ⟨body, last, rfl, hlast, h⟩

/-- **A parser takes all tokens up to the end if and only if they are one phrase.** -/
lemma Parser.Reads.whole_iff {α : Type} {m : Parser α} {phrase : Phrase α}
    {follow : TokenKind → Prop} (hm : m.Reads phrase follow)
    (hproper : ∀ {ts a}, phrase ts a → Proper ts) (hfollow : follow .finish) {body : List Token}
    {last : Token} (hbody : Proper body) (hlast : last.kind = .finish) {a : α} :
    (∃ rest, m (body ++ [last]) = .ok (a, rest) ∧ nextKind rest = .finish) ↔ phrase body a := by
  constructor
  · rintro ⟨rest, hrun, hrest⟩
    obtain ⟨ts, heq, h⟩ := hm.sound hrun
    rwa [hbody.eq_of_append (hproper h) heq hlast hrest]
  · intro h
    have hnext : follow (nextKind [last]) := by
      rw [show nextKind [last] = _ from hlast]
      exact hfollow
    exact ⟨[last], hm.complete h hnext, hlast⟩

end StagedQuery
