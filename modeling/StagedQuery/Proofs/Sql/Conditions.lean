import StagedQuery.Proofs.Sql.Reading
import StagedQuery.Sql.Parser.Condition

set_option relaxedAutoImplicit false
set_option autoImplicit false

/-!
# Conditions are read by their grammar

The parser reads chains of conditions as lists that it joins from the right, and nested groups up to
a depth that it takes from the number of tokens. Neither is part of the grammar: chains joined from
the right are what the rules of `or_expr` and `and_expr` derive, and no condition is nested deeper
than it has tokens.

## Main definitions

* `Chain` — phrases with a keyword between them, joined from the right.
* `Part.nested` — the conditions of each level with groups up to a depth.

## Main results

* `condition_andExpr_iff`, `condition_orExpr_iff` — the two upper levels are chains.
* `reads_orExpr` — the parser reads the conditions of the grammar.
* `Condition.unique` — the same tokens have no two derivations with different trees.
* `Condition.between` — the `AND` of a `BETWEEN` joins no conditions.
* `readPredicate_grammar` — which texts hold a condition, and which.
-/

namespace StagedQuery

/-! ## Chains -/

/-- Phrases with a keyword between them, joined from the right. -/
inductive Chain (k : Keyword) (join : Predicate → Predicate → Predicate)
    (phrase : Phrase Predicate) : Phrase Predicate
  | intro {ts us : List Token} {p : Predicate} {ps : List Predicate} (h : phrase ts p)
    (hrest : Repeated phrase (.keyword k) us ps) :
    Chain k join phrase (ts ++ us) (joinRight join p ps)

section Chain

variable {k : Keyword} {join : Predicate → Predicate → Predicate} {phrase whole : Phrase Predicate}

/-- One phrase is a chain. -/
lemma Chain.single {ts : List Token} {p : Predicate} (h : phrase ts p) :
    Chain k join phrase ts p := by
  have hchain : Chain k join phrase (ts ++ []) (joinRight join p []) := .intro h .nil
  rwa [List.append_nil] at hchain

/-- A phrase in front of a chain. -/
lemma Chain.cons {ts o us : List Token} {p q : Predicate} (h : phrase ts p)
    (ho : Spelled [.keyword k] o) (hrest : Chain k join phrase us q) :
    Chain k join phrase (ts ++ (o ++ us)) (join p q) := by
  obtain ⟨hq, hqs⟩ := hrest
  exact .intro h (.cons ho hq hqs)

/-- What holds of every phrase, and of a phrase in front of what it holds of, holds of chains. -/
lemma Chain.of_closed (hsingle : ∀ {ts p}, phrase ts p → whole ts p)
    (hcons : ∀ {ts o us p q}, phrase ts p → Spelled [.keyword k] o → whole us q →
      whole (ts ++ (o ++ us)) (join p q)) {ts : List Token} {p : Predicate}
    (h : Chain k join phrase ts p) : whole ts p := by
  obtain ⟨h, hrest⟩ := h
  rename_i ts us p ps
  induction hrest generalizing ts p with
  | nil => rw [List.append_nil]; exact hsingle h
  | cons ho hq _ ih => exact hcons h ho (ih hq)

/-- Chains of phrases that are all of another kind. -/
lemma Chain.mono {other : Phrase Predicate} (hphrase : ∀ {ts p}, phrase ts p → other ts p)
    {ts : List Token} {p : Predicate} (h : Chain k join phrase ts p) : Chain k join other ts p :=
  h.of_closed (fun h => .single (hphrase h)) fun h ho hrest => .cons (hphrase h) ho hrest

end Chain

/-- A conjunction is a chain of single conditions. -/
lemma condition_andExpr_iff {ts : List Token} {p : Predicate} :
    Condition .andExpr ts p ↔ Chain .AND .and (Condition .test) ts p := by
  constructor
  · intro h
    generalize hpart : Part.andExpr = part at h
    induction h with
    | andSingle h => exact .single h
    | and hleft hand _ _ ih => exact .cons hleft hand (ih rfl)
    | orSingle | or | group | leaf => cases hpart
  · exact Chain.of_closed .andSingle .and

/-- Alternatives are a chain of conjunctions. -/
lemma condition_orExpr_iff {ts : List Token} {p : Predicate} :
    Condition .orExpr ts p ↔ Chain .OR .or (Condition .andExpr) ts p := by
  constructor
  · intro h
    generalize hpart : Part.orExpr = part at h
    induction h with
    | orSingle h => exact .single h
    | or hleft hor _ _ ih => exact .cons hleft hor (ih rfl)
    | andSingle | and | group | leaf => cases hpart
  · exact Chain.of_closed .orSingle .or

/-! ## Nesting -/

/-- A column and a test of it. -/
inductive LeafPhrase : Phrase Predicate
  | intro {n ts : List Token} {column : String} {test : Test} (hname : Name n column)
    (htest : TestPhrase ts test) : LeafPhrase (n ++ ts) (.leaf column test)

/-- A group, in parentheses, of conditions of a kind. -/
inductive Grouped (phrase : Phrase Predicate) : Phrase Predicate
  | intro {o ts c : List Token} {p : Predicate} (hopen : Spelled [.mark .openParen] o)
    (h : phrase ts p) (hclose : Spelled [.mark .closeParen] c) : Grouped phrase (o ++ (ts ++ c)) p

/-- Alternatives of conjunctions of phrases. -/
abbrev Alternatives (phrase : Phrase Predicate) : Phrase Predicate :=
  Chain .OR .or (Chain .AND .and phrase)

/-- Single conditions with groups up to a depth. -/
def Nested : (depth : ℕ) → Phrase Predicate
  | 0 => LeafPhrase
  | depth + 1 => fun ts p => Grouped (Alternatives (Nested depth)) ts p ∨ LeafPhrase ts p

/-- The conditions of a level with groups up to a depth. -/
def Part.nested (depth : ℕ) : Part → Phrase Predicate
  | .orExpr => Alternatives (Nested depth)
  | .andExpr => Chain .AND .and (Nested depth)
  | .test => Nested depth

/-- Single conditions with groups up to a depth are single conditions. -/
lemma Nested.condition : ∀ {depth : ℕ} {ts : List Token} {p : Predicate}, Nested depth ts p →
    Condition .test ts p
  | 0, _, _, .intro hname htest => .leaf hname htest
  | _ + 1, _, _, .inr (.intro hname htest) => .leaf hname htest
  | _ + 1, _, _, .inl (.intro hopen h hclose) => by
    refine .group hopen (condition_orExpr_iff.mpr ?_) hclose
    exact h.mono fun h => condition_andExpr_iff.mpr (h.mono Nested.condition)

/-- A condition is nested no deeper than it has tokens.

**Proof sketch.** Induction on the derivation. The parentheses of a group are two tokens, of which
one is enough to pay for the depth. -/
lemma Condition.nested {part : Part} {ts : List Token} {p : Predicate} (h : Condition part ts p) :
    ∀ depth, ts.length ≤ depth → part.nested depth ts p := by
  induction h with
  | orSingle _ ih => exact fun depth hdepth => .single (ih depth hdepth)
  | andSingle _ ih => exact fun depth hdepth => .single (ih depth hdepth)
  | or _ ho _ ihleft ihright | and _ ho _ ihleft ihright =>
    intro depth hdepth
    simp only [List.length_append] at hdepth
    exact .cons (ihleft depth (by omega)) ho (ihright depth (by omega))
  | group hopen _ hclose ih =>
    intro depth hdepth
    obtain ⟨t, rfl, ht⟩ := spelled_single.mp hopen
    cases depth with
    | zero => simp at hdepth
    | succ depth =>
      simp only [List.length_append, List.length_singleton] at hdepth
      exact .inl (.intro hopen (ih depth (by omega)) hclose)
  | leaf hname htest =>
    intro depth _
    cases depth with
    | zero => exact .intro hname htest
    | succ depth => exact .inr (.intro hname htest)

namespace Parser

/-! ## Single conditions -/

/-- What follows the name of a column. -/
lemma reads_test (column : String) : Reads (test column) TestPhrase anything where
  sound {tokens rest a} h := by
    rw [test] at h
    rcases exists_of_accept (by simp) h with ⟨is, later, rfl, his, h⟩ | ⟨-, h⟩
    · rw [if_pos rfl] at h
      rcases exists_of_accept (by simp) h with ⟨nt, later, rfl, hnt, h⟩ | ⟨-, h⟩
      · rw [if_pos rfl] at h
        obtain ⟨_, null, later, rfl, hnull, h⟩ := (reads_expect (by simp) _).exists_of_bind h
        obtain ⟨rfl, rfl⟩ := Prod.mk.inj (Except.ok.inj h)
        exact ⟨is ++ (nt ++ null), by simp only [List.append_assoc],
          .isNotNull (spelled_append his (spelled_append hnt hnull))⟩
      · rw [if_neg (by decide)] at h
        obtain ⟨_, null, later, rfl, hnull, h⟩ := (reads_expect (by simp) _).exists_of_bind h
        obtain ⟨rfl, rfl⟩ := Prod.mk.inj (Except.ok.inj h)
        exact ⟨is ++ null, by rw [List.append_assoc], .isNull (spelled_append his hnull)⟩
    rw [if_neg (by decide)] at h
    rcases exists_of_accept (by simp) h with ⟨b, later, rfl, hb, h⟩ | ⟨-, h⟩
    · rw [if_pos rfl] at h
      obtain ⟨v, low, later, rfl, hlow, h⟩ := reads_literal.exists_of_bind h
      obtain ⟨_, a, later, rfl, ha, h⟩ := (reads_keyword _ _).exists_of_bind h
      obtain ⟨w, high, later, rfl, hhigh, h⟩ := reads_literal.exists_of_bind h
      obtain ⟨rfl, rfl⟩ := Prod.mk.inj (Except.ok.inj h)
      exact ⟨b ++ (low ++ (a ++ high)), by simp only [List.append_assoc], .between hb hlow ha hhigh⟩
    rw [if_neg (by decide)] at h
    rcases exists_of_accept (by simp) h with ⟨i, later, rfl, hi, h⟩ | ⟨-, h⟩
    · rw [if_pos rfl] at h
      obtain ⟨_, o, later, rfl, ho, h⟩ := (reads_mark _ _).exists_of_bind h
      obtain ⟨vs, choices, later, rfl, hchoices, h⟩ :=
        (reads_literal.separated trivial).exists_of_bind h
      obtain ⟨_, c, later, rfl, hc, h⟩ := (reads_mark _ _).exists_of_bind h
      obtain ⟨rfl, rfl⟩ := Prod.mk.inj (Except.ok.inj h)
      exact ⟨i ++ (o ++ (choices ++ c)), by simp only [List.append_assoc],
        .oneOf hi ho hchoices hc⟩
    rw [if_neg (by decide)] at h
    rcases exists_of_accept (by simp) h with ⟨l, later, rfl, hl, h⟩ | ⟨-, h⟩
    · rw [if_pos rfl] at h
      obtain ⟨v, pattern, later, rfl, hpattern, h⟩ := reads_literal.exists_of_bind h
      obtain ⟨rfl, rfl⟩ := Prod.mk.inj (Except.ok.inj h)
      exact ⟨l ++ pattern, by rw [List.append_assoc], .like hl hpattern⟩
    rw [if_neg (by decide), bind_peek] at h
    obtain _ | ⟨⟨kind, lexeme, place⟩, tokens⟩ := tokens
    · exact absurd h (fail_ne_ok _ _ _ _)
    cases kind with
    | relation r =>
      change (literal >>= fun v => pure (Test.compare r v)) tokens = _ at h
      obtain ⟨v, operand, later, rfl, hoperand, h⟩ := reads_literal.exists_of_bind h
      obtain ⟨rfl, rfl⟩ := Prod.mk.inj (Except.ok.inj h)
      exact ⟨[_] ++ operand, rfl, .compare (spelled_single.mpr ⟨_, rfl, rfl⟩) hoperand⟩
    | _ => exact absurd h (fail_ne_ok _ _ _ _)
  complete {ts rest a} h _ := by
    rw [test]
    cases h with
    | isNull h =>
      obtain ⟨is, null, rfl, his, hnull⟩ := exists_of_spelled h
      rw [List.append_assoc, bind_accept_of_spelled his, if_pos rfl,
        bind_accept_other hnull (by simp), if_neg (by decide), bind_expect (by simp) hnull]
      rfl
    | isNotNull h =>
      obtain ⟨is, later, rfl, his, h⟩ := exists_of_spelled h
      obtain ⟨nt, null, rfl, hnt, hnull⟩ := exists_of_spelled h
      rw [List.append_assoc, bind_accept_of_spelled his, if_pos rfl, List.append_assoc,
        bind_accept_of_spelled hnt, if_pos rfl, bind_expect (by simp) hnull]
      rfl
    | between hb hlow ha hhigh =>
      simp only [List.append_assoc]
      rw [bind_accept_other hb (by simp), if_neg (by decide), bind_accept_of_spelled hb, if_pos rfl,
        reads_literal.bind_eq hlow trivial, bind_keyword ha, reads_literal.bind_eq hhigh trivial]
      rfl
    | oneOf hi ho hchoices hc =>
      simp only [List.append_assoc]
      rw [bind_accept_other hi (by simp), if_neg (by decide), bind_accept_other hi (by simp),
        if_neg (by decide), bind_accept_of_spelled hi, if_pos rfl, bind_mark ho,
        (reads_literal.separated trivial).bind_eq hchoices
          (by rw [nextKind_of_spelled hc]; exact ⟨by simp, trivial⟩), bind_mark hc]
      rfl
    | like hl h =>
      rw [List.append_assoc, bind_accept_other hl (by simp), if_neg (by decide),
        bind_accept_other hl (by simp), if_neg (by decide), bind_accept_other hl (by simp),
        if_neg (by decide), bind_accept_of_spelled hl, if_pos rfl, reads_literal.bind_eq h trivial]
      rfl
    | @compare sign operand r v hr h =>
      rw [List.append_assoc, bind_accept_other hr (by simp), if_neg (by decide),
        bind_accept_other hr (by simp), if_neg (by decide), bind_accept_other hr (by simp),
        if_neg (by decide), bind_accept_other hr (by simp), if_neg (by decide), bind_peek]
      obtain ⟨t, rfl, ht⟩ := spelled_single.mp hr
      rw [List.singleton_append, List.headD_cons, ht]
      show (literal >>= fun v => pure (Test.compare r v)) (operand ++ rest) = _
      rw [reads_literal.bind_eq h trivial]
      rfl

/-- A column and its test. -/
lemma reads_leaf : Reads leaf LeafPhrase anything where
  sound {tokens rest a} h := by
    obtain ⟨column, n, later, rfl, hname, h⟩ := (reads_name _).exists_of_bind h
    obtain ⟨test, ts, later, rfl, htest, h⟩ := (reads_test _).exists_of_bind h
    obtain ⟨rfl, rfl⟩ := Prod.mk.inj (Except.ok.inj h)
    exact ⟨n ++ ts, by rw [List.append_assoc], .intro hname htest⟩
  complete {ts rest a} h _ := by
    obtain ⟨hname, htest⟩ := h
    rw [leaf, List.append_assoc, (reads_name _).bind_eq hname trivial,
      (reads_test _).bind_eq htest trivial]
    rfl

/-! ## Chains and groups -/

section Chain

variable {k : Keyword} {join : Predicate → Predicate → Predicate} {item : Parser Predicate}
  {phrase : Phrase Predicate} {follow : TokenKind → Prop}

/-- Items with a keyword between them, in front of anything but that keyword. -/
lemma Reads.chain (hitem : Reads item phrase follow) (hk : follow (.keyword k)) :
    Reads (chain k join item) (Chain k join phrase)
      fun kind => kind ≠ .keyword k ∧ follow kind where
  sound {tokens rest a} h := by
    obtain ⟨p, ts, later, rfl, hp, h⟩ := hitem.exists_of_bind h
    obtain ⟨ps, us, later, rfl, hps, h⟩ := (hitem.following (by simp) hk).exists_of_bind h
    obtain ⟨rfl, rfl⟩ := Prod.mk.inj (Except.ok.inj h)
    exact ⟨ts ++ us, by rw [List.append_assoc], .intro hp hps⟩
  complete {ts rest a} h hnext := by
    obtain ⟨hp, hps⟩ := h
    rw [Parser.chain, List.append_assoc, hitem.bind_eq hp (hps.follows hk hnext.2),
      (hitem.following (by simp) hk).bind_eq hps hnext]
    rfl

/-- What may follow a condition: no keyword that goes on with it. -/
def Unjoined (kind : TokenKind) : Prop := kind ≠ .keyword .OR ∧ kind ≠ .keyword .AND

/-- Alternatives of conjunctions of items. -/
lemma Reads.alternatives (hitem : Reads item phrase anything) :
    Reads (alternatives item) (Alternatives phrase) Unjoined := by
  have hreads : Reads (Parser.alternatives item) (Alternatives phrase) _ :=
    (hitem.chain trivial).chain ⟨by simp, trivial⟩
  exact ⟨hreads.sound, fun h hnext => hreads.complete h ⟨hnext.1, hnext.2, trivial⟩⟩

end Chain

/-- The first token of a column and its test is no parenthesis. -/
lemma nextKind_leafPhrase {ts : List Token} {p : Predicate} (h : LeafPhrase ts p)
    (rest : List Token) : nextKind (ts ++ rest) ≠ .mark .openParen := by
  obtain ⟨@⟨t, hname⟩, -⟩ := h
  intro hopen
  change t.kind = _ at hopen
  simp [hopen, TokenKind.isName] at hname

/-- Single conditions with groups up to a depth.

**Proof sketch.** Induction on the depth. A parenthesis decides between a group and a column, since
no name is a parenthesis. -/
lemma reads_condition (depth : ℕ) : Reads (condition depth) (Nested depth) anything := by
  induction depth with
  | zero => exact reads_leaf
  | succ depth ih =>
    constructor
    · intro tokens rest p h
      rw [condition] at h
      rcases exists_of_accept (by simp) h with ⟨o, later, rfl, ho, h⟩ | ⟨-, h⟩
      · rw [if_pos rfl] at h
        obtain ⟨p', ts, later, rfl, hp, h⟩ := ih.alternatives.exists_of_bind h
        obtain ⟨_, c, later, rfl, hc, h⟩ := (reads_mark _ _).exists_of_bind h
        obtain ⟨rfl, rfl⟩ := Prod.mk.inj (Except.ok.inj h)
        exact ⟨o ++ (ts ++ c), by simp only [List.append_assoc], .inl (.intro ho hp hc)⟩
      · rw [if_neg (by decide)] at h
        obtain ⟨ts, rfl, hp⟩ := reads_leaf.sound h
        exact ⟨ts, rfl, .inr hp⟩
    · intro ts rest p h _
      rw [condition]
      rcases h with ⟨ho, hp, hc⟩ | h
      · simp only [List.append_assoc]
        rw [bind_accept_of_spelled ho, if_pos rfl, ih.alternatives.bind_eq hp
          (by rw [nextKind_of_spelled hc]; exact ⟨by simp, by simp⟩), bind_mark hc]
        rfl
      · rw [bind_accept_of_ne (nextKind_leafPhrase h rest), if_neg (by decide)]
        exact reads_leaf.complete h trivial

/-- **The parser reads the conditions of the grammar**, in front of anything but `AND` and `OR`. -/
theorem reads_orExpr : Reads orExpr (Condition .orExpr) Unjoined where
  sound {tokens rest p} h := by
    obtain ⟨ts, hts, hp⟩ := (reads_condition tokens.length).alternatives.sound h
    refine ⟨ts, hts, condition_orExpr_iff.mpr (hp.mono fun h => ?_)⟩
    exact condition_andExpr_iff.mpr (h.mono Nested.condition)
  complete {ts rest p} h hnext := by
    have hnested := h.nested (ts ++ rest).length (by simp)
    exact (reads_condition _).alternatives.complete hnested hnext

/-- A clause is read as its condition is. -/
lemma clause_eq_ok {source : List Char} {tokens : List Token} {r : Predicate × List Token} :
    clause source tokens = .ok r ↔ orExpr tokens = .ok r := by
  rw [clause]
  cases orExpr tokens <;> simp

/-- The condition of a statement. -/
lemma reads_clause (source : List Char) : Reads (clause source) (Condition .orExpr) Unjoined where
  sound h := reads_orExpr.sound (clause_eq_ok.mp h)
  complete h hnext := clause_eq_ok.mpr (reads_orExpr.complete h hnext)

/-- A parser that gives up what it leaves. -/
lemma run'_eq_ok {α : Type} {m : Parser α} {tokens : List Token} {a : α} :
    m.run' tokens = .ok a ↔ ∃ rest, m tokens = .ok (a, rest) := by
  constructor
  · intro h
    obtain ⟨⟨a', rest⟩, hrun, rfl⟩ := map_eq_ok.mp h
    exact ⟨rest, hrun⟩
  · rintro ⟨rest, hrun⟩
    exact map_eq_ok.mpr ⟨(a, rest), hrun, rfl⟩

end Parser

/-! ## Trees of conditions -/

/-- A condition has a token. -/
lemma Condition.ne_nil {part : Part} {ts : List Token} {p : Predicate} (h : Condition part ts p) :
    ts ≠ [] := by
  induction h with
  | orSingle _ ih | andSingle _ ih => exact ih
  | or _ _ _ ih _ | and _ _ _ ih _ => simp [ih]
  | group ho _ _ _ =>
    obtain ⟨t, rfl, -⟩ := spelled_single.mp ho
    simp
  | leaf hname _ =>
    obtain ⟨_⟩ := hname
    simp

/-- **The same tokens have no two derivations with different trees.** -/
theorem Condition.unique {ts : List Token} {p q : Predicate} (hp : Condition .orExpr ts p)
    (hq : Condition .orExpr ts q) : p = q := by
  have hend : Parser.Unjoined (nextKind []) := by simp [Parser.Unjoined, nextKind, Token.finish]
  have heq := (Parser.reads_orExpr.complete hp hend).symm.trans
    (Parser.reads_orExpr.complete hq hend)
  exact (Prod.mk.inj (Except.ok.inj heq)).1

/-- Two values at the front of the same tokens are the same, with the same tokens behind them. -/
lemma Literal.unique {ts us rest rest' : List Token} {v w : Value} (hts : Literal ts v)
    (hus : Literal us w) (h : ts ++ rest = us ++ rest') : v = w ∧ rest = rest' := by
  have hv : Parser.literal (ts ++ rest) = .ok (v, rest) :=
    Parser.reads_literal.complete hts trivial
  rw [h, Parser.reads_literal.complete hus trivial] at hv
  obtain ⟨hw, hrest⟩ := Prod.mk.inj (Except.ok.inj hv)
  exact ⟨hw.symm, hrest.symm⟩

/-- A test that begins with `BETWEEN` goes on with two values and an `AND` between them. -/
lemma TestPhrase.between_of_front {b ts us vs : List Token} {test : Test}
    (h : TestPhrase ts test) (hb : Spelled [.keyword .BETWEEN] b) (heq : ts ++ vs = b ++ us) :
    ∃ low a high v w, Literal low v ∧ Spelled [.keyword .AND] a ∧ Literal high w ∧
      us = low ++ (a ++ (high ++ vs)) ∧ test = .between v w := by
  have hnext : nextKind (ts ++ vs) = .keyword .BETWEEN := heq ▸ nextKind_of_spelled hb us
  cases h with
  | isNull h | isNotNull h =>
    rw [nextKind_of_spelled h] at hnext
    simp at hnext
  | oneOf h | like h | compare h =>
    rw [List.append_assoc, nextKind_of_spelled h] at hnext
    simp at hnext
  | between hb' hlow ha hhigh =>
    obtain ⟨t, rfl, -⟩ := spelled_single.mp hb
    obtain ⟨t', rfl, -⟩ := spelled_single.mp hb'
    simp only [List.append_assoc, List.cons_append, List.nil_append] at heq
    obtain ⟨-, rfl⟩ := List.cons.inj heq
    exact ⟨_, _, _, _, _, hlow, ha, hhigh, rfl, rfl⟩

/-- **The `AND` of a `BETWEEN` joins no conditions.** A conjunction that begins with
`name BETWEEN value AND` goes on with the upper bound; only behind that other conditions may be
joined. -/
theorem Condition.between {n b low a us : List Token} {column : String} {v : Value} {p : Predicate}
    (hname : Name n column) (hb : Spelled [.keyword .BETWEEN] b) (hlow : Literal low v)
    (ha : Spelled [.keyword .AND] a)
    (h : Condition .andExpr (n ++ (b ++ (low ++ (a ++ us)))) p) :
    ∃ high vs w ps, Literal high w ∧ Repeated (Condition .test) (.keyword .AND) vs ps ∧
      us = high ++ vs ∧ p = joinRight .and (.leaf column (.between v w)) ps := by
  generalize hts : n ++ (b ++ (low ++ (a ++ us))) = ts at h
  obtain ⟨hfirst, hrest⟩ := condition_andExpr_iff.mp h
  obtain @⟨t, ht⟩ := hname
  cases hfirst with
  | group ho _ _ =>
    obtain ⟨o, rfl, hopen⟩ := spelled_single.mp ho
    simp only [List.append_assoc, List.cons_append, List.nil_append] at hts
    obtain ⟨rfl, -⟩ := List.cons.inj hts
    simp [hopen, TokenKind.isName] at ht
  | leaf hname htest =>
    obtain @⟨t', -⟩ := hname
    simp only [List.cons_append, List.nil_append] at hts
    obtain ⟨rfl, hbehind⟩ := List.cons.inj hts
    obtain ⟨low', a', high, v', w, hlow', ha', hhigh, hus, rfl⟩ :=
      htest.between_of_front hb hbehind.symm
    obtain ⟨rfl, hus⟩ := hlow.unique hlow' hus
    obtain ⟨x, rfl, -⟩ := spelled_single.mp ha
    obtain ⟨x', rfl, -⟩ := spelled_single.mp ha'
    obtain ⟨-, rfl⟩ := List.cons.inj hus
    exact ⟨high, _, w, _, hhigh, hrest, rfl, rfl⟩

/-! ## Whole texts -/

/-- A condition is read from the tokens of a text if and only if they derive it. -/
lemma wholeCondition_iff {source : List Char} {body : List Token} {last : Token}
    (hbody : Proper body) (hlast : last.kind = .finish) {p : Predicate} :
    (∃ rest, Parser.wholeCondition source (body ++ [last]) = .ok (p, rest)) ↔
      Condition .orExpr body p := by
  rw [← (Parser.reads_clause source).whole_iff Condition.proper (by simp [Parser.Unjoined]) hbody
    hlast]
  constructor
  · rintro ⟨rest, hrun⟩
    rw [Parser.wholeCondition, Parser.bind_peek] at hrun
    split at hrun
    · cases hrun
    · obtain ⟨p', rest', hclause, hrun⟩ := Parser.exists_of_bind hrun
      rw [Parser.bind_peek] at hrun
      split at hrun
      · next hend =>
        obtain ⟨rfl, rfl⟩ := Prod.mk.inj (Except.ok.inj hrun)
        exact ⟨rest', hclause, hend⟩
      · cases hrun
  · rintro ⟨rest, hclause, hrest⟩
    obtain ⟨ts, heq, h⟩ := (Parser.reads_clause source).sound hclause
    obtain rfl := hbody.eq_of_append h.proper heq hlast hrest
    obtain ⟨t, us, rfl⟩ := List.exists_cons_of_ne_nil h.ne_nil
    have hfirst : t.kind ≠ .finish := hbody t List.mem_cons_self
    refine ⟨rest, ?_⟩
    rw [Parser.wholeCondition, Parser.bind_peek, List.cons_append, List.headD_cons, if_neg hfirst]
    show (Parser.clause source >>= fun p => Parser.peek >>= fun t => _) _ = _
    rw [← List.cons_append, Parser.bind_of_ok hclause, Parser.bind_peek]
    exact congrFun (if_pos hrest) rest

/-- **Which texts hold a condition, and which.** Let a text have tokens. A condition is read from
it if and only if all tokens up to the end derive the condition by the grammar, and otherwise the
text is reported as malformed. So no text holds two conditions; every condition is made of
alternatives of conjunctions, both joined from the right; and an `AND` behind `name BETWEEN value`
belongs to the `BETWEEN`. -/
theorem readPredicate_grammar {text : String} {tokens : List Token}
    (htokens : tokenize text = .ok tokens) :
    (∀ p, readPredicate text = .ok p ↔ Whole (Condition .orExpr) tokens p) ∧
    ((∀ p, ¬ Whole (Condition .orExpr) tokens p) →
      ∃ e, readPredicate text = .error (.malformed e)) ∧
    (∀ p q, Whole (Condition .orExpr) tokens p → Whole (Condition .orExpr) tokens q → p = q) ∧
    (∀ ts p, Condition .orExpr ts p ↔ Chain .OR .or (Chain .AND .and (Condition .test)) ts p) ∧
    (∀ n b low a us column v p, Name n column → Spelled [.keyword .BETWEEN] b → Literal low v →
      Spelled [.keyword .AND] a → Condition .andExpr (n ++ (b ++ (low ++ (a ++ us)))) p →
      ∃ high vs w ps, Literal high w ∧ Repeated (Condition .test) (.keyword .AND) vs ps ∧
        us = high ++ vs ∧ p = joinRight .and (.leaf column (.between v w)) ps) := by
  obtain ⟨body, last, rfl, hlast, hbody⟩ := exists_of_tokenize htokens
  have hread : readPredicate text =
      ((Parser.wholeCondition text.toList).run' (body ++ [last])).mapError .malformed := by
    simp only [readPredicate, htokens, bind, Except.bind]
    cases (Parser.wholeCondition text.toList).run' (body ++ [last]) <;> rfl
  have hiff : ∀ p, readPredicate text = .ok p ↔ Whole (Condition .orExpr) (body ++ [last]) p := by
    intro p
    have hwhole : (∃ rest, Parser.wholeCondition text.toList (body ++ [last]) = .ok (p, rest)) ↔
        Condition .orExpr body p := wholeCondition_iff hbody hlast
    rw [whole_iff Condition.proper hbody hlast, ← hwhole, ← Parser.run'_eq_ok, hread,
      mapError_eq_ok]
  refine ⟨hiff, fun hnone => ?_, fun p q hp hq => ?_, fun ts p => ?_, ?_⟩
  · cases hrun : (Parser.wholeCondition text.toList).run' (body ++ [last]) with
    | ok p => exact absurd ((hiff p).mp (by rw [hread, hrun]; rfl)) (hnone p)
    | error e => exact ⟨e, by rw [hread, hrun]; rfl⟩
  · rw [whole_iff Condition.proper hbody hlast] at hp hq
    exact hp.unique hq
  · rw [condition_orExpr_iff]
    exact ⟨Chain.mono condition_andExpr_iff.mp, Chain.mono condition_andExpr_iff.mpr⟩
  · intro n b low a us column v p hname hb hlow ha h
    exact h.between hname hb hlow ha

/-- The condition of a text in which `AND` and `OR` meet a `BETWEEN`. -/
theorem readPredicate_between : ∃ tokens p,
    tokenize "a BETWEEN 1 AND 2 AND b = 'x' OR c IS NULL" = .ok tokens ∧
    Whole (Condition .orExpr) tokens p ∧
    p.text = "((a BETWEEN 1 AND 2 AND b = 'x') OR c IS NULL)" := by
  have hshown : (readPredicate "a BETWEEN 1 AND 2 AND b = 'x' OR c IS NULL").toOption.map
      Predicate.text = some "((a BETWEEN 1 AND 2 AND b = 'x') OR c IS NULL)" := by
    decide +kernel
  obtain ⟨p, hp, htext⟩ := Option.map_eq_some_iff.mp hshown
  rw [toOption_eq_some] at hp
  obtain ⟨tokens, htokens, -⟩ := bind_eq_ok.mp hp
  exact ⟨tokens, p, htokens, ((readPredicate_grammar htokens).1 p).mp hp, htext⟩

end StagedQuery
