import StagedQuery.Proofs.Sql.Columns
import StagedQuery.Proofs.Sql.Conditions

set_option relaxedAutoImplicit false
set_option autoImplicit false

/-!
# Statements are read by their grammar

Every production of the parser reads the statements of its kind in front of a semicolon or the end
of the text. Behind the statement one semicolon is taken, and then the text must end: nothing that
stands behind a statement is passed over.

## Main definitions

* `Closing`, `Terminated` — at most one semicolon, and a phrase with it.
* `Parser.EndsStatement` — what may follow a statement.

## Main results

* `reads_createTable`, …, `reads_load` — the production of each kind.
* `readStatement_grammar` — which texts hold a statement of a kind, and which.
-/

namespace StagedQuery

/-- At most one semicolon. -/
def Closing (ts : List Token) : Prop := ts = [] ∨ Spelled [.mark .semicolon] ts

/-- A phrase with or without a semicolon behind it. -/
inductive Terminated {α : Type} (phrase : Phrase α) : Phrase α
  | intro {ts us : List Token} {a : α} (h : phrase ts a) (hclosing : Closing us) :
    Terminated phrase (ts ++ us) a

/-- No statement, with or without a semicolon, holds the token that ends a text. -/
lemma Terminated.proper {α : Type} {phrase : Phrase α}
    (hproper : ∀ {ts a}, phrase ts a → Proper ts) {ts : List Token} {a : α}
    (h : Terminated phrase ts a) : Proper ts := by
  obtain ⟨h, rfl | hsemicolon⟩ := h
  · exact proper_append.mpr ⟨hproper h, by simp [Proper]⟩
  · exact proper_append.mpr ⟨hproper h, hsemicolon.proper (by simp)⟩

/-! ## What follows a clause -/

section Follows

variable {P : TokenKind → Prop} {ts rest : List Token}

/-- In front of an optional condition stands `WHERE`, or what follows it. -/
lemma WhereClause.follows {p : Option Predicate} (h : WhereClause ts p)
    (hwhere : P (.keyword .WHERE)) (hrest : P (nextKind rest)) : P (nextKind (ts ++ rest)) := by
  cases h with
  | absent => exact hrest
  | present hw h =>
    rw [List.append_assoc, nextKind_of_spelled hw]
    exact hwhere

/-- In front of an optional order stands `ORDER`, or what follows it. -/
lemma OrderClause.follows {o : Option OrderBy} (h : OrderClause ts o) (horder : P (.keyword .ORDER))
    (hrest : P (nextKind rest)) : P (nextKind (ts ++ rest)) := by
  cases h with
  | absent => exact hrest
  | plain ho | ascending ho | descending ho =>
    rw [List.append_assoc, nextKind_of_spelled ho]
    exact horder

/-- In front of an optional limit stands `LIMIT`, or what follows it. -/
lemma PageClause.follows {page : Option ℕ × Option ℕ} (h : PageClause ts page)
    (hlimit : P (.keyword .LIMIT)) (hrest : P (nextKind rest)) : P (nextKind (ts ++ rest)) := by
  cases h with
  | absent => exact hrest
  | limit h | limitOffset h =>
    rw [nextKind_of_spelled h]
    exact hlimit

end Follows

/-- A name is not empty. -/
lemma Name.ne_nil {ts : List Token} {s : String} (h : Name ts s) : ts ≠ [] := by
  obtain ⟨_⟩ := h
  simp

/-- A list of columns is not empty. -/
lemma SelectList.ne_nil {ts : List Token} {names : List String} (h : SelectList ts names) :
    ts ≠ [] := by
  cases h with
  | star h =>
    obtain ⟨t, rfl, -⟩ := spelled_single.mp h
    simp
  | names h =>
    obtain ⟨h, -⟩ := h
    simp [h.ne_nil]

/-- Optional keywords are decided by the kind of the next token alone. -/
lemma Flag.congr {k : Keyword} {ks : List Keyword} {behind behind' ts : List Token} {b : Bool}
    (h : Flag k ks behind ts b) (hnext : nextKind behind = nextKind behind') :
    Flag k ks behind' ts b := by
  cases h with
  | present h => exact .present h
  | absent h => exact .absent (hnext ▸ h)

namespace Parser

/-! ## Clauses -/

/-- What may follow an optional condition. -/
def EndsCondition (kind : TokenKind) : Prop := kind ≠ .keyword .WHERE ∧ Unjoined kind

/-- What may follow an optional order. -/
def EndsOrder (kind : TokenKind) : Prop :=
  kind ≠ .keyword .ORDER ∧ kind ≠ .keyword .ASC ∧ kind ≠ .keyword .DESC

/-- What may follow an optional limit. -/
def EndsPage (kind : TokenKind) : Prop := kind ≠ .keyword .LIMIT ∧ kind ≠ .keyword .OFFSET

/-- The condition of a statement, if there is one. -/
lemma reads_optionalClause (source : List Char) :
    Reads (optionalClause source) WhereClause EndsCondition where
  sound {tokens rest p} h := by
    rw [optionalClause] at h
    rcases exists_of_accept (by simp) h with ⟨w, later, rfl, hw, h⟩ | ⟨-, h⟩
    · rw [if_pos rfl] at h
      obtain ⟨p, ts, later, rfl, hp, h⟩ := (reads_clause source).exists_of_bind h
      obtain ⟨rfl, rfl⟩ := Prod.mk.inj (Except.ok.inj h)
      exact ⟨w ++ ts, by rw [List.append_assoc], .present hw hp⟩
    · rw [if_neg (by decide)] at h
      obtain ⟨rfl, rfl⟩ := Prod.mk.inj (Except.ok.inj h)
      exact ⟨[], rfl, .absent⟩
  complete {ts rest p} h hrest := by
    rw [optionalClause]
    cases h with
    | absent =>
      rw [List.nil_append, bind_accept_of_ne hrest.1, if_neg (by decide)]
      rfl
    | present hw h =>
      rw [List.append_assoc, bind_accept_of_spelled hw, if_pos rfl,
        (reads_clause source).bind_eq h hrest.2]
      rfl

/-- The order of a `SELECT`, if there is one. -/
lemma reads_order : Reads order OrderClause EndsOrder where
  sound {tokens rest o} h := by
    rw [order] at h
    rcases exists_of_accept (by simp) h with ⟨k, later, rfl, hk, h⟩ | ⟨-, h⟩
    · rw [if_pos rfl] at h
      obtain ⟨_, b, later, rfl, hb, h⟩ := (reads_keyword _ _).exists_of_bind h
      have horder := spelled_append hk hb
      obtain ⟨column, n, later, rfl, hname, h⟩ := (reads_name _).exists_of_bind h
      rcases exists_of_accept (by simp) h with ⟨d, later, rfl, hd, h⟩ | ⟨-, h⟩
      · rw [if_pos rfl] at h
        obtain ⟨rfl, rfl⟩ := Prod.mk.inj (Except.ok.inj h)
        exact ⟨(k ++ b) ++ (n ++ d), by simp only [List.append_assoc], .descending horder hname hd⟩
      rw [if_neg (by decide)] at h
      rcases exists_of_accept (by simp) h with ⟨a, later, rfl, ha, h⟩ | ⟨-, h⟩
      · obtain ⟨rfl, rfl⟩ := Prod.mk.inj (Except.ok.inj h)
        exact ⟨(k ++ b) ++ (n ++ a), by simp only [List.append_assoc], .ascending horder hname ha⟩
      · obtain ⟨rfl, rfl⟩ := Prod.mk.inj (Except.ok.inj h)
        exact ⟨(k ++ b) ++ n, by simp only [List.append_assoc], .plain horder hname⟩
    · rw [if_neg (by decide)] at h
      obtain ⟨rfl, rfl⟩ := Prod.mk.inj (Except.ok.inj h)
      exact ⟨[], rfl, .absent⟩
  complete {ts rest o} h hrest := by
    rw [order]
    cases h with
    | absent =>
      rw [List.nil_append, bind_accept_of_ne hrest.1, if_neg (by decide)]
      rfl
    | plain ho hname =>
      obtain ⟨k, b, rfl, hk, hb⟩ := exists_of_spelled ho
      simp only [List.append_assoc]
      rw [bind_accept_of_spelled hk, if_pos rfl, bind_keyword hb,
        (reads_name _).bind_eq hname trivial, bind_accept_of_ne hrest.2.2, if_neg (by decide),
        bind_accept_of_ne hrest.2.1]
      rfl
    | ascending ho hname ha =>
      obtain ⟨k, b, rfl, hk, hb⟩ := exists_of_spelled ho
      simp only [List.append_assoc]
      rw [bind_accept_of_spelled hk, if_pos rfl, bind_keyword hb,
        (reads_name _).bind_eq hname trivial, bind_accept_other ha (by simp), if_neg (by decide),
        bind_accept_of_spelled ha]
      rfl
    | descending ho hname hd =>
      obtain ⟨k, b, rfl, hk, hb⟩ := exists_of_spelled ho
      simp only [List.append_assoc]
      rw [bind_accept_of_spelled hk, if_pos rfl, bind_keyword hb,
        (reads_name _).bind_eq hname trivial, bind_accept_of_spelled hd, if_pos rfl]
      rfl

/-- The limit and the offset of a `SELECT`, if there are any. -/
lemma reads_paging : Reads paging PageClause EndsPage where
  sound {tokens rest page} h := by
    rw [paging] at h
    rcases exists_of_accept (by simp) h with ⟨k, later, rfl, hk, h⟩ | ⟨-, h⟩
    · rw [if_pos rfl] at h
      obtain ⟨limit, n, later, rfl, hn, h⟩ := (reads_natural _).exists_of_bind h
      rcases exists_of_accept (by simp) h with ⟨o, later, rfl, ho, h⟩ | ⟨-, h⟩
      · rw [if_pos rfl] at h
        obtain ⟨offset, m, later, rfl, hm, h⟩ := (reads_natural _).exists_of_bind h
        obtain ⟨rfl, rfl⟩ := Prod.mk.inj (Except.ok.inj h)
        exact ⟨k ++ (n ++ (o ++ m)), by simp only [List.append_assoc],
          .limitOffset (spelled_append hk (spelled_append hn (spelled_append ho hm)))⟩
      · rw [if_neg (by decide)] at h
        obtain ⟨rfl, rfl⟩ := Prod.mk.inj (Except.ok.inj h)
        exact ⟨k ++ n, by rw [List.append_assoc], .limit (spelled_append hk hn)⟩
    · rw [if_neg (by decide)] at h
      obtain ⟨rfl, rfl⟩ := Prod.mk.inj (Except.ok.inj h)
      exact ⟨[], rfl, .absent⟩
  complete {ts rest page} h hrest := by
    rw [paging]
    cases h with
    | absent =>
      rw [List.nil_append, bind_accept_of_ne hrest.1, if_neg (by decide)]
      rfl
    | limit h =>
      obtain ⟨k, n, rfl, hk, hn⟩ := exists_of_spelled h
      rw [List.append_assoc, bind_accept_of_spelled hk, if_pos rfl,
        (reads_natural _).bind_eq hn trivial, bind_accept_of_ne hrest.2, if_neg (by decide)]
      rfl
    | limitOffset h =>
      obtain ⟨k, later, rfl, hk, h⟩ := exists_of_spelled h
      obtain ⟨n, later, rfl, hn, h⟩ := exists_of_spelled h
      obtain ⟨o, m, rfl, ho, hm⟩ := exists_of_spelled h
      simp only [List.append_assoc]
      rw [bind_accept_of_spelled hk, if_pos rfl, (reads_natural _).bind_eq hn trivial,
        bind_accept_of_spelled ho, if_pos rfl, (reads_natural _).bind_eq hm trivial]
      rfl

/-- The values of one row. -/
lemma reads_valueTuple : Reads valueTuple RowPhrase anything where
  sound {tokens rest vs} h := by
    obtain ⟨_, o, later, rfl, ho, h⟩ := (reads_mark _ _).exists_of_bind h
    obtain ⟨vs, ts, later, rfl, hvs, h⟩ := (reads_literal.separated trivial).exists_of_bind h
    obtain ⟨_, c, later, rfl, hc, h⟩ := (reads_mark _ _).exists_of_bind h
    obtain ⟨rfl, rfl⟩ := Prod.mk.inj (Except.ok.inj h)
    exact ⟨o ++ (ts ++ c), by simp only [List.append_assoc], .intro ho hvs hc⟩
  complete {ts rest vs} h _ := by
    obtain ⟨ho, hvs, hc⟩ := h
    simp only [List.append_assoc]
    rw [valueTuple, bind_mark ho, (reads_literal.separated trivial).bind_eq hvs
      (by rw [nextKind_of_spelled hc]; exact ⟨by simp, trivial⟩), bind_mark hc]
    rfl

/-- One assignment of an `UPDATE`. -/
lemma reads_assignment : Reads assignment Assignment anything where
  sound {tokens rest a} h := by
    obtain ⟨column, n, later, rfl, hname, h⟩ := (reads_name _).exists_of_bind h
    obtain ⟨_, e, later, rfl, he, h⟩ := (reads_expect (by simp) _).exists_of_bind h
    obtain ⟨v, ts, later, rfl, hv, h⟩ := reads_literal.exists_of_bind h
    obtain ⟨rfl, rfl⟩ := Prod.mk.inj (Except.ok.inj h)
    exact ⟨n ++ (e ++ ts), by simp only [List.append_assoc], .intro hname he hv⟩
  complete {ts rest a} h _ := by
    obtain ⟨hname, he, hv⟩ := h
    simp only [List.append_assoc]
    rw [assignment, (reads_name _).bind_eq hname trivial, bind_expect (by simp) he,
      reads_literal.bind_eq hv trivial]
    rfl

/-! ## Optional parts in the middle of a statement -/

/-- Optional keywords: if the first one is there, the others must be. -/
def flag (k : Keyword) (others : Parser Unit) : Parser Bool := do
  if ← accept (.keyword k) then
    others
    return true
  else
    return false

section Flag

variable {k : Keyword} {ks : List Keyword} {others : Parser Unit}

/-- Optional keywords that were read are there, or the first of them does not come next. -/
lemma exists_of_flag {α : Type} (ks : List Keyword)
    (hothers : Reads others (fun ts _ => Spelled (ks.map .keyword) ts) anything)
    {f : Bool → Parser α} {tokens rest : List Token} {a : α}
    (h : (flag k others >>= f) tokens = .ok (a, rest)) :
    ∃ b ts middle, tokens = ts ++ middle ∧ Flag k ks middle ts b ∧ f b middle = .ok (a, rest) := by
  rw [flag, bind_assoc] at h
  rcases exists_of_accept (by simp) h with ⟨ts, later, rfl, hts, h⟩ | ⟨hnext, h⟩
  · rw [if_pos rfl, bind_assoc] at h
    obtain ⟨_, us, later, rfl, hus, h⟩ := hothers.exists_of_bind h
    exact ⟨true, ts ++ us, later, by rw [List.append_assoc], .present (spelled_append hts hus), h⟩
  · rw [if_neg (by decide)] at h
    exact ⟨false, [], tokens, rfl, .absent hnext, h⟩

/-- Optional keywords are read in front of the tokens that decide about them. -/
lemma bind_flag {α : Type}
    (hothers : Reads others (fun ts _ => Spelled (ks.map .keyword) ts) anything)
    {f : Bool → Parser α} {ts rest : List Token} {b : Bool} (h : Flag k ks rest ts b) :
    (flag k others >>= f) (ts ++ rest) = f b rest := by
  rw [flag, bind_assoc]
  cases h with
  | present h =>
    obtain ⟨ts, us, rfl, hts, hus⟩ := exists_of_spelled h
    have hrest : others (us ++ rest) = .ok ((), rest) := hothers.complete hus trivial
    rw [List.append_assoc, bind_accept_of_spelled hts, if_pos rfl, bind_assoc, bind_of_ok hrest]
    rfl
  | absent hnext =>
    rw [List.nil_append, bind_accept_of_ne hnext, if_neg (by decide)]
    rfl

/-- No further keywords. -/
lemma reads_nothing : Reads (pure ()) (fun ts _ => Spelled [] ts) anything where
  sound h := by
    obtain ⟨-, rfl⟩ := Prod.mk.inj (Except.ok.inj h)
    exact ⟨[], rfl, rfl⟩
  complete h _ := by
    rw [spelled_nil.mp h]
    rfl

/-- Two keywords. -/
lemma reads_twoKeywords (k l : Keyword) (what what' : String) :
    Reads (do keyword k what; keyword l what') (fun ts _ => Spelled [.keyword k, .keyword l] ts)
      anything where
  sound h := by
    obtain ⟨_, ts, later, rfl, hts, h⟩ := (reads_keyword _ _).exists_of_bind h
    obtain ⟨us, rfl, hus⟩ := (reads_keyword _ _).sound h
    exact ⟨ts ++ us, by rw [List.append_assoc], spelled_append hts hus⟩
  complete h _ := by
    obtain ⟨ts, us, rfl, hts, hus⟩ := exists_of_spelled h
    rw [List.append_assoc, bind_keyword hts]
    exact (reads_keyword _ _).complete hus trivial

end Flag

/-- The column list of an `INSERT`, if there is one. -/
def targets : Parser (Option (List String)) := do
  if ← accept (.mark .openParen) then
    let names ← nameList
    mark .closeParen "')' after column list"
    return some names
  else
    return none

/-- `INSERT` with its column list as a part. -/
lemma insert_eq : insert = (do
    keyword .INSERT "INSERT"
    keyword .INTO "INTO after INSERT"
    let table ← name "table name"
    let columns ← targets
    keyword .VALUES "VALUES"
    let rows ← separated valueTuple
    return ⟨table, columns, rows⟩) := by
  rw [insert, targets]
  simp only [bind_assoc]
  refine bind_congr fun _ => bind_congr fun _ => bind_congr fun _ => bind_congr fun found => ?_
  cases found <;> simp

/-- The column list, in front of anything but a parenthesis. -/
lemma reads_targets : Reads targets TargetList fun kind => kind ≠ .mark .openParen where
  sound {tokens rest columns} h := by
    rw [targets] at h
    rcases exists_of_accept (by simp) h with ⟨o, later, rfl, ho, h⟩ | ⟨-, h⟩
    · rw [if_pos rfl] at h
      obtain ⟨names, ts, later, rfl, hnames, h⟩ := reads_nameList.exists_of_bind h
      obtain ⟨_, c, later, rfl, hc, h⟩ := (reads_mark _ _).exists_of_bind h
      obtain ⟨rfl, rfl⟩ := Prod.mk.inj (Except.ok.inj h)
      exact ⟨o ++ (ts ++ c), by simp only [List.append_assoc], .present ho hnames hc⟩
    · rw [if_neg (by decide)] at h
      obtain ⟨rfl, rfl⟩ := Prod.mk.inj (Except.ok.inj h)
      exact ⟨[], rfl, .absent⟩
  complete {ts rest columns} h hrest := by
    rw [targets]
    cases h with
    | absent =>
      rw [List.nil_append, bind_accept_of_ne hrest, if_neg (by decide)]
      rfl
    | present ho hnames hc =>
      simp only [List.append_assoc]
      rw [bind_accept_of_spelled ho, if_pos rfl, reads_nameList.bind_eq hnames
        (by rw [nextKind_of_spelled hc]; exact ⟨by simp, trivial⟩), bind_mark hc]
      rfl

/-- The columns that a `SELECT` shows. -/
def shown : Parser (List String) := do
  if ← accept (.mark .star) then return [] else nameList

/-- `SELECT` with the columns that it shows as a part. -/
lemma select_eq (source : List Char) : select source = (do
    keyword .SELECT "SELECT"
    let distinct ← flag .DISTINCT (pure ())
    let columns ← shown
    keyword .FROM "FROM"
    let table ← name "table name"
    let condition ← optionalClause source
    let orderBy ← order
    let page ← paging
    return ⟨table, columns, condition, orderBy, page.1, page.2, distinct⟩) := by
  rw [select, shown, flag]
  simp only [bind_assoc]
  refine bind_congr fun _ => bind_congr fun distinct => ?_
  cases distinct <;> simp only [if_true, Bool.false_eq_true, if_false, pure_bind] <;>
    refine bind_congr fun star => ?_ <;> cases star <;> simp

/-- The columns that a `SELECT` shows, in front of anything but a comma. -/
lemma reads_shown : Reads shown SelectList fun kind => kind ≠ .mark .comma where
  sound {tokens rest names} h := by
    rw [shown] at h
    rcases exists_of_accept (by simp) h with ⟨s, later, rfl, hs, h⟩ | ⟨-, h⟩
    · rw [if_pos rfl] at h
      obtain ⟨rfl, rfl⟩ := Prod.mk.inj (Except.ok.inj h)
      exact ⟨s, rfl, .star hs⟩
    · rw [if_neg (by decide)] at h
      obtain ⟨ts, rfl, hnames⟩ := reads_nameList.sound h
      exact ⟨ts, rfl, .names hnames⟩
  complete {ts rest names} h hrest := by
    rw [shown]
    cases h with
    | star hs =>
      rw [bind_accept_of_spelled hs, if_pos rfl]
      rfl
    | names hnames =>
      have hstar : nextKind (ts ++ rest) ≠ .mark .star := by
        obtain ⟨@⟨t, ht⟩, -⟩ := hnames
        intro hkind
        change t.kind = _ at hkind
        simp [hkind, TokenKind.isName] at ht
      rw [bind_accept_of_ne hstar, if_neg (by decide)]
      exact reads_nameList.complete hnames ⟨hrest, trivial⟩

/-- `CREATE TABLE` with its optional keywords as a part. -/
lemma createTable_eq : createTable = (do
    keyword .CREATE "CREATE"
    keyword .TABLE "TABLE after CREATE"
    let guarded ← flag .IF do
      keyword .NOT "NOT after IF"
      keyword .EXISTS "EXISTS after IF NOT"
    let table ← name "table name"
    mark .openParen "'(' after table name"
    let columns ← separated column
    mark .closeParen "')' after column definitions"
    return ⟨table, columns, guarded⟩) := by
  rw [createTable, flag]
  simp only [bind_assoc]
  refine bind_congr fun _ => bind_congr fun _ => bind_congr fun found => ?_
  cases found <;> simp

/-- `DROP TABLE` with its optional keywords as a part. -/
lemma dropTable_eq : dropTable = (do
    keyword .DROP "DROP"
    keyword .TABLE "TABLE after DROP"
    let guarded ← flag .IF (keyword .EXISTS "EXISTS after IF")
    let table ← name "table name"
    return ⟨table, guarded⟩) := by
  rw [dropTable, flag]
  simp only [bind_assoc]
  refine bind_congr fun _ => bind_congr fun _ => bind_congr fun found => ?_
  cases found <;> simp

/-! ## Productions -/

/-- What may follow a statement. -/
def EndsStatement (kind : TokenKind) : Prop := kind = .finish ∨ kind = .mark .semicolon

/-- No keyword may follow a statement. -/
lemma EndsStatement.ne_keyword {kind : TokenKind} (h : EndsStatement kind) (k : Keyword) :
    kind ≠ .keyword k := by
  rintro rfl
  simp [EndsStatement] at h

/-- No comma may follow a statement. -/
lemma EndsStatement.ne_comma {kind : TokenKind} (h : EndsStatement kind) : kind ≠ .mark .comma := by
  rintro rfl
  simp [EndsStatement] at h

/-- `CREATE TABLE`. -/
lemma reads_createTable :
    Reads createTable (fun ts s => Production .createTable ts (.createTable s)) EndsStatement where
  sound {tokens rest s} h := by
    rw [createTable_eq] at h
    obtain ⟨_, k, later, rfl, hk, h⟩ := (reads_keyword _ _).exists_of_bind h
    obtain ⟨_, t, later, rfl, ht, h⟩ := (reads_keyword _ _).exists_of_bind h
    obtain ⟨guarded, guard, later, rfl, hguard, h⟩ :=
      exists_of_flag [.NOT, .EXISTS] (reads_twoKeywords _ _ _ _) h
    obtain ⟨table, n, later, rfl, htable, h⟩ := (reads_name _).exists_of_bind h
    obtain ⟨_, o, later, rfl, ho, h⟩ := (reads_mark _ _).exists_of_bind h
    obtain ⟨columns, cs, later, rfl, hcolumns, h⟩ :=
      (reads_column.separated (.inl rfl)).exists_of_bind h
    obtain ⟨_, c, later, rfl, hc, h⟩ := (reads_mark _ _).exists_of_bind h
    obtain ⟨rfl, rfl⟩ := Prod.mk.inj (Except.ok.inj h)
    exact ⟨(k ++ t) ++ (guard ++ (n ++ (o ++ (cs ++ c)))), by simp only [List.append_assoc],
      .createTable (spelled_append hk ht) (hguard.congr (nextKind_append htable.ne_nil _)) htable ho
        hcolumns hc⟩
  complete {ts rest s} h _ := by
    cases h with | createTable hopening hguard htable ho hcolumns hc => ?_
    obtain ⟨k, t, rfl, hk, ht⟩ := exists_of_spelled hopening
    simp only [List.append_assoc]
    rw [createTable_eq, bind_keyword hk, bind_keyword ht, bind_flag (reads_twoKeywords _ _ _ _)
      (hguard.congr (nextKind_append htable.ne_nil _).symm), (reads_name _).bind_eq htable trivial,
      bind_mark ho, (reads_column.separated (.inl rfl)).bind_eq hcolumns
        (by rw [nextKind_of_spelled hc]; exact ⟨by simp, .inr rfl⟩), bind_mark hc]
    rfl

/-- `DROP TABLE`. -/
lemma reads_dropTable :
    Reads dropTable (fun ts s => Production .dropTable ts (.dropTable s)) EndsStatement where
  sound {tokens rest s} h := by
    rw [dropTable_eq] at h
    obtain ⟨_, k, later, rfl, hk, h⟩ := (reads_keyword _ _).exists_of_bind h
    obtain ⟨_, t, later, rfl, ht, h⟩ := (reads_keyword _ _).exists_of_bind h
    obtain ⟨guarded, guard, later, rfl, hguard, h⟩ :=
      exists_of_flag [.EXISTS] (reads_keyword _ _) h
    obtain ⟨table, n, later, rfl, htable, h⟩ := (reads_name _).exists_of_bind h
    obtain ⟨rfl, rfl⟩ := Prod.mk.inj (Except.ok.inj h)
    exact ⟨(k ++ t) ++ (guard ++ n), by simp only [List.append_assoc],
      .dropTable (spelled_append hk ht) (hguard.congr (nextKind_append htable.ne_nil _)) htable⟩
  complete {ts rest s} h _ := by
    cases h with | dropTable hopening hguard htable => ?_
    obtain ⟨k, t, rfl, hk, ht⟩ := exists_of_spelled hopening
    simp only [List.append_assoc]
    rw [dropTable_eq, bind_keyword hk, bind_keyword ht, bind_flag (reads_keyword _ _)
      (hguard.congr (nextKind_append htable.ne_nil _).symm), (reads_name _).bind_eq htable trivial]
    rfl

/-- `INSERT`. -/
lemma reads_insert :
    Reads insert (fun ts s => Production .insert ts (.insert s)) EndsStatement where
  sound {tokens rest s} h := by
    rw [insert_eq] at h
    obtain ⟨_, k, later, rfl, hk, h⟩ := (reads_keyword _ _).exists_of_bind h
    obtain ⟨_, i, later, rfl, hi, h⟩ := (reads_keyword _ _).exists_of_bind h
    obtain ⟨table, n, later, rfl, htable, h⟩ := (reads_name _).exists_of_bind h
    obtain ⟨columns, cs, later, rfl, hcolumns, h⟩ := reads_targets.exists_of_bind h
    obtain ⟨_, v, later, rfl, hv, h⟩ := (reads_keyword _ _).exists_of_bind h
    obtain ⟨rows, rs, later, rfl, hrows, h⟩ := (reads_valueTuple.separated trivial).exists_of_bind h
    obtain ⟨rfl, rfl⟩ := Prod.mk.inj (Except.ok.inj h)
    exact ⟨(k ++ i) ++ (n ++ (cs ++ (v ++ rs))), by simp only [List.append_assoc],
      .insert (spelled_append hk hi) htable hcolumns hv hrows⟩
  complete {ts rest s} h hrest := by
    cases h with | insert hopening htable hcolumns hv hrows => ?_
    obtain ⟨k, i, rfl, hk, hi⟩ := exists_of_spelled hopening
    simp only [List.append_assoc]
    rw [insert_eq, bind_keyword hk, bind_keyword hi, (reads_name _).bind_eq htable trivial,
      reads_targets.bind_eq hcolumns (by rw [nextKind_of_spelled hv]; simp), bind_keyword hv,
      (reads_valueTuple.separated trivial).bind_eq hrows ⟨hrest.ne_comma, trivial⟩]
    rfl

/-- `SELECT`. -/
lemma reads_select (source : List Char) :
    Reads (select source) (fun ts s => Production .select ts (.select s)) EndsStatement where
  sound {tokens rest s} h := by
    rw [select_eq] at h
    obtain ⟨_, k, later, rfl, hk, h⟩ := (reads_keyword _ _).exists_of_bind h
    obtain ⟨distinct, d, later, rfl, hd, h⟩ := exists_of_flag [] reads_nothing h
    obtain ⟨columns, cs, later, rfl, hcolumns, h⟩ := reads_shown.exists_of_bind h
    obtain ⟨_, f, later, rfl, hf, h⟩ := (reads_keyword _ _).exists_of_bind h
    obtain ⟨table, n, later, rfl, htable, h⟩ := (reads_name _).exists_of_bind h
    obtain ⟨condition, w, later, rfl, hwhere, h⟩ := (reads_optionalClause source).exists_of_bind h
    obtain ⟨orderBy, o, later, rfl, horder, h⟩ := reads_order.exists_of_bind h
    obtain ⟨page, l, later, rfl, hpage, h⟩ := reads_paging.exists_of_bind h
    obtain ⟨rfl, rfl⟩ := Prod.mk.inj (Except.ok.inj h)
    exact ⟨k ++ (d ++ (cs ++ (f ++ (n ++ (w ++ (o ++ l)))))), by simp only [List.append_assoc],
      .select hk (hd.congr (nextKind_append hcolumns.ne_nil _)) hcolumns hf htable hwhere horder
        hpage⟩
  complete {ts rest s} h hrest := by
    cases h with
    | @select k d cs f n w o l distinct columns table condition orderBy page hk hd hcolumns hf
      htable hwhere horder hpage => ?_
    have hlast : EndsOrder (nextKind (l ++ rest)) := hpage.follows (by simp [EndsOrder])
      ⟨hrest.ne_keyword _, hrest.ne_keyword _, hrest.ne_keyword _⟩
    have hmiddle : EndsCondition (nextKind (o ++ (l ++ rest))) :=
      horder.follows (by simp [EndsCondition, Unjoined])
        (hpage.follows (by simp [EndsCondition, Unjoined])
          ⟨hrest.ne_keyword _, hrest.ne_keyword _, hrest.ne_keyword _⟩)
    simp only [List.append_assoc]
    rw [select_eq, bind_keyword hk,
      bind_flag reads_nothing (hd.congr (nextKind_append hcolumns.ne_nil _).symm),
      reads_shown.bind_eq hcolumns (by rw [nextKind_of_spelled hf]; simp), bind_keyword hf,
      (reads_name _).bind_eq htable trivial,
      (reads_optionalClause source).bind_eq hwhere hmiddle, reads_order.bind_eq horder hlast,
      reads_paging.bind_eq hpage ⟨hrest.ne_keyword _, hrest.ne_keyword _⟩]
    rfl

/-- `UPDATE`. -/
lemma reads_update (source : List Char) :
    Reads (update source) (fun ts s => Production .update ts (.update s)) EndsStatement where
  sound {tokens rest s} h := by
    obtain ⟨_, k, later, rfl, hk, h⟩ := (reads_keyword _ _).exists_of_bind h
    obtain ⟨table, n, later, rfl, htable, h⟩ := (reads_name _).exists_of_bind h
    obtain ⟨_, t, later, rfl, ht, h⟩ := (reads_keyword _ _).exists_of_bind h
    obtain ⟨assignments, rs, later, rfl, hassign, h⟩ :=
      (reads_assignment.separated trivial).exists_of_bind h
    obtain ⟨condition, w, later, rfl, hwhere, h⟩ := (reads_optionalClause source).exists_of_bind h
    obtain ⟨rfl, rfl⟩ := Prod.mk.inj (Except.ok.inj h)
    exact ⟨k ++ (n ++ (t ++ (rs ++ w))), by simp only [List.append_assoc],
      .update hk htable ht hassign hwhere⟩
  complete {ts rest s} h hrest := by
    cases h with
    | @update k n t rs w table assignments condition hk htable ht hassign hwhere => ?_
    have hmiddle := hwhere.follows (P := fun kind => kind ≠ .mark .comma ∧ anything kind)
      ⟨by simp, trivial⟩ ⟨hrest.ne_comma, trivial⟩
    simp only [List.append_assoc]
    rw [update, bind_keyword hk, (reads_name _).bind_eq htable trivial, bind_keyword ht,
      (reads_assignment.separated trivial).bind_eq hassign hmiddle,
      (reads_optionalClause source).bind_eq hwhere
        ⟨hrest.ne_keyword _, hrest.ne_keyword _, hrest.ne_keyword _⟩]
    rfl

/-- `DELETE`. -/
lemma reads_delete (source : List Char) :
    Reads (delete source) (fun ts s => Production .delete ts (.delete s)) EndsStatement where
  sound {tokens rest s} h := by
    obtain ⟨_, k, later, rfl, hk, h⟩ := (reads_keyword _ _).exists_of_bind h
    obtain ⟨_, f, later, rfl, hf, h⟩ := (reads_keyword _ _).exists_of_bind h
    obtain ⟨table, n, later, rfl, htable, h⟩ := (reads_name _).exists_of_bind h
    obtain ⟨condition, w, later, rfl, hwhere, h⟩ := (reads_optionalClause source).exists_of_bind h
    obtain ⟨rfl, rfl⟩ := Prod.mk.inj (Except.ok.inj h)
    exact ⟨(k ++ f) ++ (n ++ w), by simp only [List.append_assoc],
      .delete (spelled_append hk hf) htable hwhere⟩
  complete {ts rest s} h hrest := by
    cases h with | delete hopening htable hwhere => ?_
    obtain ⟨k, f, rfl, hk, hf⟩ := exists_of_spelled hopening
    simp only [List.append_assoc]
    rw [delete, bind_keyword hk, bind_keyword hf, (reads_name _).bind_eq htable trivial,
      (reads_optionalClause source).bind_eq hwhere
        ⟨hrest.ne_keyword _, hrest.ne_keyword _, hrest.ne_keyword _⟩]
    rfl

/-- A verb, `DATABASE` and the path of a file. -/
lemma reads_databasePath (verb : Keyword) (what what' what'' : String) :
    Reads (do keyword verb what; keyword .DATABASE what'; quoted what'')
      (fun ts path => Spelled [.keyword verb, .keyword .DATABASE, .quoted path] ts) anything where
  sound {tokens rest path} h := by
    obtain ⟨_, k, later, rfl, hk, h⟩ := (reads_keyword _ _).exists_of_bind h
    obtain ⟨_, d, later, rfl, hd, h⟩ := (reads_keyword _ _).exists_of_bind h
    obtain ⟨ts, rfl, hts⟩ := (reads_quoted _).sound h
    exact ⟨k ++ (d ++ ts), by simp only [List.append_assoc],
      spelled_append hk (spelled_append hd hts)⟩
  complete {ts rest path} h _ := by
    obtain ⟨k, later, rfl, hk, h⟩ := exists_of_spelled h
    obtain ⟨d, ts, rfl, hd, hts⟩ := exists_of_spelled h
    simp only [List.append_assoc]
    rw [bind_keyword hk, bind_keyword hd]
    exact (reads_quoted _).complete hts trivial

/-- `SAVE DATABASE`. -/
lemma reads_save : Reads save (fun ts path => Production .save ts (.save path)) EndsStatement where
  sound h := by
    obtain ⟨ts, rfl, hts⟩ := (reads_databasePath _ _ _ _).sound h
    exact ⟨ts, rfl, .save hts⟩
  complete h _ := by
    cases h with | save h => exact (reads_databasePath _ _ _ _).complete h trivial

/-- `LOAD DATABASE`. -/
lemma reads_load : Reads load (fun ts path => Production .load ts (.load path)) EndsStatement where
  sound h := by
    obtain ⟨ts, rfl, hts⟩ := (reads_databasePath _ _ _ _).sound h
    exact ⟨ts, rfl, .load hts⟩
  complete h _ := by
    cases h with | load h => exact (reads_databasePath _ _ _ _).complete h trivial

/-! ## The end of a statement -/

section Whole

variable {α : Type} {source : List Char} {m : Parser α} {phrase : Phrase α}

/-- Behind a statement one semicolon may stand, and then the text ends. -/
lemma exists_of_finish {tokens rest : List Token} {u : Unit}
    (h : finish source tokens = .ok (u, rest)) :
    nextKind rest = .finish ∧ ∃ ts, tokens = ts ++ rest ∧ Closing ts := by
  obtain ⟨found, middle, hfound, hend⟩ := exists_of_bind h
  rw [bind_peek] at hend
  split at hend
  · next hlast =>
    obtain ⟨-, rfl⟩ := Prod.mk.inj (Except.ok.inj hend)
    rcases accept_eq_ok (by simp) hfound with ⟨-, ts, rfl, hts⟩ | ⟨-, rfl, -⟩
    · exact ⟨hlast, ts, rfl, .inr hts⟩
    · exact ⟨hlast, [], rfl, .inl rfl⟩
  · cases hend

/-- Where the text ends behind at most one semicolon, nothing is wrong. -/
lemma finish_of_closing {ts rest : List Token} (hts : Closing ts)
    (hrest : nextKind rest = .finish) : finish source (ts ++ rest) = .ok ((), rest) := by
  rw [finish]
  rcases hts with rfl | hts
  · rw [List.nil_append, bind_accept_of_ne (by rw [hrest]; simp), bind_peek]
    exact congrFun (if_pos hrest) rest
  · rw [bind_accept_of_spelled hts, bind_peek]
    exact congrFun (if_pos hrest) rest

/-- Where anything else stands behind a semicolon, the text is refused. -/
lemma finish_of_more {ts rest : List Token} (hts : Spelled [.mark .semicolon] ts)
    (hrest : nextKind rest ≠ .finish) : ∃ e, finish source (ts ++ rest) = .error e := by
  rw [finish, bind_accept_of_spelled hts, bind_peek]
  exact ⟨_, congrFun (if_neg hrest) rest⟩

/-- What stands behind a statement in a text that ends there. -/
lemma endsStatement_of_closing {ts rest : List Token} (hts : Closing ts)
    (hrest : nextKind rest = .finish) : EndsStatement (nextKind (ts ++ rest)) := by
  rcases hts with rfl | hts
  · exact .inl hrest
  · exact .inr (nextKind_of_spelled hts rest)

/-- A production takes a whole text if and only if the tokens are one of its phrases, with or
without a semicolon. -/
lemma whole_iff_terminated (hm : Reads m phrase EndsStatement)
    (hproper : ∀ {ts a}, phrase ts a → Proper ts) {body : List Token} {last : Token}
    (hbody : Proper body) (hlast : last.kind = .finish) {a : α} :
    (∃ rest, whole source m (body ++ [last]) = .ok (a, rest)) ↔ Terminated phrase body a := by
  have hnext : nextKind [last] = .finish := hlast
  constructor
  · rintro ⟨rest, hrun⟩
    obtain ⟨a', ts, later, heq, h, hfinish⟩ := hm.exists_of_bind hrun
    obtain ⟨_, rest', hfinish, hpure⟩ := exists_of_bind hfinish
    obtain ⟨hend, us, rfl, hus⟩ := exists_of_finish hfinish
    obtain ⟨rfl, rfl⟩ := Prod.mk.inj (Except.ok.inj hpure)
    have hterminated : Terminated phrase (ts ++ us) a' := .intro h hus
    rw [← List.append_assoc] at heq
    rwa [hbody.eq_of_append (hterminated.proper hproper) heq hnext hend]
  · rintro ⟨h, hus⟩
    refine ⟨[last], ?_⟩
    rw [whole, List.append_assoc, hm.bind_eq h (endsStatement_of_closing hus hnext),
      bind_of_ok (finish_of_closing hus hnext)]
    rfl

end Whole

end Parser

/-! ## Whole texts -/

/-- What is read from a text is what the production reads from its tokens. -/
lemma exists_of_readWith {α : Type} {kind : StatementKind} {production : List Char → Parser α}
    {text : String} {a : α} (h : readWith kind production text = .ok a) :
    ∃ tokens rest, tokenize text = .ok tokens ∧
      production text.toList tokens = .ok (a, rest) := by
  rw [readWith] at h
  split at h
  · simp at h
  · simp at h
  · rename_i tokens htokens
    split at h
    · rename_i result hresult
      obtain rfl := Except.ok.inj h
      obtain ⟨⟨result', rest⟩, hwhole, heq⟩ := map_eq_ok.mp hresult
      obtain ⟨⟨result'', rest'⟩, hproduction, hfinish⟩ := bind_eq_ok.mp hwhole
      obtain ⟨⟨_, rest''⟩, -, hpure⟩ := bind_eq_ok.mp hfinish
      obtain rfl : result'' = result' := (Prod.mk.inj (Except.ok.inj hpure)).1
      obtain rfl : result'' = result := heq
      exact ⟨tokens, rest', htokens, hproduction⟩
    · simp at h

section ReadWith

variable {α : Type} (kind : StatementKind) (production : List Char → Parser α) {text : String}
  {tokens : List Token}

/-- What is read from a text that has tokens is what the production takes of all of them. -/
lemma readWith_of_tokens (htokens : tokenize text = .ok tokens) :
    readWith kind production text =
      ((Parser.whole text.toList (production text.toList)).run' tokens).mapError fun e =>
        .malformed (e.inStatement kind) := by
  simp only [readWith, htokens]
  cases (Parser.whole text.toList (production text.toList)).run' tokens <;> rfl

/-- A text is read if and only if the production takes all of its tokens. -/
lemma readWith_eq_ok_iff (htokens : tokenize text = .ok tokens) {a : α} :
    readWith kind production text = .ok a ↔
      ∃ rest, Parser.whole text.toList (production text.toList) tokens = .ok (a, rest) := by
  rw [readWith_of_tokens kind production htokens, mapError_eq_ok, Parser.run'_eq_ok]

/-- A text that has tokens is read, or it is malformed. -/
lemma readWith_ok_or_malformed (htokens : tokenize text = .ok tokens) :
    (∃ a, readWith kind production text = .ok a) ∨
      ∃ e, readWith kind production text = .error (.malformed e) := by
  rw [readWith_of_tokens kind production htokens]
  cases (Parser.whole text.toList (production text.toList)).run' tokens with
  | ok a => exact .inl ⟨a, rfl⟩
  | error e => exact .inr ⟨_, rfl⟩

end ReadWith

/-- Every kind of statement has a production, which reads its statements. -/
lemma StatementKind.exists_production (kind : StatementKind) :
    ∃ (α : Type) (production : List Char → Parser α) (wrap : α → Statement),
      (∀ text, readStatement kind text = (readWith kind production text).map wrap) ∧
      (∀ source, (production source).Reads (fun ts a => Production kind ts (wrap a))
        Parser.EndsStatement) ∧
      ∀ ts s, Production kind ts s → ∃ a, wrap a = s := by
  cases kind with
  | createTable =>
    refine ⟨_, _, .createTable, fun _ => rfl, fun _ => Parser.reads_createTable, fun ts s h => ?_⟩
    cases h
    exact ⟨_, rfl⟩
  | dropTable =>
    refine ⟨_, _, .dropTable, fun _ => rfl, fun _ => Parser.reads_dropTable, fun ts s h => ?_⟩
    cases h
    exact ⟨_, rfl⟩
  | insert =>
    refine ⟨_, _, .insert, fun _ => rfl, fun _ => Parser.reads_insert, fun ts s h => ?_⟩
    cases h
    exact ⟨_, rfl⟩
  | select =>
    refine ⟨_, _, .select, fun _ => rfl, Parser.reads_select, fun ts s h => ?_⟩
    cases h
    exact ⟨_, rfl⟩
  | update =>
    refine ⟨_, _, .update, fun _ => rfl, Parser.reads_update, fun ts s h => ?_⟩
    cases h
    exact ⟨_, rfl⟩
  | delete =>
    refine ⟨_, _, .delete, fun _ => rfl, Parser.reads_delete, fun ts s h => ?_⟩
    cases h
    exact ⟨_, rfl⟩
  | save =>
    refine ⟨_, _, .save, fun _ => rfl, fun _ => Parser.reads_save, fun ts s h => ?_⟩
    cases h
    exact ⟨_, rfl⟩
  | load =>
    refine ⟨_, _, .load, fun _ => rfl, fun _ => Parser.reads_load, fun ts s h => ?_⟩
    cases h
    exact ⟨_, rfl⟩

/-- A text is read as a statement of a kind if and only if its tokens derive the statement. -/
lemma readStatement_iff (kind : StatementKind) {text : String} {tokens : List Token}
    (htokens : tokenize text = .ok tokens) {s : Statement} :
    readStatement kind text = .ok s ↔ Whole (Terminated (Production kind)) tokens s := by
  obtain ⟨α, production, wrap, hread, hreads, hwrap⟩ := kind.exists_production
  obtain ⟨body, last, rfl, hlast, hbody⟩ := exists_of_tokenize htokens
  have hok : ∀ a, readWith kind production text = .ok a ↔
      Terminated (fun ts a => Production kind ts (wrap a)) body a := fun a => by
    rw [readWith_eq_ok_iff kind production htokens]
    exact Parser.whole_iff_terminated (hreads _) Production.proper hbody hlast
  rw [hread, map_eq_ok, whole_iff (Terminated.proper Production.proper) hbody hlast]
  constructor
  · rintro ⟨a, ha, rfl⟩
    obtain ⟨h, hclosing⟩ := (hok a).mp ha
    exact .intro h hclosing
  · rintro ⟨h, hclosing⟩
    obtain ⟨a, rfl⟩ := hwrap _ _ h
    exact ⟨a, (hok a).mpr (.intro h hclosing), rfl⟩

/-- A statement that is read from a text derives from the first tokens of the text. -/
lemma exists_production_of_readStatement {kind : StatementKind} {text : String} {s : Statement}
    (h : readStatement kind text = .ok s) :
    ∃ ts rest last, tokenize text = .ok (ts ++ rest ++ [last]) ∧ Production kind ts s := by
  obtain ⟨α, production, wrap, hread, -, -⟩ := kind.exists_production
  have hok := h
  rw [hread] at hok
  obtain ⟨a, ha, -⟩ := map_eq_ok.mp hok
  obtain ⟨tokens, -, htokens, -⟩ := exists_of_readWith ha
  obtain ⟨body, last, rfl, -, ⟨hproduction, -⟩⟩ := (readStatement_iff kind htokens).mp h
  exact ⟨_, _, last, htokens, hproduction⟩

/-- A text that has tokens is read as a statement of a kind, or it is malformed. -/
lemma readStatement_ok_or_malformed (kind : StatementKind) {text : String} {tokens : List Token}
    (htokens : tokenize text = .ok tokens) :
    (∃ s, readStatement kind text = .ok s) ∨
      ∃ e, readStatement kind text = .error (.malformed e) := by
  obtain ⟨α, production, wrap, hread, -, -⟩ := kind.exists_production
  rw [hread]
  rcases readWith_ok_or_malformed kind production htokens with ⟨a, ha⟩ | ⟨e, he⟩
  · exact .inl ⟨wrap a, by rw [ha]; rfl⟩
  · exact .inr ⟨e, by rw [he]; rfl⟩

/-- A text in which anything stands behind a statement and a semicolon is no statement of the
kind.

**Proof sketch.** The production takes the statement and no more, whatever stands behind the
semicolon. -/
lemma not_ok_of_more {kind : StatementKind} {text : String} {ts semicolon more : List Token}
    (htokens : tokenize text = .ok (ts ++ (semicolon ++ more))) {s : Statement}
    (h : Production kind ts s) (hsemicolon : Spelled [.mark .semicolon] semicolon)
    (hmore : nextKind more ≠ .finish) (s' : Statement) : readStatement kind text ≠ .ok s' := by
  obtain ⟨α, production, wrap, hread, hreads, hwrap⟩ := kind.exists_production
  obtain ⟨a, rfl⟩ := hwrap _ _ h
  rw [hread]
  intro hok
  obtain ⟨a', ha', -⟩ := map_eq_ok.mp hok
  obtain ⟨rest, hrun⟩ := (readWith_eq_ok_iff kind production htokens).mp ha'
  rw [Parser.whole, (hreads text.toList).bind_eq h (.inr (nextKind_of_spelled hsemicolon more))]
    at hrun
  obtain ⟨u, later, hfinish, -⟩ := Parser.exists_of_bind hrun
  obtain ⟨e, herror⟩ := Parser.finish_of_more hsemicolon hmore
  rw [herror] at hfinish
  cases hfinish

/-- **Which texts hold a statement of a kind, and which.** Let a text have tokens. A statement of a
kind is read from it if and only if all tokens up to the end, without a semicolon at the end if
there is one, derive the statement by the grammar of its kind; otherwise the text is reported as
malformed. In particular it is malformed if anything stands behind a statement and a semicolon. -/
theorem readStatement_grammar (kind : StatementKind) {text : String} {tokens : List Token}
    (htokens : tokenize text = .ok tokens) :
    (∀ s, readStatement kind text = .ok s ↔ Whole (Terminated (Production kind)) tokens s) ∧
    ((∀ s, ¬ Whole (Terminated (Production kind)) tokens s) →
      ∃ e, readStatement kind text = .error (.malformed e)) ∧
    (∀ ts semicolon more s, tokens = ts ++ (semicolon ++ more) → Production kind ts s →
      Spelled [.mark .semicolon] semicolon → nextKind more ≠ .finish →
      ∃ e, readStatement kind text = .error (.malformed e)) := by
  refine ⟨fun s => readStatement_iff kind htokens, fun hnone => ?_, ?_⟩
  · rcases readStatement_ok_or_malformed kind htokens with ⟨s, hs⟩ | he
    · exact absurd ((readStatement_iff kind htokens).mp hs) (hnone s)
    · exact he
  · rintro ts semicolon more s rfl h hsemicolon hmore
    rcases readStatement_ok_or_malformed kind htokens with ⟨s', hs'⟩ | he
    · exact absurd hs' (not_ok_of_more htokens h hsemicolon hmore s')
    · exact he

/-- `DROP TABLE` with a semicolon behind it is a statement; with a second one behind that it is
none. -/
theorem readStatement_twoStatements :
    (∃ tokens table, tokenize "DROP TABLE t;" = .ok tokens ∧
      Whole (Terminated (Production .dropTable)) tokens (.dropTable table) ∧ table.table = "t") ∧
    ∃ tokens e, tokenize "DROP TABLE t; DROP TABLE u" = .ok tokens ∧
      readStatement .dropTable "DROP TABLE t; DROP TABLE u" = .error (.malformed e) := by
  have hone : (readDropTable "DROP TABLE t;").toOption.map DropTable.table = some "t" := by
    decide +kernel
  have htokens : (tokenize "DROP TABLE t; DROP TABLE u").toOption.isSome = true := by
    decide +kernel
  have htwo : (readStatement .dropTable "DROP TABLE t; DROP TABLE u").toOption.isNone = true := by
    decide +kernel
  constructor
  · obtain ⟨table, htable, hname⟩ := Option.map_eq_some_iff.mp hone
    rw [toOption_eq_some] at htable
    obtain ⟨tokens, -, htokens, -⟩ := exists_of_readWith htable
    have hread : readStatement .dropTable "DROP TABLE t;" = .ok (.dropTable table) :=
      map_eq_ok.mpr ⟨table, htable, rfl⟩
    exact ⟨tokens, table, htokens, ((readStatement_grammar _ htokens).1 _).mp hread, hname⟩
  · obtain ⟨tokens, htokens⟩ := Option.isSome_iff_exists.mp htokens
    rw [toOption_eq_some] at htokens
    obtain ⟨hread, hmalformed, -⟩ := readStatement_grammar .dropTable htokens
    obtain ⟨e, he⟩ := hmalformed fun s hs => by
      rw [(hread s).mpr hs] at htwo
      cases htwo
    exact ⟨tokens, e, htokens, he⟩

end StagedQuery
