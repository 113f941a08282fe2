import Mathlib.Data.List.Basic
import StagedQuery.Sql.Parser.Basic
import StagedQuery.Table.Basic

set_option relaxedAutoImplicit false
set_option autoImplicit false

/-!
# The grammar of statements

Which token sequences are statements, and which statements they are. The rules are those that the
documentation of the dialect gives, with `[…]` for a part that may be lacking and `{…}` for one that
may be repeated:

    condition := or_expr
    or_expr   := and_expr [OR or_expr]
    and_expr  := test [AND and_expr]
    test      := '(' or_expr ')'
               | name IS [NOT] NULL
               | name BETWEEN value AND value
               | name IN '(' value {',' value} ')'
               | name LIKE value
               | name relation value
    create    := CREATE TABLE [IF NOT EXISTS] name '(' column {',' column} ')'
    drop      := DROP TABLE [IF EXISTS] name
    insert    := INSERT INTO name ['(' name {',' name} ')'] VALUES row {',' row}
    select    := SELECT [DISTINCT] ('*' | name {',' name}) FROM name [WHERE condition]
                 [ORDER BY name [ASC | DESC]] [LIMIT n [OFFSET n]]
    update    := UPDATE name SET name '=' value {',' name '=' value} [WHERE condition]
    delete    := DELETE FROM name [WHERE condition]
    save      := SAVE DATABASE text
    load      := LOAD DATABASE text

Keywords can be names. So a keyword that opens an optional part is read as that part wherever it
stands in its place: `IF` behind `TABLE` is never the name of the table, and `DISTINCT` behind
`SELECT` never that of a column.

## Main definitions

* `Phrase` — token sequences with what they stand for.
* `Spelled`, `Name`, `Literal` — tokens of given kinds, names and values.
* `Repeated`, `CommaList`, `Flag` — repeated parts, and optional keywords.
* `Part`, `Condition` — the three levels of conditions, and their derivations.
* `Production` — the statements of each kind.

## Main results

* `Production.proper`, `Condition.proper` — no phrase holds the token that ends a text.
-/

namespace StagedQuery

/-- A kind of phrase: which token sequences are such phrases, and what they stand for. -/
abbrev Phrase (α : Type) := List Token → α → Prop

/-! ## Tokens and values -/

/-- Tokens of given kinds, one of each in order. -/
def Spelled (kinds : List TokenKind) (ts : List Token) : Prop := ts.map Token.kind = kinds

/-- The name of a table or a column: one token, which may be a keyword. -/
inductive Name : Phrase String
  | intro {t : Token} (h : t.kind.isName = true) : Name [t] t.lexeme

/-- A number without a sign, and what it stands for where a minus precedes it or not. -/
inductive Numeral (negative : Bool) : Phrase Value
  | integer {t : Token} {n : ℕ} (h : t.kind = .integer n) :
    Numeral negative [t] (.int (if negative then -n else n))
  | decimal {t : Token} {x : Binary64} (h : t.kind = .decimal x) :
    Numeral negative [t] (.float (if negative then -x else x))

/-- A value: `NULL`, a number with or without a sign, quoted text, or a bare word that is no
keyword. -/
inductive Literal : Phrase Value
  | null {ts : List Token} (h : Spelled [.null] ts) : Literal ts .null
  | unsigned {ts : List Token} {v : Value} (h : Numeral false ts v) : Literal ts v
  | positive {sign ts : List Token} {v : Value} (hsign : Spelled [.mark .plus] sign)
    (h : Numeral false ts v) : Literal (sign ++ ts) v
  | negative {sign ts : List Token} {v : Value} (hsign : Spelled [.mark .minus] sign)
    (h : Numeral true ts v) : Literal (sign ++ ts) v
  | text {t : Token} {s : String} (h : t.kind = .quoted s) : Literal [t] (.text s)
  | word {t : Token} (h : t.kind = .name) : Literal [t] (.text t.lexeme)

/-! ## Repeated and optional parts -/

section Parts

variable {α : Type} (phrase : Phrase α)

/-- Any number of phrases, each behind a separator. -/
inductive Repeated (separator : TokenKind) : Phrase (List α)
  | nil : Repeated separator [] []
  | cons {sep ts us : List Token} {a : α} {as : List α} (hsep : Spelled [separator] sep)
    (h : phrase ts a) (hrest : Repeated separator us as) :
    Repeated separator (sep ++ (ts ++ us)) (a :: as)

/-- One or more phrases with commas between them. -/
inductive CommaList : Phrase (List α)
  | intro {ts us : List Token} {a : α} {as : List α} (h : phrase ts a)
    (hrest : Repeated phrase (.mark .comma) us as) : CommaList (ts ++ us) (a :: as)

/-- Any number of phrases one behind the other. -/
inductive Sequence : Phrase (List α)
  | nil : Sequence [] []
  | cons {ts us : List Token} {a : α} {as : List α} (h : phrase ts a) (hrest : Sequence us as) :
    Sequence (ts ++ us) (a :: as)

end Parts

/-- The kind of the next token; a text ends behind its last one. -/
def nextKind (tokens : List Token) : TokenKind := (tokens.headD Token.finish).kind

/-- Optional keywords in front of other tokens, and whether they are there. They are there wherever
the first of them is. -/
inductive Flag (k : Keyword) (ks : List Keyword) (behind : List Token) : Phrase Bool
  | present {ts : List Token} (h : Spelled (.keyword k :: ks.map .keyword) ts) :
    Flag k ks behind ts true
  | absent (h : nextKind behind ≠ .keyword k) : Flag k ks behind [] false

/-! ## Conditions -/

/-- What follows the name of a column in a test. -/
inductive TestPhrase : Phrase Test
  | isNull {ts : List Token} (h : Spelled [.keyword .IS, .null] ts) : TestPhrase ts (.isNull .null)
  | isNotNull {ts : List Token} (h : Spelled [.keyword .IS, .keyword .NOT, .null] ts) :
    TestPhrase ts (.isNotNull .null)
  | between {b low a high : List Token} {v w : Value} (hbetween : Spelled [.keyword .BETWEEN] b)
    (hlow : Literal low v) (hand : Spelled [.keyword .AND] a) (hhigh : Literal high w) :
    TestPhrase (b ++ (low ++ (a ++ high))) (.between v w)
  | oneOf {i o choices c : List Token} {vs : List Value} (hin : Spelled [.keyword .IN] i)
    (hopen : Spelled [.mark .openParen] o) (hchoices : CommaList Literal choices vs)
    (hclose : Spelled [.mark .closeParen] c) : TestPhrase (i ++ (o ++ (choices ++ c))) (.oneOf vs)
  | like {l pattern : List Token} {v : Value} (hlike : Spelled [.keyword .LIKE] l)
    (hpattern : Literal pattern v) : TestPhrase (l ++ pattern) (.like v)
  | compare {sign operand : List Token} {r : Relation} {v : Value}
    (hsign : Spelled [.relation r] sign) (hoperand : Literal operand v) :
    TestPhrase (sign ++ operand) (.compare r v)

/-- The levels of conditions: alternatives, conjunctions, and single conditions. -/
inductive Part where
  | orExpr
  | andExpr
  | test

/-- The derivations of conditions, level by level. -/
inductive Condition : Part → Phrase Predicate
  | orSingle {ts : List Token} {p : Predicate} (h : Condition .andExpr ts p) :
    Condition .orExpr ts p
  | or {ts o us : List Token} {p q : Predicate} (hleft : Condition .andExpr ts p)
    (hor : Spelled [.keyword .OR] o) (hright : Condition .orExpr us q) :
    Condition .orExpr (ts ++ (o ++ us)) (.or p q)
  | andSingle {ts : List Token} {p : Predicate} (h : Condition .test ts p) :
    Condition .andExpr ts p
  | and {ts a us : List Token} {p q : Predicate} (hleft : Condition .test ts p)
    (hand : Spelled [.keyword .AND] a) (hright : Condition .andExpr us q) :
    Condition .andExpr (ts ++ (a ++ us)) (.and p q)
  | group {o ts c : List Token} {p : Predicate} (hopen : Spelled [.mark .openParen] o)
    (h : Condition .orExpr ts p) (hclose : Spelled [.mark .closeParen] c) :
    Condition .test (o ++ (ts ++ c)) p
  | leaf {n ts : List Token} {column : String} {test : Test} (hname : Name n column)
    (htest : TestPhrase ts test) : Condition .test (n ++ ts) (.leaf column test)

/-- The condition of a statement, if there is one. -/
inductive WhereClause : Phrase (Option Predicate)
  | absent : WhereClause [] none
  | present {w ts : List Token} {p : Predicate} (hwhere : Spelled [.keyword .WHERE] w)
    (h : Condition .orExpr ts p) : WhereClause (w ++ ts) (some p)

/-! ## Columns -/

/-- What one part of a column says of it. -/
inductive ColumnFact where
  | typed (typeName : String)
  | primaryKey
  | notNull
  | fallback (v : Value)

namespace ColumnFact

/-- The type that a fact gives. -/
def typeName? : ColumnFact → Option String
  | typed typeName => some typeName
  | _ => none

/-- The default that a fact gives. -/
def fallback? : ColumnFact → Option Value
  | fallback v => some v
  | _ => none

/-- Whether a fact makes the column the primary key. -/
def isPrimaryKey : ColumnFact → Bool
  | primaryKey => true
  | _ => false

/-- Whether a fact makes the column required. -/
def isNotNull : ColumnFact → Bool
  | notNull => true
  | _ => false

end ColumnFact

/-- The column of a name that is described by facts, of which the last default counts. Its type is
`TEXT` where none is given, and a primary key is required. -/
def Column.ofFacts (name : String) (facts : List ColumnFact) : Column :=
  ⟨.text name, (facts.filterMap ColumnFact.typeName?).headD "TEXT",
    Presence.ofFlags (facts.any ColumnFact.isPrimaryKey) (facts.any ColumnFact.isNotNull),
    ((facts.filterMap ColumnFact.fallback?).getLast?).getD .null⟩

/-- One part of a column. -/
inductive ColumnPart : Phrase ColumnFact
  | typed {t : Token} (h : t.kind = .name) (hmem : capitalize t.lexeme ∈ columnTypes) :
    ColumnPart [t] (.typed (capitalize t.lexeme))
  | primaryKey {ts : List Token} (h : Spelled [.keyword .PRIMARY, .keyword .KEY] ts) :
    ColumnPart ts .primaryKey
  | notNull {ts : List Token} (h : Spelled [.keyword .NOT, .null] ts) : ColumnPart ts .notNull
  | fallback {d ts : List Token} {v : Value} (hdefault : Spelled [.keyword .DEFAULT] d)
    (h : Literal ts v) : ColumnPart (d ++ ts) (.fallback v)

/-- A column of a new table: a name and any parts in any order, at most one of them a type. -/
inductive ColumnPhrase : Phrase Column
  | intro {n ts : List Token} {name : String} {facts : List ColumnFact} (hname : Name n name)
    (hparts : Sequence ColumnPart ts facts)
    (htype : (facts.filterMap ColumnFact.typeName?).length ≤ 1) :
    ColumnPhrase (n ++ ts) (.ofFacts name facts)

/-! ## Parts of statements -/

/-- The column list of an `INSERT`, if there is one. -/
inductive TargetList : Phrase (Option (List String))
  | absent : TargetList [] none
  | present {o ts c : List Token} {names : List String} (hopen : Spelled [.mark .openParen] o)
    (h : CommaList Name ts names) (hclose : Spelled [.mark .closeParen] c) :
    TargetList (o ++ (ts ++ c)) (some names)

/-- The values of one row. -/
inductive RowPhrase : Phrase (List Value)
  | intro {o ts c : List Token} {vs : List Value} (hopen : Spelled [.mark .openParen] o)
    (h : CommaList Literal ts vs) (hclose : Spelled [.mark .closeParen] c) :
    RowPhrase (o ++ (ts ++ c)) vs

/-- The columns that a `SELECT` shows; a star stands for all of them. -/
inductive SelectList : Phrase (List String)
  | star {ts : List Token} (h : Spelled [.mark .star] ts) : SelectList ts []
  | names {ts : List Token} {names : List String} (h : CommaList Name ts names) :
    SelectList ts names

/-- The order of a `SELECT`, if there is one. -/
inductive OrderClause : Phrase (Option OrderBy)
  | absent : OrderClause [] none
  | plain {o n : List Token} {column : String}
    (horder : Spelled [.keyword .ORDER, .keyword .BY] o) (hname : Name n column) :
    OrderClause (o ++ n) (some ⟨column, false⟩)
  | ascending {o n a : List Token} {column : String}
    (horder : Spelled [.keyword .ORDER, .keyword .BY] o) (hname : Name n column)
    (hasc : Spelled [.keyword .ASC] a) : OrderClause (o ++ (n ++ a)) (some ⟨column, false⟩)
  | descending {o n d : List Token} {column : String}
    (horder : Spelled [.keyword .ORDER, .keyword .BY] o) (hname : Name n column)
    (hdesc : Spelled [.keyword .DESC] d) : OrderClause (o ++ (n ++ d)) (some ⟨column, true⟩)

/-- The limit and the offset of a `SELECT`, if there are any. -/
inductive PageClause : Phrase (Option ℕ × Option ℕ)
  | absent : PageClause [] (none, none)
  | limit {ts : List Token} {n : ℕ} (h : Spelled [.keyword .LIMIT, .integer n] ts) :
    PageClause ts (some n, none)
  | limitOffset {ts : List Token} {n m : ℕ}
    (h : Spelled [.keyword .LIMIT, .integer n, .keyword .OFFSET, .integer m] ts) :
    PageClause ts (some n, some m)

/-- One assignment of an `UPDATE`. -/
inductive Assignment : Phrase (String × Value)
  | intro {n e ts : List Token} {column : String} {v : Value} (hname : Name n column)
    (hequal : Spelled [.relation .equal] e) (h : Literal ts v) :
    Assignment (n ++ (e ++ ts)) (column, v)

/-! ## Statements -/

/-- The statements of each kind. -/
inductive Production : StatementKind → Phrase Statement
  | createTable {opening guard n o cs c : List Token} {guarded : Bool} {table : String}
    {columns : List Column} (hopening : Spelled [.keyword .CREATE, .keyword .TABLE] opening)
    (hguard : Flag .IF [.NOT, .EXISTS] n guard guarded) (htable : Name n table)
    (hopen : Spelled [.mark .openParen] o) (hcolumns : CommaList ColumnPhrase cs columns)
    (hclose : Spelled [.mark .closeParen] c) :
    Production .createTable (opening ++ (guard ++ (n ++ (o ++ (cs ++ c)))))
      (.createTable ⟨table, columns, guarded⟩)
  | dropTable {opening guard n : List Token} {guarded : Bool} {table : String}
    (hopening : Spelled [.keyword .DROP, .keyword .TABLE] opening)
    (hguard : Flag .IF [.EXISTS] n guard guarded) (htable : Name n table) :
    Production .dropTable (opening ++ (guard ++ n)) (.dropTable ⟨table, guarded⟩)
  | insert {opening n cs v rs : List Token} {table : String} {columns : Option (List String)}
    {rows : List (List Value)} (hopening : Spelled [.keyword .INSERT, .keyword .INTO] opening)
    (htable : Name n table) (hcolumns : TargetList cs columns)
    (hvalues : Spelled [.keyword .VALUES] v) (hrows : CommaList RowPhrase rs rows) :
    Production .insert (opening ++ (n ++ (cs ++ (v ++ rs)))) (.insert ⟨table, columns, rows⟩)
  | select {opening flag cs f n w o l : List Token} {distinct : Bool} {columns : List String}
    {table : String} {condition : Option Predicate} {orderBy : Option OrderBy}
    {page : Option ℕ × Option ℕ} (hopening : Spelled [.keyword .SELECT] opening)
    (hflag : Flag .DISTINCT [] cs flag distinct) (hcolumns : SelectList cs columns)
    (hfrom : Spelled [.keyword .FROM] f) (htable : Name n table)
    (hwhere : WhereClause w condition) (horder : OrderClause o orderBy)
    (hpage : PageClause l page) :
    Production .select (opening ++ (flag ++ (cs ++ (f ++ (n ++ (w ++ (o ++ l)))))))
      (.select ⟨table, columns, condition, orderBy, page.1, page.2, distinct⟩)
  | update {opening n s rs w : List Token} {table : String} {assignments : List (String × Value)}
    {condition : Option Predicate} (hopening : Spelled [.keyword .UPDATE] opening)
    (htable : Name n table) (hset : Spelled [.keyword .SET] s)
    (hassign : CommaList Assignment rs assignments) (hwhere : WhereClause w condition) :
    Production .update (opening ++ (n ++ (s ++ (rs ++ w))))
      (.update ⟨table, assignments, condition⟩)
  | delete {opening n w : List Token} {table : String} {condition : Option Predicate}
    (hopening : Spelled [.keyword .DELETE, .keyword .FROM] opening) (htable : Name n table)
    (hwhere : WhereClause w condition) :
    Production .delete (opening ++ (n ++ w)) (.delete ⟨table, condition⟩)
  | save {ts : List Token} {path : String}
    (h : Spelled [.keyword .SAVE, .keyword .DATABASE, .quoted path] ts) :
    Production .save ts (.save path)
  | load {ts : List Token} {path : String}
    (h : Spelled [.keyword .LOAD, .keyword .DATABASE, .quoted path] ts) :
    Production .load ts (.load path)

/-! ## The end of a text is no part of a phrase -/

/-- Tokens none of which ends a text. -/
def Proper (ts : List Token) : Prop := ∀ t ∈ ts, t.kind ≠ .finish

/-- Two sequences are proper if both parts are. -/
lemma proper_append {ts us : List Token} : Proper (ts ++ us) ↔ Proper ts ∧ Proper us :=
  List.forall_mem_append

/-- One token that does not end a text. -/
lemma proper_single {t : Token} (h : t.kind ≠ .finish) : Proper [t] := by
  intro u hu
  rw [List.mem_singleton.mp hu]
  exact h

/-- Tokens of given kinds are proper if none of the kinds is the end. -/
lemma Spelled.proper {kinds : List TokenKind} {ts : List Token} (h : Spelled kinds ts)
    (hkinds : TokenKind.finish ∉ kinds) : Proper ts := by
  intro t ht hfinish
  rw [← h] at hkinds
  exact hkinds (hfinish ▸ List.mem_map_of_mem ht)

lemma Name.proper {ts : List Token} {s : String} (h : Name ts s) : Proper ts := by
  obtain ⟨h⟩ := h
  exact proper_single fun hfinish => by simp [hfinish, TokenKind.isName] at h

lemma Numeral.proper {negative : Bool} {ts : List Token} {v : Value} (h : Numeral negative ts v) :
    Proper ts := by
  cases h with
  | integer h => exact proper_single (by simp [h])
  | decimal h => exact proper_single (by simp [h])

lemma Literal.proper {ts : List Token} {v : Value} (h : Literal ts v) : Proper ts := by
  cases h with
  | null h => exact h.proper (by simp)
  | unsigned h => exact h.proper
  | positive hsign h => exact proper_append.mpr ⟨hsign.proper (by simp), h.proper⟩
  | negative hsign h => exact proper_append.mpr ⟨hsign.proper (by simp), h.proper⟩
  | text h => exact proper_single (by simp [h])
  | word h => exact proper_single (by simp [h])

section Parts

variable {α : Type} {phrase : Phrase α} (hphrase : ∀ {ts a}, phrase ts a → Proper ts)

include hphrase

lemma Repeated.proper {separator : TokenKind} (hsep : separator ≠ .finish) {ts : List Token}
    {as : List α} (h : Repeated phrase separator ts as) : Proper ts := by
  induction h with
  | nil => simp [Proper]
  | cons hs h _ ih =>
    have hkind : TokenKind.finish ∉ [separator] := by simpa using Ne.symm hsep
    exact proper_append.mpr ⟨hs.proper hkind, proper_append.mpr ⟨hphrase h, ih⟩⟩

lemma CommaList.proper {ts : List Token} {as : List α} (h : CommaList phrase ts as) :
    Proper ts := by
  obtain ⟨h, hrest⟩ := h
  exact proper_append.mpr ⟨hphrase h, hrest.proper hphrase (by simp)⟩

lemma Sequence.proper {ts : List Token} {as : List α} (h : Sequence phrase ts as) :
    Proper ts := by
  induction h with
  | nil => simp [Proper]
  | cons h _ ih => exact proper_append.mpr ⟨hphrase h, ih⟩

end Parts

lemma Flag.proper {k : Keyword} {ks : List Keyword} {behind ts : List Token} {b : Bool}
    (h : Flag k ks behind ts b) : Proper ts := by
  cases h with
  | present h => exact h.proper (by simp)
  | absent => simp [Proper]

lemma TestPhrase.proper {ts : List Token} {test : Test} (h : TestPhrase ts test) : Proper ts := by
  cases h with
  | isNull h => exact h.proper (by simp)
  | isNotNull h => exact h.proper (by simp)
  | between hb hlow ha hhigh =>
    simp only [proper_append]
    exact ⟨hb.proper (by simp), hlow.proper, ha.proper (by simp), hhigh.proper⟩
  | oneOf hin ho hchoices hc =>
    simp only [proper_append]
    exact ⟨hin.proper (by simp), ho.proper (by simp), hchoices.proper Literal.proper,
      hc.proper (by simp)⟩
  | like hl h => exact proper_append.mpr ⟨hl.proper (by simp), h.proper⟩
  | compare hr h => exact proper_append.mpr ⟨hr.proper (by simp), h.proper⟩

/-- **No condition holds the token that ends a text.** -/
lemma Condition.proper {part : Part} {ts : List Token} {p : Predicate} (h : Condition part ts p) :
    Proper ts := by
  induction h with
  | orSingle _ ih => exact ih
  | or _ ho _ ihleft ihright =>
    exact proper_append.mpr ⟨ihleft, proper_append.mpr ⟨ho.proper (by simp), ihright⟩⟩
  | andSingle _ ih => exact ih
  | and _ ha _ ihleft ihright =>
    exact proper_append.mpr ⟨ihleft, proper_append.mpr ⟨ha.proper (by simp), ihright⟩⟩
  | group ho _ hc ih =>
    exact proper_append.mpr ⟨ho.proper (by simp), proper_append.mpr ⟨ih, hc.proper (by simp)⟩⟩
  | leaf hn ht => exact proper_append.mpr ⟨hn.proper, ht.proper⟩

lemma WhereClause.proper {ts : List Token} {p : Option Predicate} (h : WhereClause ts p) :
    Proper ts := by
  cases h with
  | absent => simp [Proper]
  | present hw h => exact proper_append.mpr ⟨hw.proper (by simp), h.proper⟩

lemma ColumnPart.proper {ts : List Token} {fact : ColumnFact} (h : ColumnPart ts fact) :
    Proper ts := by
  cases h with
  | typed h => exact proper_single (by simp [h])
  | primaryKey h => exact h.proper (by simp)
  | notNull h => exact h.proper (by simp)
  | fallback hd h => exact proper_append.mpr ⟨hd.proper (by simp), h.proper⟩

lemma ColumnPhrase.proper {ts : List Token} {c : Column} (h : ColumnPhrase ts c) : Proper ts := by
  obtain ⟨hname, hparts, -⟩ := h
  exact proper_append.mpr ⟨hname.proper, hparts.proper ColumnPart.proper⟩

lemma TargetList.proper {ts : List Token} {names : Option (List String)}
    (h : TargetList ts names) : Proper ts := by
  cases h with
  | absent => simp [Proper]
  | present ho h hc =>
    simp only [proper_append]
    exact ⟨ho.proper (by simp), h.proper Name.proper, hc.proper (by simp)⟩

lemma RowPhrase.proper {ts : List Token} {vs : List Value} (h : RowPhrase ts vs) : Proper ts := by
  obtain ⟨ho, h, hc⟩ := h
  simp only [proper_append]
  exact ⟨ho.proper (by simp), h.proper Literal.proper, hc.proper (by simp)⟩

lemma SelectList.proper {ts : List Token} {names : List String} (h : SelectList ts names) :
    Proper ts := by
  cases h with
  | star h => exact h.proper (by simp)
  | names h => exact h.proper Name.proper

lemma OrderClause.proper {ts : List Token} {o : Option OrderBy} (h : OrderClause ts o) :
    Proper ts := by
  cases h with
  | absent => simp [Proper]
  | plain ho hn => exact proper_append.mpr ⟨ho.proper (by simp), hn.proper⟩
  | ascending ho hn hd | descending ho hn hd =>
    simp only [proper_append]
    exact ⟨ho.proper (by simp), hn.proper, hd.proper (by simp)⟩

lemma PageClause.proper {ts : List Token} {page : Option ℕ × Option ℕ} (h : PageClause ts page) :
    Proper ts := by
  cases h with
  | absent => simp [Proper]
  | limit h => exact h.proper (by simp)
  | limitOffset h => exact h.proper (by simp)

lemma Assignment.proper {ts : List Token} {a : String × Value} (h : Assignment ts a) :
    Proper ts := by
  obtain ⟨hn, he, h⟩ := h
  simp only [proper_append]
  exact ⟨hn.proper, he.proper (by simp), h.proper⟩

/-- **No statement holds the token that ends a text.** -/
theorem Production.proper {kind : StatementKind} {ts : List Token} {s : Statement}
    (h : Production kind ts s) : Proper ts := by
  cases h with
  | createTable hopening hguard htable ho hcolumns hc =>
    simp only [proper_append]
    exact ⟨hopening.proper (by simp), hguard.proper, htable.proper, ho.proper (by simp),
      hcolumns.proper ColumnPhrase.proper, hc.proper (by simp)⟩
  | dropTable hopening hguard htable =>
    simp only [proper_append]
    exact ⟨hopening.proper (by simp), hguard.proper, htable.proper⟩
  | insert hopening htable hcolumns hv hrows =>
    simp only [proper_append]
    exact ⟨hopening.proper (by simp), htable.proper, hcolumns.proper, hv.proper (by simp),
      hrows.proper RowPhrase.proper⟩
  | select hopening hflag hcolumns hf htable hwhere horder hpage =>
    simp only [proper_append]
    exact ⟨hopening.proper (by simp), hflag.proper, hcolumns.proper, hf.proper (by simp),
      htable.proper, hwhere.proper, horder.proper, hpage.proper⟩
  | update hopening htable hset hassign hwhere =>
    simp only [proper_append]
    exact ⟨hopening.proper (by simp), htable.proper, hset.proper (by simp),
      hassign.proper Assignment.proper, hwhere.proper⟩
  | delete hopening htable hwhere =>
    simp only [proper_append]
    exact ⟨hopening.proper (by simp), htable.proper, hwhere.proper⟩
  | save h => exact h.proper (by simp)
  | load h => exact h.proper (by simp)

end StagedQuery
