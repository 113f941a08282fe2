import StagedQuery.Proofs.Database.SaveLoad
import StagedQuery.Proofs.Sql.FirstTokens

set_option relaxedAutoImplicit false
set_option autoImplicit false

/-!
# Columns that can be asked for

Any word but `NULL` can be the name of a column, keywords among them. In a `SELECT` that lists
columns, every name is read as a name wherever it stands, but for one: the word `DISTINCT` at the
front of the list is always taken for the keyword. So a column of that name can be created, filled
and asked for behind other columns, and not in front of them.

## Main definitions

* `columnsText` — the text of a `SELECT` of columns from a table.
* `WordName` — a name, with the token of its word.
* `ColumnsPhrase` — the tokens of such a text.

## Main results

* `ColumnsPhrase.production` — the tokens derive the `SELECT` of the columns, if the first one is
  not called `DISTINCT`.
* `ColumnsPhrase.not_terminated` — otherwise they derive nothing.
* `Database.Reachable.readSelect_columns` — which columns of the tables of a run can be asked for.
-/

namespace StagedQuery

/-- The text of a `SELECT` of columns from a table. -/
def columnsText (table : String) (names : List String) : String :=
  "SELECT " ++ Value.commaJoin names ++ " FROM " ++ table

/-! ## The tokens of the text -/

/-- A name, with the token of its word. -/
def WordName : Phrase String := fun ts s => Name ts s ∧ nextKind ts = .ofWord s

/-- The tokens of a `SELECT` of columns from a table. -/
inductive ColumnsPhrase : Phrase (List String × String)
  | intro {opening cs f n : List Token} {names : List String} {table : String}
      (hopening : Spelled [.keyword .SELECT] opening) (hcolumns : CommaList WordName cs names)
      (hfrom : Spelled [.keyword .FROM] f) (htable : Name n table) :
      ColumnsPhrase (opening ++ (cs ++ (f ++ n))) (names, table)

/-- A name is written as it is. -/
lemma written_wordName {s : String} (hs : IsName s) : Written WordName s.toList s :=
  written_word hs.word fun t ht hlexeme => by
    refine ⟨?_, ht⟩
    rw [← hlexeme]
    exact .intro (ht ▸ hs.name)

/-- The tokens of the text of a `SELECT` of columns. -/
lemma written_columnsText {table : String} {names : List String} (htable : IsName table)
    (hne : names ≠ []) (hnames : ∀ name ∈ names, IsName name) :
    Written ColumnsPhrase (columnsText table names).toList (names, table) := by
  have hlist := written_commaList id hne fun name hname => written_wordName (hnames name hname)
  rw [List.map_id] at hlist
  have hwritten := (written_keyword .SELECT).spaced (hlist.spaced
    ((written_keyword .FROM).spaced (written_name htable)))
  have htext : (columnsText table names).toList = Keyword.SELECT.text.toList ++
      ' ' :: ((Value.commaJoin names).toList ++
        ' ' :: (Keyword.FROM.text.toList ++ ' ' :: table.toList)) := by
    simp [columnsText, Keyword.text]
  rw [htext]
  refine hwritten.imp ?_
  rintro _ ⟨opening, _, rfl, hselect, cs, _, rfl, hcs, f, n, rfl, hfrom, hname⟩
  exact .intro hselect hcs hfrom hname

/-! ## What the tokens derive -/

section

variable {α : Type} {p q : Phrase α} {ts : List Token} {as : List α}

/-- Phrases behind separators are phrases of every kind that each of them is. -/
lemma Repeated.imp {separator : TokenKind} (hpq : ∀ ts a, p ts a → q ts a)
    (h : Repeated p separator ts as) : Repeated q separator ts as := by
  induction h with
  | nil => exact .nil
  | cons hsep h _ ih => exact .cons hsep (hpq _ _ h) ih

/-- A list of phrases is one of every kind that each of them is. -/
lemma CommaList.imp (hpq : ∀ ts a, p ts a → q ts a) (h : CommaList p ts as) :
    CommaList q ts as := by
  obtain ⟨h, hrest⟩ := h
  exact .intro (hpq _ _ h) (hrest.imp hpq)

end

/-- A name is one token, which can be a name. -/
lemma Name.exists_token {ts : List Token} {s : String} (h : Name ts s) :
    ∃ t : Token, ts = [t] ∧ t.kind.isName = true := by
  obtain ⟨hname⟩ := h
  exact ⟨_, rfl, hname⟩

/-- A list of columns in a `SELECT` begins with a star or with a token that can be a name. -/
lemma SelectList.exists_token {ts : List Token} {names : List String} (h : SelectList ts names) :
    ∃ t rest, ts = t :: rest ∧ (t.kind = .mark .star ∨ t.kind.isName = true) := by
  cases h with
  | star h =>
    obtain ⟨t, rfl, ht⟩ := spelled_single.mp h
    exact ⟨t, [], rfl, .inl ht⟩
  | names h =>
    obtain ⟨hname, -⟩ := h
    obtain ⟨t, rfl, ht⟩ := hname.exists_token
    exact ⟨t, _, rfl, .inr ht⟩

namespace ColumnsPhrase

variable {ts : List Token} {table first : String} {others : List String}

/-- **Columns of which the first is not called `DISTINCT`** are what the `SELECT` asks for. -/
lemma production (h : ColumnsPhrase ts (first :: others, table))
    (hfirst : TokenKind.ofWord first ≠ .keyword .DISTINCT) :
    Production .select ts (.select ⟨table, first :: others, none, none, none, none, false⟩) := by
  obtain @⟨_, cs, _, _, _, _, hselect, hcs, hfrom, hname⟩ := h
  have hnext : nextKind cs ≠ .keyword .DISTINCT := by
    obtain ⟨⟨hname, hkind⟩, -⟩ := hcs
    obtain ⟨t, rfl, -⟩ := hname.exists_token
    rw [nextKind_append (List.cons_ne_nil t []), hkind]
    exact hfirst
  have hproduction := Production.select hselect (.absent hnext)
    (.names (hcs.imp fun _ _ h => h.1)) hfrom hname .absent .absent .absent
  simpa using hproduction

/-- **Columns of which the first is called `DISTINCT`** cannot be asked for: the tokens derive no
`SELECT`, with a semicolon or without.

**Proof sketch.** The first name is read as the flag. A list of columns would have to begin behind
it. If there are further names, a comma stands there, with which no list begins. If there are none,
only two tokens are left, too few for a list, the word `FROM` and a table. -/
lemma not_terminated (h : ColumnsPhrase ts (first :: others, table))
    (hfirst : TokenKind.ofWord first = .keyword .DISTINCT) (s : Statement) :
    ¬ Terminated (Production .select) ts s := by
  obtain ⟨hselect, hcs, hfrom, hname⟩ := h
  obtain ⟨t, rfl, -⟩ := spelled_single.mp hselect
  obtain ⟨fromToken, rfl, -⟩ := spelled_single.mp hfrom
  obtain ⟨tableToken, rfl, -⟩ := hname.exists_token
  obtain ⟨⟨hfirstName, hkind⟩, hothers⟩ := hcs
  obtain ⟨d, rfl, -⟩ := hfirstName.exists_token
  have hd : d.kind = .keyword .DISTINCT := hkind.trans hfirst
  generalize htokens : [t] ++ (([d] ++ _) ++ ([fromToken] ++ [tableToken])) = tokens
  rintro ⟨hproduction, -⟩
  cases hproduction with
  | select hopening hflag hcolumns hfrom' htable =>
    obtain ⟨t', rfl, -⟩ := spelled_single.mp hopening
    obtain ⟨f', rfl, -⟩ := spelled_single.mp hfrom'
    obtain ⟨n', rfl, -⟩ := htable.exists_token
    obtain ⟨c, rest, rfl, hc⟩ := hcolumns.exists_token
    cases hflag with
    | absent hnext =>
      simp only [List.cons_append, List.nil_append, List.cons.injEq] at htokens
      exact hnext (htokens.2.1 ▸ hd)
    | present hflag =>
      obtain ⟨d', rfl, -⟩ := spelled_single.mp hflag
      cases hothers with
      | nil =>
        have hlength := congrArg List.length htokens
        simp only [List.length_append, List.length_cons, List.length_nil] at hlength
        omega
      | cons hsep =>
        obtain ⟨comma, rfl, hcomma⟩ := spelled_single.mp hsep
        simp only [List.cons_append, List.nil_append, List.append_assoc, List.cons.injEq]
          at htokens
        rw [← htokens.2.2.1, hcomma] at hc
        simp [TokenKind.isName] at hc

end ColumnsPhrase

/-! ## Columns of a database -/

/-- Which columns a `SELECT` can ask for, by their names. -/
lemma readSelect_columnsText {table first : String} {others : List String} (htable : IsName table)
    (hnames : ∀ name ∈ first :: others, IsName name) :
    (capitalize first ≠ "DISTINCT" → readSelect (columnsText table (first :: others)) =
      .ok ⟨table, first :: others, none, none, none, none, false⟩) ∧
    (capitalize first = "DISTINCT" →
      ∃ e, readSelect (columnsText table (first :: others)) = .error (.malformed e)) := by
  obtain ⟨ws, -, hlexed, hphrase⟩ :=
    (written_columnsText htable (List.cons_ne_nil first others) hnames).exists_lexed
  have hdistinct : TokenKind.ofWord first = .keyword .DISTINCT ↔ capitalize first = "DISTINCT" :=
    ofWord_eq_keyword_iff
  constructor
  · intro hfirst
    have hread := readStatement_of_lexed hlexed fun ts hts =>
      (hphrase ts hts).production (mt hdistinct.mp hfirst)
    rw [readStatement] at hread
    obtain ⟨s, hs, heq⟩ := map_eq_ok.mp hread
    rw [hs, Statement.select.inj heq]
  · intro hfirst
    obtain ⟨body, last, htokens, hbody, hlast⟩ := exists_tokenize_of_lexed hlexed
    rcases readStatement_ok_or_malformed .select htokens with ⟨s, hs⟩ | ⟨e, he⟩
    · obtain ⟨ts, last', heq, -, hterminated⟩ := (readStatement_iff .select htokens).mp hs
      obtain ⟨rfl, -⟩ := List.append_inj' heq rfl
      exact absurd hterminated ((hphrase body hbody).not_terminated (hdistinct.mpr hfirst) s)
    · rw [readStatement] at he
      exact ⟨e, map_eq_error.mp he⟩

namespace Database

variable {disk : Disk} {settings : Settings} {db : Database} {saved : List (List String)}

/-- **Which columns of a table can be asked for.** In every database of a run, the columns of a
table can be asked for in any order and any number, whatever their names are, provided that the
first one is not called `DISTINCT` in any case: what is read is the `SELECT` of just these columns,
without the flag. If the first one is called so, the text is malformed. -/
theorem Reachable.readSelect_columns (h : Reachable disk settings db saved) {t : Table}
    (ht : t ∈ db.store.tables) {first : String} {others : List String}
    (hcolumns : ∀ name ∈ first :: others, Value.text name ∈ t.schema.labels) :
    (capitalize first ≠ "DISTINCT" →
      readSelect (columnsText t.schema.name (first :: others)) =
        .ok ⟨t.schema.name, first :: others, none, none, none, none, false⟩) ∧
    (capitalize first = "DISTINCT" →
      ∃ e, readSelect (columnsText t.schema.name (first :: others)) = .error (.malformed e)) := by
  have hnamed := h.named t ht
  refine readSelect_columnsText hnamed.table fun name hname => ?_
  obtain ⟨c, hc, hlabel⟩ := List.mem_map.mp (hcolumns name hname)
  obtain ⟨name', htext, hname'⟩ := hnamed.columns c hc
  obtain rfl : name' = name := Value.text.inj (htext.symm.trans hlabel)
  exact hname'

/-- The database after a table was created whose columns are called like keywords. -/
def keywordColumns : Database :=
  (empty ⟨[], []⟩ .standard).after [("", "CREATE TABLE t (from TEXT, distinct TEXT)")]

/-- One text leads to it, which loads no file. -/
lemma exists_reachable_keywordColumns :
    ∃ saved, Reachable ⟨[], []⟩ .standard keywordColumns saved :=
  exists_reachable_after _ _ ⟨_, .empty⟩
    (List.forall_mem_singleton.mpr ⟨.createTable, by decide +kernel, by decide⟩)

/-- The table of this database with its columns. -/
lemma exists_table_keywordColumns : ∃ t ∈ keywordColumns.store.tables,
    t.schema.name = "t" ∧ t.schema.labels = [.text "from", .text "distinct"] := by
  have htables : keywordColumns.store.tables.map (fun t =>
      (t.schema.name, t.schema.labels.map Value.display)) = [("t", ["from", "distinct"])] := by
    decide +kernel
  obtain ⟨t, ht, hschema⟩ := List.map_eq_singleton_iff.mp htables
  obtain ⟨hname, hlabels⟩ := Prod.mk.inj hschema
  have hmem : t ∈ keywordColumns.store.tables := by simp [ht]
  -- The labels are texts, which are known from what they show.
  obtain ⟨saved, hreach⟩ := exists_reachable_keywordColumns
  obtain ⟨names, -, hnames⟩ := Reachable.exists_names (hreach.kept.store.tables t hmem).schema
  rw [hnames, List.map_map, show Value.display ∘ Value.text = id from rfl, List.map_id] at hlabels
  exact ⟨t, hmem, hname, by rw [hnames, hlabels]; rfl⟩

/-- Both columns can be asked for if the one called `DISTINCT` does not come first. -/
theorem readSelect_columns_keywords :
    readSelect "SELECT from, distinct FROM t" =
      .ok ⟨"t", ["from", "distinct"], none, none, none, none, false⟩ := by
  obtain ⟨saved, hreach⟩ := exists_reachable_keywordColumns
  obtain ⟨t, ht, hname, hlabels⟩ := exists_table_keywordColumns
  have hcolumns : ∀ name ∈ ["from", "distinct"], Value.text name ∈ t.schema.labels := by
    simp [hlabels]
  have hread := (hreach.readSelect_columns ht hcolumns).1 (by decide)
  rwa [hname] at hread

/-- The column called `DISTINCT` is a column of a table of a run, and cannot be asked for alone. -/
theorem not_readSelect_distinct :
    (∃ saved, Reachable ⟨[], []⟩ .standard keywordColumns saved) ∧
      (∃ t ∈ keywordColumns.store.tables,
        t.schema.name = "t" ∧ Value.text "distinct" ∈ t.schema.labels) ∧
      ∀ s, readSelect "SELECT distinct FROM t" ≠ .ok s := by
  obtain ⟨t, ht, hname, hlabels⟩ := exists_table_keywordColumns
  refine ⟨exists_reachable_keywordColumns, ⟨t, ht, hname, by simp [hlabels]⟩, fun s hs => ?_⟩
  have hnone : (readSelect "SELECT distinct FROM t").toOption.isSome = false := by decide +kernel
  rw [hs] at hnone
  cases hnone

end Database

end StagedQuery
