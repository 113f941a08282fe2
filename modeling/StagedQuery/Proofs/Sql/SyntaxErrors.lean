import StagedQuery.Proofs.Sql.Contents
import StagedQuery.Proofs.Sql.Prompt

set_option relaxedAutoImplicit false
set_option autoImplicit false

/-!
# Syntax errors point at the first wrong token

Every production of the parser is prompt. So the position of a syntax error is that of the first
token with which the text can no longer be continued to a statement of the kind: the tokens in front
of it can, and with it they cannot, however the text goes on.

## Main definitions

* `Parser.Noted` — the parts of a column, with what a draft holds behind them.

## Main results

* `prompt_orExpr`, `prompt_column` — conditions and columns.
* `prompt_createTable`, …, `prompt_load` — the production of each kind.
* `readStatement_viablePrefix` — where the error of a text that is no statement stands.
-/

namespace StagedQuery

namespace Parser

variable {α β : Type} {n : ℕ}

/-! ## Conditions -/

/-- What follows the name of a column. -/
lemma prompt_test (column : String) : Prompt n (test column) TestPhrase [] := by
  have hviable : Viable TestPhrase [] :=
    (((written_keyword .IS).spaced written_null).imp fun ts h => by
      obtain ⟨is, null, rfl, his, hnull⟩ := h
      exact TestPhrase.isNull (spelled_append his hnull)).viable
  refine .accept (by simp) (fun is his => .accept (by simp) (fun nt hnt => ?_) ?_) <|
    .accept (by simp) (fun b hb => ?_) <| .accept (by simp) (fun i hi => ?_) <|
    .accept (by simp) (fun l hl => ?_) <| .of_peek hviable fun tokens hended _ => ?_
  · refine (prompt_expect isLexeme_null _).bind fun null _ hnull => .pure ?_
    exact .isNotNull (spelled_append (spelled_append (spelled_token his) (spelled_token hnt)) hnull)
  · refine (prompt_expect isLexeme_null _).bind fun null _ hnull => .pure ?_
    exact .isNull (spelled_append (spelled_token his) hnull)
  · refine prompt_literal.bind fun low v hlow => (prompt_keyword _ _).bind fun a _ ha =>
      prompt_literal.bind fun high w hhigh => .pure ?_
    simpa using TestPhrase.between (spelled_token hb) hlow ha hhigh
  · refine (prompt_mark _ _).bind fun o _ ho =>
      (prompt_literal.separated reads_literal).bind fun choices vs hchoices =>
        (prompt_mark _ _).bind fun c _ hc => .pure ?_
    simpa using TestPhrase.oneOf (spelled_token hi) ho hchoices hc
  · exact prompt_literal.bind fun pattern v hpattern => .pure (.like (spelled_token hl) hpattern)
  · split
    · next r hr =>
      refine .advance hended (by simp [hr]) (prompt_literal.bind fun operand v hoperand => .pure ?_)
      exact .compare (spelled_token hr) hoperand
    · exact .fail hended hviable

/-- A column and its test. -/
lemma prompt_leaf : Prompt n leaf (Condition .test) [] :=
  (prompt_name _).bind fun _ _ hname => (prompt_test _).bind fun _ _ htest =>
    .pure (.leaf hname htest)

/-- Items with a keyword between them. -/
lemma Prompt.chain {item : Parser Predicate} {p phrase : Phrase Predicate}
    {follow : TokenKind → Prop} (hitem : Prompt n item p []) (hreads : Reads item phrase follow)
    {k : Keyword} {join : Predicate → Predicate → Predicate} :
    Prompt n (chain k join item) (Chain k join p) [] :=
  hitem.bind fun _ _ hp => (hitem.following hreads (by simp)).bind fun _ _ hps =>
    .pure (.intro hp hps)

/-- Alternatives of conjunctions of single conditions. -/
lemma Prompt.alternatives_single (h : Prompt n single (Condition .test) []) :
    Prompt n (alternatives single) (Condition .orExpr) [] := by
  refine ((h.chain reads_single).chain (reads_single.chain trivial)).imp fun ts p hp => ?_
  exact condition_orExpr_iff.mpr (hp.mono condition_andExpr_iff.mpr)

/-- Single conditions.

**Proof sketch.** Induction on the number of tokens: behind the parenthesis of a group there is one
token less. -/
lemma prompt_single : Prompt n single (Condition .test) [] := by
  induction n with
  | zero => exact .zero (prompt_leaf (n := 0)).viable
  | succ n ih =>
    rw [single_eq]
    refine .accept (by simp) (fun o ho => ?_) prompt_leaf
    refine ih.alternatives_single.bind fun ts p hp => (prompt_mark _ _).bind fun c _ hc => .pure ?_
    simpa using Condition.group (spelled_token ho) hp hc

/-- **A condition.** -/
lemma prompt_orExpr : Prompt n orExpr (Condition .orExpr) [] := by
  rw [orExpr_eq]
  exact prompt_single.alternatives_single

/-- A clause fails where its condition does. -/
lemma prompt_clause (source : List Char) : Prompt n (clause source) (Condition .orExpr) [] := by
  refine prompt_orExpr.rethrow (fun _ _ => clause_eq_ok) fun tokens e' h => ?_
  rw [clause] at h
  split at h
  · cases h
  · next e he => exact ⟨e, he, by rw [← Except.error.inj h]⟩

/-- The condition of a statement, if there is one. -/
lemma prompt_optionalClause (source : List Char) :
    Prompt n (optionalClause source) WhereClause [] :=
  .accept (by simp) (fun _ hw => (prompt_clause source).bind fun _ _ hp =>
    .pure (.present (spelled_token hw) hp)) (.pure .absent)

/-! ## Columns -/

/-- Parts of a column of which at most one is a type together with those that a draft has noted, and
the draft that holds them as well. -/
def Noted (d : ColumnDraft) : Phrase ColumnDraft := fun ts d' =>
  ∃ facts, Sequence ColumnPart ts facts ∧ d.types facts ≤ 1 ∧ facts.foldl ColumnDraft.note d = d'

/-- No parts. -/
lemma noted_nil (d : ColumnDraft) : Noted d [] d := by
  refine ⟨[], .nil, ?_, rfl⟩
  cases hd : d.typeName <;> simp [ColumnDraft.types, hd]

/-- One part in front of others. -/
lemma Noted.cons {d d' : ColumnDraft} {ts us : List Token} {fact : ColumnFact}
    (h : ColumnPart ts fact) (hfits : d.types [fact] ≤ 1) (hrest : Noted (d.note fact) us d') :
    Noted d (ts ++ us) d' := by
  obtain ⟨facts, hparts, htypes, rfl⟩ := hrest
  exact ⟨fact :: facts, .cons h hparts, by rwa [← ColumnDraft.types_note hfits], rfl⟩

/-- The parts of a column.

**Proof sketch.** Induction on the number of tokens: behind a part there are fewer of them. Where no
part begins, those that have been read can be all. -/
lemma prompt_columnRest (column : String) :
    ∀ d : ColumnDraft, Prompt n (columnRest column d) (Noted d) [] := by
  induction n with
  | zero => exact fun d => .zero (viable_of_phrase (noted_nil d))
  | succ n ih =>
    intro d
    have hviable : Viable (Noted d) [] := viable_of_phrase (noted_nil d)
    -- behind a part that fits, the others are read
    have hmore : ∀ {m : ℕ} {ts : List Token} {fact : ColumnFact}, m ≤ n → ColumnPart ts fact →
        d.types [fact] ≤ 1 → Prompt m (columnRest column (d.note fact)) (Noted d) ts := by
      intro m ts fact hm hpart hfits
      exact ((ih (d.note fact)).mono hm).imp fun us d' hrest => hrest.cons hpart hfits
    refine ⟨hviable, fun tokens hended hn => ?_⟩
    refine PromptOn.congr (m := columnStep column (columnRest column) d) ?_ hended
      fun us hus _ => columnRest_eq hus
    refine .peek hended ?_
    cases htype : columnType? (nextToken tokens) with
    | some typeName =>
      obtain ⟨hname, hmem, rfl⟩ := columnType?_eq_some.mp htype
      dsimp only
      split
      · exact .throw hended rfl hviable
      · next hnone =>
        rw [Option.not_isSome_iff_eq_none] at hnone
        refine .advance hended (by simp [hname]) (hmore (by omega) (.typed hname hmem) ?_)
        simp [ColumnDraft.types, hnone, ColumnFact.typeName?]
    | none =>
      dsimp only
      refine .accept (by simp) hended (fun t ht => ?_) fun _ =>
        .accept (by simp) hended (fun t ht => ?_) fun _ =>
        .accept (by simp) hended (fun t ht => ?_) fun _ => ?_
      · exact (prompt_keyword _ _).bind fun key _ hkey =>
          hmore (by omega) (.primaryKey (spelled_append (spelled_token ht) hkey))
            (d.types_le_one rfl)
      · exact (prompt_expect isLexeme_null _).bind fun null _ hnull =>
          hmore (by omega) (.notNull (spelled_append (spelled_token ht) hnull)) (d.types_le_one rfl)
      · exact prompt_literal.bind fun ts v hv =>
          hmore (by omega) (.fallback (spelled_token ht) hv) (d.types_le_one rfl)
      · show PromptOn tokens (if _ then pure d else fail _ _) _ _
        split
        · exact .pure hended (noted_nil d)
        · exact .fail hended hviable

/-- **A column of a new table.** -/
lemma prompt_column : Prompt n column ColumnPhrase [] := by
  rw [column_eq]
  refine (prompt_name _).bind fun ts name hname =>
    (prompt_columnRest name _).bind fun us d hd => .pure ?_
  obtain ⟨facts, hparts, htypes, rfl⟩ := hd
  rw [toColumn_foldl_note htypes]
  exact .intro hname hparts (by simpa [ColumnDraft.types] using htypes)

/-! ## Parts of statements -/

/-- The order of a `SELECT`, if there is one. -/
lemma prompt_order : Prompt n order OrderClause [] := by
  refine .accept (by simp) (fun o ho => (prompt_keyword _ _).bind fun b _ hb =>
    (prompt_name _).bind fun ts column hname => ?_) (.pure .absent)
  have horder := spelled_append (spelled_token ho) hb
  refine .accept (by simp) (fun d hd => .pure ?_)
    (.accept (by simp) (fun a ha => .pure ?_) (.pure ?_))
  · simpa using OrderClause.descending horder hname (spelled_token hd)
  · simpa using OrderClause.ascending horder hname (spelled_token ha)
  · exact .plain horder hname

/-- The limit and the offset of a `SELECT`, if there are any. -/
lemma prompt_paging : Prompt n paging PageClause [] := by
  refine .accept (by simp) (fun l hl => (prompt_natural _).bind fun ts limit hlimit => ?_)
    (.pure .absent)
  have hfront := spelled_append (spelled_token hl) hlimit
  refine .accept (by simp) (fun o ho => (prompt_natural _).bind fun us offset hoffset => .pure ?_)
    (.pure (.limit hfront))
  exact .limitOffset (spelled_append (spelled_append hfront (spelled_token ho)) hoffset)

/-- The values of one row. -/
lemma prompt_valueTuple : Prompt n valueTuple RowPhrase [] := by
  refine (prompt_mark _ _).bind fun o _ ho =>
    (prompt_literal.separated reads_literal).bind fun ts vs hvs =>
      (prompt_mark _ _).bind fun c _ hc => .pure ?_
  simpa using RowPhrase.intro ho hvs hc

/-- One assignment of an `UPDATE`. -/
lemma prompt_assignment : Prompt n assignment Assignment [] := by
  have hequal : IsLexeme (.relation .equal, "=") :=
    ⟨'=', [], by decide, .relation (by decide) (by simp)⟩
  refine (prompt_name _).bind fun ts column hname => (prompt_expect hequal _).bind fun e _ he =>
    prompt_literal.bind fun us v hv => .pure ?_
  simpa using Assignment.intro hname he hv

/-- The column list of an `INSERT`, if there is one. -/
lemma prompt_targets : Prompt n targets TargetList [] := by
  refine .accept (by simp) (fun o ho => prompt_nameList.bind fun ts names hnames =>
    (prompt_mark _ _).bind fun c _ hc => .pure ?_) (.pure .absent)
  simpa using TargetList.present (spelled_token ho) hnames hc

/-- The columns that a `SELECT` shows. -/
lemma prompt_shown : Prompt n shown SelectList [] :=
  .accept (by simp) (fun _ hs => .pure (.star (spelled_token hs)))
    (prompt_nameList.imp fun _ _ hnames => .names hnames)

/-! ## Productions -/

/-- A name can be another word than a keyword. -/
lemma viable_name (k : Keyword) : Viable (fun ts s => Name ts s ∧ nextKind ts ≠ .keyword k) [] :=
  isLexeme_name.viable (a := "x") fun t ht hlexeme => by
    rw [← hlexeme]
    exact ⟨.intro (by rw [ht]; rfl), by simp [nextKind, ht]⟩

/-- `CREATE TABLE`. -/
lemma prompt_createTable :
    Prompt n createTable (fun ts s => Production .createTable ts (.createTable s)) [] := by
  rw [createTable_eq]
  refine (prompt_keyword _ _).bind fun k _ hk => (prompt_keyword _ _).bind fun t _ ht => ?_
  have hothers : Prompt n (do keyword .NOT "NOT after IF"; keyword .EXISTS "EXISTS after IF NOT")
      (fun ts _ => Spelled ([Keyword.NOT, .EXISTS].map .keyword) ts) [] :=
    (prompt_keyword _ _).bind fun _ _ hnot => (prompt_keyword _ _).imp fun _ _ hexists =>
      spelled_append hnot hexists
  refine hothers.flag [.NOT, .EXISTS] (prompt_name _) (fun _ _ h => h.ne_nil) (viable_name _)
    fun guard ts guarded table hguard htable => (prompt_mark _ _).bind fun o _ ho =>
      (prompt_column.separated reads_column).bind fun cs columns hcolumns =>
        (prompt_mark _ _).bind fun c _ hc => .pure ?_
  simpa using Production.createTable (spelled_append hk ht) hguard htable ho hcolumns hc

/-- `DROP TABLE`. -/
lemma prompt_dropTable :
    Prompt n dropTable (fun ts s => Production .dropTable ts (.dropTable s)) [] := by
  rw [dropTable_eq]
  refine (prompt_keyword _ _).bind fun k _ hk => (prompt_keyword _ _).bind fun t _ ht => ?_
  refine (prompt_keyword _ _).flag [.EXISTS] (prompt_name _) (fun _ _ h => h.ne_nil)
    (viable_name _) fun guard ts guarded table hguard htable => .pure ?_
  simpa using Production.dropTable (spelled_append hk ht) hguard htable

/-- `INSERT`. -/
lemma prompt_insert : Prompt n insert (fun ts s => Production .insert ts (.insert s)) [] := by
  rw [insert_eq]
  refine (prompt_keyword _ _).bind fun k _ hk => (prompt_keyword _ _).bind fun i _ hi =>
    (prompt_name _).bind fun ts table htable => prompt_targets.bind fun cs columns hcolumns =>
      (prompt_keyword _ _).bind fun v _ hv =>
        (prompt_valueTuple.separated reads_valueTuple).bind fun rs rows hrows => .pure ?_
  simpa using Production.insert (spelled_append hk hi) htable hcolumns hv hrows

/-- `SELECT`. -/
lemma prompt_select (source : List Char) :
    Prompt n (select source) (fun ts s => Production .select ts (.select s)) [] := by
  have hstar : Viable (fun ts names => SelectList ts names ∧ nextKind ts ≠ .keyword .DISTINCT) [] :=
    (isLexeme_mark .star).viable (a := []) fun t ht _ =>
      ⟨.star (spelled_token ht), by simp [nextKind, ht]⟩
  rw [select_eq]
  refine (prompt_keyword _ _).bind fun k _ hk => ?_
  refine Prompt.flag [] (.pure (spelled_nil.mpr rfl)) prompt_shown (fun _ _ h => h.ne_nil)
    hstar fun guard cs distinct columns hflag hcolumns => (prompt_keyword _ _).bind fun f _ hf =>
      (prompt_name _).bind fun ts table htable =>
        (prompt_optionalClause source).bind fun w condition hwhere =>
          prompt_order.bind fun o orderBy horder =>
            prompt_paging.bind fun l page hpage => .pure ?_
  simpa using Production.select hk hflag hcolumns hf htable hwhere horder hpage

/-- `UPDATE`. -/
lemma prompt_update (source : List Char) :
    Prompt n (update source) (fun ts s => Production .update ts (.update s)) [] := by
  refine (prompt_keyword _ _).bind fun k _ hk => (prompt_name _).bind fun ts table htable =>
    (prompt_keyword _ _).bind fun t _ ht =>
      (prompt_assignment.separated reads_assignment).bind fun rs assignments hassign =>
        (prompt_optionalClause source).bind fun w condition hwhere => .pure ?_
  simpa using Production.update hk htable ht hassign hwhere

/-- `DELETE`. -/
lemma prompt_delete (source : List Char) :
    Prompt n (delete source) (fun ts s => Production .delete ts (.delete s)) [] := by
  refine (prompt_keyword _ _).bind fun k _ hk => (prompt_keyword _ _).bind fun f _ hf =>
    (prompt_name _).bind fun ts table htable =>
      (prompt_optionalClause source).bind fun w condition hwhere => .pure ?_
  simpa using Production.delete (spelled_append hk hf) htable hwhere

/-- A verb, `DATABASE` and the path of a file. -/
lemma prompt_databasePath (verb : Keyword) (what what' what'' : String) :
    Prompt n (do keyword verb what; keyword .DATABASE what'; quoted what'')
      (fun ts path => Spelled [.keyword verb, .keyword .DATABASE, .quoted path] ts) [] :=
  (prompt_keyword _ _).bind fun _ _ hverb => (prompt_keyword _ _).bind fun _ _ hdatabase =>
    (prompt_quoted _).imp fun _ _ hpath => spelled_append (spelled_append hverb hdatabase) hpath

/-- `SAVE DATABASE`. -/
lemma prompt_save : Prompt n save (fun ts path => Production .save ts (.save path)) [] :=
  (prompt_databasePath _ _ _ _).imp fun _ _ h => .save h

/-- `LOAD DATABASE`. -/
lemma prompt_load : Prompt n load (fun ts path => Production .load ts (.load path)) [] :=
  (prompt_databasePath _ _ _ _).imp fun _ _ h => .load h

/-- Behind a statement one semicolon may stand, and then the text ends. -/
lemma prompt_finish (source : List Char) :
    Prompt n (finish source) (fun ts _ => Closing ts) [] := by
  have hend : ∀ {n : ℕ} {front : List Token}, Closing front → Prompt n (do
      let t ← peek
      if t.kind = .finish then return ()
      else
        let rest := excerpt source t.place.offset source.length
        throw ⟨.unexpectedInput, some t.place.position,
          some (if rest.isEmpty then t.lexeme else rest), none⟩)
      (fun ts (_ : Unit) => Closing ts) front := by
    intro n front hclosing
    have hviable : Viable (fun ts (_ : Unit) => Closing ts) front :=
      viable_of_phrase (b := ()) hclosing
    refine .of_peek hviable fun tokens hended _ => ?_
    split
    · exact .pure hended hclosing
    · exact .throw hended rfl hviable
  exact .accept (by simp) (fun t ht => hend (.inr (spelled_token ht))) (hend (.inl rfl))

/-- **A production and the end of the text** behind it. -/
lemma Prompt.whole {m : Parser α} {phrase : Phrase α} (h : Prompt n m phrase [])
    (source : List Char) : Prompt n (whole source m) (Terminated phrase) [] :=
  h.bind fun _ _ ha => (prompt_finish source).bind fun _ _ hclosing => .pure (.intro ha hclosing)

end Parser

/-! ## Texts and their tokens -/

/-- A token of a text can be written, or it is the end. -/
lemma isLexeme_or_end {text : String} {tokens : List Token} (h : tokenize text = .ok tokens) :
    ∀ t ∈ tokens, IsLexeme t.content ∨ t.content = endContent := by
  obtain ⟨body, last, rfl, hlast, hlexed⟩ := lexed_of_tokenize h
  intro t ht
  rcases List.mem_append.mp ht with ht | ht
  · exact .inl (hlexed.isLexeme (List.mem_map_of_mem ht))
  · rw [List.mem_singleton.mp ht]
    exact .inr hlast

/-- **What is written of a token determines its content.** -/
lemma content_unique {w w' : TokenKind × String} (h : IsLexeme w ∨ w = endContent)
    (h' : IsLexeme w' ∨ w' = endContent) (htext : w.2 = w'.2) : w = w' := by
  have hne : ∀ {w : TokenKind × String}, IsLexeme w → w.2 ≠ "" := by
    rintro w ⟨c, word, hw, -⟩
    rw [hw]
    simp
  obtain ⟨kind, s⟩ := w
  obtain ⟨kind', s'⟩ := w'
  obtain rfl : s = s' := htext
  rcases h with h | h <;> rcases h' with h' | h'
  · rw [h.kind_unique h']
  · exact (hne h (congrArg Prod.snd h')).elim
  · exact (hne h' (congrArg Prod.snd h)).elim
  · exact h.trans h'.symm

/-- Tokens of texts that are written alike have the same content. -/
lemma sameContent_of_lexemes {ts : List Token} : ∀ {us : List Token},
    (∀ t ∈ ts, IsLexeme t.content ∨ t.content = endContent) →
    (∀ u ∈ us, IsLexeme u.content ∨ u.content = endContent) →
    us.map Token.lexeme = ts.map Token.lexeme → SameContent us ts := by
  induction ts with
  | nil =>
    intro us _ _ h
    rw [List.map_eq_nil_iff.mp h]
    rfl
  | cons t ts ih =>
    intro us hts hus h
    obtain ⟨u, us, rfl, hlexeme, hrest⟩ := List.map_eq_cons_iff.mp h
    obtain ⟨ht, hts⟩ := List.forall_mem_cons.mp hts
    obtain ⟨hu, hus⟩ := List.forall_mem_cons.mp hus
    rw [SameContent, List.map_cons, List.map_cons, content_unique hu ht hlexeme, ih hts hus hrest]

/-- Tokens that can be written are those of a text. -/
lemma exists_text {ts : List Token} (h : ∀ t ∈ ts, IsLexeme t.content) :
    ∃ text body last, tokenize text = .ok (body ++ [last]) ∧ SameContent body ts ∧
      last.kind = .finish := by
  have hspaced : Spaced ((ts.map Token.content).map Prod.snd)
      (" ".intercalate ((ts.map Token.content).map Prod.snd)).toList :=
    spaced_intercalate (by decide) (by decide) _
  have hlexed := hspaced.lexed fun w hw => by
    obtain ⟨t, ht, rfl⟩ := List.mem_map.mp hw
    exact h t ht
  obtain ⟨body, last, htokens, hbody, hlast⟩ := exists_tokenize_of_lexed hlexed
  exact ⟨_, body, last, htokens, hbody, hlast⟩

/-! ## Whole texts -/

/-- Every kind of statement has a production that reads its statements and is prompt. -/
lemma StatementKind.exists_prompt (kind : StatementKind) :
    ∃ (α : Type) (production : List Char → Parser α) (wrap : α → Statement),
      (∀ text, readStatement kind text = (readWith kind production text).map wrap) ∧
      (∀ source, (production source).Reads (fun ts a => Production kind ts (wrap a))
        Parser.EndsStatement) ∧
      (∀ ts s, Production kind ts s → ∃ a, wrap a = s) ∧
      ∀ source n, (production source).Prompt n (fun ts a => Production kind ts (wrap a)) [] := by
  cases kind with
  | createTable =>
    exact ⟨_, _, .createTable, fun _ => rfl, fun _ => Parser.reads_createTable,
      fun | _, _, .createTable .. => ⟨_, rfl⟩, fun _ _ => Parser.prompt_createTable⟩
  | dropTable =>
    exact ⟨_, _, .dropTable, fun _ => rfl, fun _ => Parser.reads_dropTable,
      fun | _, _, .dropTable .. => ⟨_, rfl⟩, fun _ _ => Parser.prompt_dropTable⟩
  | insert =>
    exact ⟨_, _, .insert, fun _ => rfl, fun _ => Parser.reads_insert,
      fun | _, _, .insert .. => ⟨_, rfl⟩, fun _ _ => Parser.prompt_insert⟩
  | select =>
    exact ⟨_, _, .select, fun _ => rfl, Parser.reads_select,
      fun | _, _, .select .. => ⟨_, rfl⟩, fun source _ => Parser.prompt_select source⟩
  | update =>
    exact ⟨_, _, .update, fun _ => rfl, Parser.reads_update,
      fun | _, _, .update .. => ⟨_, rfl⟩, fun source _ => Parser.prompt_update source⟩
  | delete =>
    exact ⟨_, _, .delete, fun _ => rfl, Parser.reads_delete,
      fun | _, _, .delete .. => ⟨_, rfl⟩, fun source _ => Parser.prompt_delete source⟩
  | save =>
    exact ⟨_, _, .save, fun _ => rfl, fun _ => Parser.reads_save,
      fun | _, _, .save .. => ⟨_, rfl⟩, fun _ _ => Parser.prompt_save⟩
  | load =>
    exact ⟨_, _, .load, fun _ => rfl, fun _ => Parser.reads_load,
      fun | _, _, .load .. => ⟨_, rfl⟩, fun _ _ => Parser.prompt_load⟩

/-- The errors of a text that has tokens are those of its production. -/
lemma readWith_eq_error {α : Type} {kind : StatementKind} {production : List Char → Parser α}
    {text : String} {tokens : List Token} (htokens : tokenize text = .ok tokens)
    {e : SyntaxError} :
    readWith kind production text = .error (.malformed e) ↔
      ∃ e', Parser.whole text.toList (production text.toList) tokens = .error e' ∧
        e = e'.inStatement kind := by
  rw [readWith_of_tokens kind production htokens]
  cases hrun : (Parser.whole text.toList (production text.toList)).run' tokens with
  | ok a =>
    constructor
    · rintro ⟨⟩
    · rintro ⟨e', he', -⟩
      cases hrun.symm.trans (map_eq_error.mpr he')
  | error e' =>
    have he' := map_eq_error.mp hrun
    constructor
    · intro h
      exact ⟨e', he', (ReadError.malformed.inj (Except.error.inj h)).symm⟩
    · rintro ⟨e'', he'', rfl⟩
      rw [Except.error.inj (he'.symm.trans he'')]
      rfl

/-- The tokens of a text in front of a phrase's end can be written. -/
lemma isLexeme_of_proper {text : String} {tokens ts rest : List Token}
    (htokens : tokenize text = .ok tokens) (heq : tokens = ts ++ rest) (hts : Proper ts) :
    ∀ t ∈ ts, IsLexeme t.content := by
  intro t ht
  rcases isLexeme_or_end htokens t (by rw [heq]; exact List.mem_append_left rest ht) with h | h
  · exact h
  · exact absurd (congrArg Prod.fst h) (hts t ht)

/-- What is terminated stays so for another kind of phrase that it is as well. -/
lemma Terminated.imp {α β : Type} {p : Phrase α} {q : Phrase β} {ts : List Token} {a : α} {b : β}
    (h : Terminated p ts a) (hpq : ∀ us, p us a → q us b) : Terminated q ts b := by
  obtain ⟨h, hclosing⟩ := h
  exact .intro (hpq _ h) hclosing

/-- A front that can be continued by written tokens is the front of a text that is read. -/
lemma exists_continuation {kind : StatementKind} {text : String} {tokens ts rest : List Token}
    (htokens : tokenize text = .ok tokens) (heq : tokens = ts ++ rest)
    (h : Viable (Terminated (Production kind)) ts) :
    ∃ text' tokens' s, tokenize text' = .ok tokens' ∧
      (tokens'.take ts.length).map Token.content = (tokens.take ts.length).map Token.content ∧
      readStatement kind text' = .ok s := by
  have hproper : Proper ts := h.proper fun _ _ => Terminated.proper Production.proper
  obtain ⟨us, s, hus, hs⟩ := h
  have hall := List.forall_mem_append.mpr ⟨isLexeme_of_proper htokens heq hproper, hus⟩
  obtain ⟨text', body, last, htokens', hbody, hlast⟩ := exists_text hall
  refine ⟨text', _, s, htokens', ?_, (readStatement_iff kind htokens').mpr ?_⟩
  · obtain ⟨cs, ds, rfl, hcs, -⟩ := hbody.append
    have hlength : cs.length = ts.length := by simpa using congrArg List.length hcs
    rw [heq, List.take_left, ← hlength, List.append_assoc, List.take_left]
    exact hcs
  · have hsame : SameContent (body ++ [last]) ((ts ++ us) ++ [last]) := hbody.join rfl
    exact hsame.whole ⟨_, last, rfl, hlast, hs⟩

/-- Where a production fails whatever stands behind a token, no text with the tokens up to that one
in front is a statement.

**Proof sketch.** The tokens of such a text may stand in other places. With these tokens in their
stead it would be a statement still, and the production would read it. -/
lemma not_ok_of_dead {α : Type} {kind : StatementKind} {production : List Char → Parser α}
    {wrap : α → Statement} {source : List Char} {ts : List Token} {t : Token}
    (hreads : (production source).Reads (fun ts a => Production kind ts (wrap a))
      Parser.EndsStatement)
    (hwrap : ∀ ts s, Production kind ts s → ∃ a, wrap a = s) (hts : Proper ts)
    (hdead : ∀ rest, Ended rest → nextToken rest = t →
      ∃ e, Parser.whole source (production source) (ts ++ rest) = .error e)
    {text : String} {tokens : List Token} (htokens : tokenize text = .ok tokens)
    (hshare : SameContent (tokens.take (ts.length + 1)) (ts ++ [t])) (s : Statement) :
    readStatement kind text ≠ .ok s := by
  intro hs
  have hsame : SameContent (ts ++ [t] ++ tokens.drop (ts.length + 1)) tokens := by
    conv_rhs => rw [← List.take_append_drop (ts.length + 1) tokens]
    exact SameContent.join hshare.symm rfl
  obtain ⟨body, last, heq, hlast, hbody⟩ := hsame.whole ((readStatement_iff kind htokens).mp hs)
  rw [List.append_assoc] at heq
  have hended : Ended (ts ++ ([t] ++ tokens.drop (ts.length + 1))) := by
    rw [heq]
    exact ⟨last, by simp, hlast⟩
  obtain ⟨a, ha⟩ : ∃ a, Terminated (fun ts a => Production kind ts (wrap a)) body a := by
    obtain ⟨h, hclosing⟩ := hbody
    obtain ⟨a, rfl⟩ := hwrap _ _ h
    exact ⟨a, .intro h hclosing⟩
  obtain ⟨e, he⟩ := hdead _ (hended.of_append hts) rfl
  obtain ⟨rest, hrun⟩ : ∃ rest,
      Parser.whole source (production source) (body ++ [last]) = .ok (a, rest) :=
    (Parser.whole_iff_terminated hreads Production.proper (hbody.proper Production.proper)
      hlast).mpr ha
  rw [heq, hrun] at he
  cases he

/-- **A syntax error points at the first wrong token.** Let a text have tokens and be no statement
of a kind. Then its error stands at the place of one of its tokens. The tokens in front of that one
can be continued to a text that is a statement of the kind; and no text with these tokens and that
one in front is such a statement, where it is enough that the tokens are written alike. -/
theorem readStatement_viablePrefix (kind : StatementKind) {text : String} {tokens : List Token}
    (htokens : tokenize text = .ok tokens) (hnone : ∀ s, readStatement kind text ≠ .ok s) :
    ∃ e k t, readStatement kind text = .error (.malformed e) ∧ tokens[k]? = some t ∧
      e.position = some t.place.position ∧
      (∃ text' tokens' s, tokenize text' = .ok tokens' ∧
        (tokens'.take k).map Token.content = (tokens.take k).map Token.content ∧
        readStatement kind text' = .ok s) ∧
      ∀ text' tokens', tokenize text' = .ok tokens' →
        (tokens'.take (k + 1)).map Token.lexeme = (tokens.take (k + 1)).map Token.lexeme →
        ∀ s, readStatement kind text' ≠ .ok s := by
  obtain ⟨α, production, wrap, hread, hreads, hwrap, hprompt⟩ := kind.exists_prompt
  obtain ⟨e, he⟩ := (readStatement_ok_or_malformed kind htokens).resolve_left
    fun ⟨s, hs⟩ => hnone s hs
  obtain ⟨e', he', rfl⟩ := (readWith_eq_error htokens).mp
    (map_eq_error.mp ((hread text).symm.trans he))
  have hended : Ended tokens := by
    obtain ⟨body, last, rfl, hlast, -⟩ := exists_of_tokenize htokens
    exact ⟨last, by simp, hlast⟩
  obtain ⟨ts, rest, rfl, hrest, hposition, hviable, hdead⟩ :=
    (((hprompt text.toList _).whole text.toList).on tokens hended le_rfl).error he'
  obtain ⟨t, later, rfl⟩ := List.exists_cons_of_ne_nil hrest.ne_nil
  have hfront : Viable (Terminated (Production kind)) ts := by
    obtain ⟨us, a, hus, ha⟩ := hviable
    exact ⟨us, wrap a, hus, ha.imp fun _ h => h⟩
  have hproper : Proper ts := hfront.proper fun _ _ => Terminated.proper Production.proper
  refine ⟨_, ts.length, t, he, by simp, hposition, exists_continuation htokens rfl hfront,
    fun text' tokens' htokens' hshare => ?_⟩
  have htake : (ts ++ t :: later).take (ts.length + 1) = ts ++ [t] := by
    rw [List.append_cons]
    exact List.take_left' (by simp)
  rw [htake] at hshare
  refine not_ok_of_dead (hreads text.toList) hwrap hproper hdead htokens' ?_
  refine sameContent_of_lexemes (fun u hu => isLexeme_or_end htokens u ?_)
    (fun u hu => isLexeme_or_end htokens' u (List.mem_of_mem_take hu)) hshare
  rw [List.append_cons]
  exact List.mem_append_left later hu

/-- A second comparison sign is the first wrong token of a `DELETE`: without it the text can go on,
and with it there is no way. -/
theorem readStatement_viablePrefix_delete :
    ∃ tokens e k t, tokenize "DELETE FROM t WHERE a = = 5" = .ok tokens ∧
      readStatement .delete "DELETE FROM t WHERE a = = 5" = .error (.malformed e) ∧
      tokens[k]? = some t ∧ e.position = some t.place.position ∧ e.position = some ⟨1, 25⟩ ∧
      (∃ text' tokens' s, tokenize text' = .ok tokens' ∧
        (tokens'.take k).map Token.content = (tokens.take k).map Token.content ∧
        readStatement .delete text' = .ok s) ∧
      ∀ text' tokens', tokenize text' = .ok tokens' →
        (tokens'.take (k + 1)).map Token.lexeme = (tokens.take (k + 1)).map Token.lexeme →
        ∀ s, readStatement .delete text' ≠ .ok s := by
  have hsome : (tokenize "DELETE FROM t WHERE a = = 5").toOption.isSome = true := by
    decide +kernel
  have hplace : (match readStatement .delete "DELETE FROM t WHERE a = = 5" with
      | .error (.malformed e) => e.position
      | _ => none) = some ⟨1, 25⟩ := by decide +kernel
  obtain ⟨tokens, htokens⟩ := Option.isSome_iff_exists.mp hsome
  rw [toOption_eq_some] at htokens
  obtain ⟨e, k, t, he, ht, hposition, hviable, hdead⟩ :=
    readStatement_viablePrefix .delete htokens fun s hs => by
      rw [hs] at hplace
      cases hplace
  rw [he] at hplace
  exact ⟨tokens, e, k, t, htokens, he, ht, hposition, hplace, hviable, hdead⟩

end StagedQuery
