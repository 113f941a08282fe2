import StagedQuery.Proofs.Sql.Unbounded

set_option relaxedAutoImplicit false
set_option autoImplicit false

/-!
# The parser stays inside its tokens

The step that takes a token does not ask whether there is one, and the step that looks at the next
token makes one up where there is none. Neither matters: a token is only taken after it was seen
not to be the end of the text. So every production, on tokens of which the last one alone ends the
text, takes one of the others at least, or fails at one that is there.

That nothing is looked for behind the end is said by putting arbitrary tokens there: they are left
as they are, and the run is the same for all of them.

## Main definitions

* `Parser.ContainedOn` — a run that takes a number of tokens at least and stays in front of the
  end, or fails there.
* `Parser.Contained` — a parser whose runs are such on fewer tokens than a number.
* `EndsOnce` — tokens of which the last one alone ends the text.
* `Parser.RunsInside`, `Parser.ClauseInside` — the same by index, and the text of a clause.
* `Parser.IsProduction` — the productions.

## Main results

* `Contained.bind`, `Contained.accept`, `Contained.following` — parsers of several steps.
* `contained_literal`, …, `contained_load` — the productions, one by one.
* `IsProduction.stays_inside` — every production stays inside its tokens and takes one of them.
-/

namespace StagedQuery

namespace Parser

variable {α β : Type}

/-! ## Runs in front of the end -/

/-- A parser runs on tokens in front of the one that ends the text. It fails at one of them or at
the end, or it takes some of them, which are `least` many at least. What stands behind the end does
not matter for the run, and is left as it is. -/
inductive ContainedOn (least : ℕ) (m : Parser α) (body : List Token) (last : Token) : Prop
  | fails {ts rest : List Token} {e : SyntaxError} (hbody : body = ts ++ rest)
    (hplace : e.position = some (rest.headD last).place.position)
    (hrun : ∀ later, m (body ++ last :: later) = .error e)
  | returns {ts rest : List Token} {a : α} (hbody : body = ts ++ rest) (hleast : least ≤ ts.length)
    (hrun : ∀ later, m (body ++ last :: later) = .ok (a, rest ++ last :: later))

/-- A parser runs in front of the end, where there are fewer tokens than a number. -/
def Contained (n least : ℕ) (m : Parser α) : Prop :=
  ∀ body last, Proper body → last.kind = .finish → body.length < n → ContainedOn least m body last

section Steps

variable {n n' least least' k : ℕ} {m m' : Parser α} {body : List Token} {last : Token}

/-- There are never fewer tokens than none. -/
lemma Contained.zero : Contained 0 least m := fun _ _ _ _ hlength =>
  absurd hlength (Nat.not_lt_zero _)

/-- A run that takes a number of tokens takes a smaller number of them. -/
lemma ContainedOn.mono (h : ContainedOn least m body last) (hleast : least' ≤ least) :
    ContainedOn least' m body last := by
  cases h with
  | fails hbody hplace hrun => exact .fails hbody hplace hrun
  | returns hbody hcount hrun => exact .returns hbody (hleast.trans hcount) hrun

/-- So it is of parsers, also where there are fewer tokens. -/
lemma Contained.mono (h : Contained n least m) (hn : n' ≤ n) (hleast : least' ≤ least) :
    Contained n' least' m := fun body last hbody hlast hlength =>
  (h body last hbody hlast (hlength.trans_le hn)).mono hleast

/-- How many tokens a parser takes may be left open. -/
lemma Contained.any (h : Contained n least m) : Contained n 0 m := h.mono le_rfl (Nat.zero_le _)

/-- Parsers that agree in front of the end. -/
lemma ContainedOn.congr (h : ContainedOn least m body last)
    (hm : ∀ later, m' (body ++ last :: later) = m (body ++ last :: later)) :
    ContainedOn least m' body last := by
  cases h with
  | fails hbody hplace hrun =>
    exact .fails hbody hplace fun later => (hm later).trans (hrun later)
  | returns hbody hleast hrun =>
    exact .returns hbody hleast fun later => (hm later).trans (hrun later)

/-- A result without a step. -/
lemma ContainedOn.pure {a : α} : ContainedOn 0 (Pure.pure a) body last :=
  .returns (List.nil_append body).symm le_rfl fun _ => rfl

/-- A result without a step. -/
lemma Contained.pure {a : α} : Contained n 0 (Pure.pure a) := fun _ _ _ _ _ => .pure

/-- A failure at the next token. -/
lemma ContainedOn.throw {e : SyntaxError}
    (he : e.position = some (body.headD last).place.position) :
    ContainedOn least (MonadExcept.throw e : Parser α) body last :=
  .fails (List.nil_append body).symm he fun _ => rfl

/-- A failure at the next token for want of something else. -/
lemma ContainedOn.fail {fault : SyntaxFault} :
    ContainedOn least (Parser.fail (body.headD last) fault : Parser α) body last := .throw rfl

/-- **Two parsers one after the other**, on given tokens: the second one makes up for what the first
one has not taken. -/
lemma ContainedOn.bind {f : α → Parser β} (hm : ContainedOn k m body last)
    (hf : ∀ a ts rest, body = ts ++ rest → k ≤ ts.length →
      ContainedOn (least - k) (f a) rest last) :
    ContainedOn least (m >>= f) body last := by
  cases hm with
  | fails hbody hplace hrun =>
    exact .fails hbody hplace fun later => bind_eq_error.mpr (.inl (hrun later))
  | @returns ts rest a hbody hk hrun =>
    cases hf a ts rest hbody hk with
    | @fails us rest' e hrest hplace hrun' =>
      have hwhole : body = (ts ++ us) ++ rest' := by rw [hbody, hrest, List.append_assoc]
      refine .fails hwhole hplace fun later => ?_
      rw [bind_of_ok (hrun later)]
      exact hrun' later
    | @returns us rest' b hrest hleast hrun' =>
      have hwhole : body = (ts ++ us) ++ rest' := by rw [hbody, hrest, List.append_assoc]
      have hcount : least ≤ (ts ++ us).length := by rw [List.length_append]; omega
      refine .returns (a := b) hwhole hcount fun later => ?_
      rw [bind_of_ok (hrun later)]
      exact hrun' later

/-- **Two parsers one after the other.** -/
lemma Contained.bind {f : α → Parser β} (hm : Contained n k m)
    (hf : ∀ a, Contained (n - k) (least - k) (f a)) : Contained n least (m >>= f) := by
  intro body last hbody hlast hlength
  refine (hm body last hbody hlast hlength).bind fun a ts rest hsplit hk => ?_
  subst hsplit
  rw [List.length_append] at hlength
  exact hf a rest last (proper_append.mp hbody).2 hlast (by omega)

/-- The next token in front of the end, or the end itself. -/
lemma headD_append_end (body later : List Token) (last : Token) :
    (body ++ last :: later).headD Token.finish = body.headD last := by
  cases body with
  | nil => rfl
  | cons t body => rfl

/-- Looking at the next token. -/
lemma ContainedOn.peek {f : Token → Parser β}
    (h : ContainedOn least (f (body.headD last)) body last) :
    ContainedOn least (Parser.peek >>= f) body last :=
  h.congr fun later => by rw [bind_peek, headD_append_end]

/-- Looking at the next token. -/
lemma Contained.of_peek {f : Token → Parser β}
    (h : ∀ body last, Proper body → last.kind = .finish → body.length < n →
      ContainedOn least (f (body.headD last)) body last) :
    Contained n least (Parser.peek >>= f) := fun body last hbody hlast hlength =>
  .peek (h body last hbody hlast hlength)

/-- **Taking the next token**, which is not the end. -/
lemma ContainedOn.advance {kind : TokenKind} (hlast : last.kind = .finish)
    (hnext : (body.headD last).kind = kind) (hkind : kind ≠ .finish) :
    ContainedOn 1 Parser.advance body last := by
  cases body with
  | nil => exact absurd (hnext.symm.trans hlast) hkind
  | cons t rest =>
    have hfront : t :: rest = [t] ++ rest := rfl
    exact .returns hfront le_rfl fun _ => rfl

/-- Going on behind the next token, which is not the end. -/
lemma ContainedOn.advance_bind {kind : TokenKind} {f : Unit → Parser β} (hbody : Proper body)
    (hlast : last.kind = .finish) (hnext : (body.headD last).kind = kind) (hkind : kind ≠ .finish)
    (h : Contained body.length (least - 1) (f ())) :
    ContainedOn least (Parser.advance >>= f) body last := by
  refine (ContainedOn.advance hlast hnext hkind).bind fun _ ts rest hsplit hcount => ?_
  subst hsplit
  exact h rest last (proper_append.mp hbody).2 hlast (by rw [List.length_append]; omega)

/-- **A branch on an optional token**, on given tokens. -/
lemma ContainedOn.accept {kind : TokenKind} (hkind : kind ≠ .finish) {f : Bool → Parser β}
    (hbody : Proper body) (hlast : last.kind = .finish)
    (htrue : Contained body.length (least - 1) (f true))
    (hfalse : ContainedOn least (f false) body last) :
    ContainedOn least (Parser.accept kind >>= f) body last := by
  by_cases hnext : (body.headD last).kind = kind
  · refine (ContainedOn.advance_bind (f := fun _ => f true) hbody hlast hnext hkind
      htrue).congr fun later => ?_
    rw [Parser.accept, bind_assoc, bind_peek, headD_append_end, if_pos hnext, bind_assoc]
    rfl
  · refine hfalse.congr fun later => bind_accept_of_ne ?_
    rwa [nextKind, headD_append_end]

/-- **A branch on an optional token.** -/
lemma Contained.accept {kind : TokenKind} (hkind : kind ≠ .finish) {f : Bool → Parser β}
    (htrue : Contained (n - 1) (least - 1) (f true)) (hfalse : Contained n least (f false)) :
    Contained n least (Parser.accept kind >>= f) := fun body last hbody hlast hlength =>
  .accept hkind hbody hlast (htrue.mono (by omega) le_rfl) (hfalse body last hbody hlast hlength)

end Steps

/-! ## Single tokens -/

section Tokens

variable {n : ℕ}

/-- A token that is taken alone. -/
lemma ContainedOn.advance_pure {body : List Token} {last : Token} {a : α} {kind : TokenKind}
    (hlast : last.kind = .finish) (hnext : (body.headD last).kind = kind) (hkind : kind ≠ .finish) :
    ContainedOn 1 (do Parser.advance; return a) body last :=
  (ContainedOn.advance hlast hnext hkind).bind fun _ _ _ _ _ => .pure

/-- A token that must be of a kind. -/
lemma contained_expect {kind : TokenKind} (hkind : kind ≠ .finish) (what : String) :
    Contained n 1 (expect kind what) := by
  refine .of_peek fun body last _ hlast _ => ?_
  split
  · next hnext => exact .advance hlast hnext hkind
  · exact .fail

/-- A token that is taken if it is of a kind. -/
lemma contained_accept {kind : TokenKind} (hkind : kind ≠ .finish) :
    Contained n 0 (accept kind) := by
  refine .of_peek fun body last _ hlast _ => ?_
  split
  · next hnext => exact (ContainedOn.advance_pure hlast hnext hkind).mono (Nat.zero_le 1)
  · exact .pure

/-- A keyword. -/
lemma contained_keyword (k : Keyword) (what : String) : Contained n 1 (keyword k what) :=
  contained_expect (by simp) what

/-- A mark. -/
lemma contained_mark (m : Mark) (what : String) : Contained n 1 (mark m what) :=
  contained_expect (by simp) what

/-- A name. -/
lemma contained_name (what : String) : Contained n 1 (name what) := by
  refine .of_peek fun body last _ hlast _ => ?_
  split
  · next hname =>
    refine .advance_pure hlast rfl fun hfinish => ?_
    rw [hfinish] at hname
    cases hname
  · exact .fail

/-- An unsigned integer. -/
lemma contained_natural (what : String) : Contained n 1 (natural what) := by
  refine .of_peek fun body last _ hlast _ => ?_
  split
  · next hk => exact .advance_pure hlast hk (by simp)
  · exact .fail

/-- A quoted text. -/
lemma contained_quoted (what : String) : Contained n 1 (quoted what) := by
  refine .of_peek fun body last _ hlast _ => ?_
  split
  · next hs => exact .advance_pure hlast hs (by simp)
  · exact .fail

/-- A number behind a sign. -/
lemma contained_signed (sign : Token) (negative : Bool) : Contained n 1 (signed sign negative) := by
  refine .of_peek fun body last _ hlast _ => ?_
  split
  · next hk => exact .advance_pure hlast hk (by simp)
  · next hx => exact .advance_pure hlast hx (by simp)
  · exact .fail

/-- **A value.** -/
lemma contained_literal : Contained n 1 literal := by
  refine .of_peek fun body last hbody hlast _ => ?_
  split
  · next hk =>
    exact .advance_bind hbody hlast hk (by simp) (contained_signed _ true).any
  · next hk =>
    exact .advance_bind hbody hlast hk (by simp) (contained_signed _ false).any
  · next hk => exact .advance_pure hlast hk (by simp)
  · next hx => exact .advance_pure hlast hx (by simp)
  · next hs => exact .advance_pure hlast hs (by simp)
  · next hk => exact .advance_pure hlast hk (by simp)
  · next hk => exact .advance_pure hlast hk (by simp)
  · exact .fail

end Tokens

/-! ## Repetition -/

section Repetition

variable {n : ℕ} {item : Parser α} {phrase : Phrase α} {follow : TokenKind → Prop}

/-- **Items behind separators.**

**Proof sketch.** Induction on the number of tokens. A round begins with a separator, so there are
fewer tokens for its item and for the rounds behind it. -/
lemma Contained.following (hitem : Contained n 0 item) (hreads : Reads item phrase follow)
    {separator : TokenKind} (hsep : separator ≠ .finish) :
    Contained n 0 (Parser.following separator item) := by
  induction n with
  | zero => exact .zero
  | succ n ih =>
    rw [following_eq hreads hsep]
    refine .accept hsep ?_ .pure
    have hfewer : Contained n 0 item := hitem.mono (Nat.le_succ n) le_rfl
    exact hfewer.bind fun _ => (ih hfewer).bind fun _ => .pure

/-- **Items with commas between them.** -/
lemma Contained.separated (hitem : Contained n 1 item) (hreads : Reads item phrase follow) :
    Contained n 1 (separated item) :=
  hitem.bind fun _ =>
    ((hitem.mono (Nat.sub_le n 1) (Nat.zero_le 1)).following hreads (by simp)).bind fun _ => .pure

/-- **Names with commas between them.** -/
lemma contained_nameList : Contained n 1 nameList :=
  (contained_name _).bind fun _ =>
    ((contained_name _).any.following (reads_name _) (by simp)).bind fun _ => .pure

end Repetition

/-! ## Conditions -/

section Conditions

variable {n : ℕ} {item : Parser Predicate} {phrase : Phrase Predicate} {follow : TokenKind → Prop}

/-- **Items with a keyword between them.** -/
lemma Contained.chain (hitem : Contained n 1 item) (hreads : Reads item phrase follow) (k : Keyword)
    (join : Predicate → Predicate → Predicate) : Contained n 1 (Parser.chain k join item) :=
  hitem.bind fun _ =>
    ((hitem.mono (Nat.sub_le n 1) (Nat.zero_le 1)).following hreads (by simp)).bind fun _ => .pure

/-- Alternatives of conjunctions. -/
lemma Contained.alternatives (hitem : Contained n 1 item) (hreads : Reads item phrase anything) :
    Contained n 1 (Parser.alternatives item) :=
  (hitem.chain hreads .AND .and).chain (hreads.chain trivial) .OR .or

/-- A test of a column. -/
lemma contained_test (column : String) : Contained n 1 (test column) := by
  refine .accept (by simp) ?_ <| .accept (by simp) ?_ <| .accept (by simp) ?_ <|
    .accept (by simp) ?_ ?_
  · exact .accept (by simp) ((contained_expect (by simp) _).bind fun _ => .pure)
      ((contained_expect (by simp) _).bind fun _ => .pure)
  · exact contained_literal.bind fun _ => (contained_keyword _ _).bind fun _ =>
      contained_literal.bind fun _ => .pure
  · exact (contained_mark _ _).bind fun _ =>
      (contained_literal.separated reads_literal).bind fun _ =>
      (contained_mark _ _).bind fun _ => .pure
  · exact contained_literal.bind fun _ => .pure
  · refine .of_peek fun body last hbody hlast _ => ?_
    split
    · next hr =>
      exact .advance_bind hbody hlast hr (by simp) (contained_literal.bind fun _ => .pure)
    · exact .fail

/-- A column and its test. -/
lemma contained_leaf : Contained n 1 leaf :=
  (contained_name _).bind fun _ => (contained_test _).bind fun _ => .pure

/-- A single condition with a bound on its nested groups. -/
lemma contained_condition (depth : ℕ) : ∀ {n}, Contained n 1 (condition depth) := by
  induction depth with
  | zero => exact contained_leaf
  | succ depth ih =>
    refine .accept (by simp) ?_ contained_leaf
    exact (ih.alternatives (reads_condition depth)).bind fun _ =>
      (contained_mark _ _).bind fun _ => .pure

/-- **A single condition.**

**Proof sketch.** Induction on the number of tokens. A group begins with a parenthesis, so there are
fewer tokens for the conditions in it. -/
lemma contained_single : Contained n 1 single := by
  induction n with
  | zero => exact .zero
  | succ n ih =>
    rw [single_eq]
    refine .accept (by simp) ?_ contained_leaf
    exact (ih.alternatives reads_single).bind fun _ => (contained_mark _ _).bind fun _ => .pure

/-- **A condition.** -/
lemma contained_orExpr : Contained n 1 orExpr := by
  rw [orExpr_eq]
  exact contained_single.alternatives reads_single

end Conditions

/-! ## The clause of a statement -/

section Clause

variable {n : ℕ} (source : List Char)

/-- **The text of a clause runs up to the next token that ends it**, which is there: the end of the
text is one. -/
lemma clauseText_eq {body later : List Token} {last : Token} (hlast : last.kind = .finish) :
    clauseText source (body ++ last :: later) = clauseText source (body ++ [last]) := by
  have hends : endsClause last = true := by simp [endsClause, hlast]
  have hfind : (body ++ last :: later).find? endsClause = (body ++ [last]).find? endsClause := by
    rw [List.find?_append, List.find?_append, List.find?_cons_of_pos hends,
      List.find?_cons_of_pos hends]
  obtain ⟨t, ht⟩ : ∃ t, (body ++ [last]).find? endsClause = some t :=
    Option.isSome_iff_exists.mp (List.find?_isSome.mpr ⟨last, by simp, hends⟩)
  rw [clauseText, clauseText, headD_append_end, headD_append_end, hfind, ht]
  rfl

/-- **The condition of a statement.** -/
lemma contained_clause : Contained n 1 (clause source) := by
  intro body last hbody hlast hlength
  cases contained_orExpr body last hbody hlast hlength with
  | @fails ts rest e hsplit hplace hrun =>
    refine .fails hsplit (e := ⟨.inCondition e.fault, e.position,
      some (clauseText source (body ++ [last])), none⟩) hplace fun later => ?_
    rw [clause, hrun later, clauseText_eq source hlast]
  | returns hsplit hleast hrun =>
    exact .returns hsplit hleast fun later => by rw [clause, hrun later]

/-- The condition behind `WHERE`, if there is one. -/
lemma contained_optionalClause : Contained n 0 (optionalClause source) :=
  .accept (by simp) ((contained_clause source).bind fun _ => .pure) .pure

end Clause

/-! ## Columns -/

section Columns

variable {n : ℕ}

/-- **The parts of a column.**

**Proof sketch.** Induction on the number of tokens. Each round takes a token before it goes on. -/
lemma contained_columnRest (column : String) :
    ∀ d, Contained n 0 (columnRest column d) := by
  induction n with
  | zero => exact fun d => .zero
  | succ n ih =>
    intro d body last hbody hlast hlength
    have hfewer : ∀ {k} d, k ≤ n → Contained k 0 (columnRest column d) :=
      fun d hk => (ih d).mono hk le_rfl
    refine ContainedOn.congr (m := columnStep column (columnRest column) d) ?_ fun later =>
      columnRest_eq ⟨last, by simp, hlast⟩
    refine .peek ?_
    split
    · next typeName htype =>
      split
      · exact .throw rfl
      · obtain ⟨hname, -, -⟩ := columnType?_eq_some.mp htype
        exact .advance_bind hbody hlast hname (by simp) (hfewer _ (by omega))
    · refine .accept (by simp) hbody hlast ?_ <| .accept (by simp) hbody hlast ?_ <|
        .accept (by simp) hbody hlast ?_ ?_
      · exact (contained_keyword _ _).bind fun _ => hfewer _ (by omega)
      · exact (contained_expect (by simp) _).bind fun _ => hfewer _ (by omega)
      · exact contained_literal.bind fun _ => hfewer _ (by omega)
      · rw [if_neg Bool.false_ne_true]
        split
        · exact .pure
        · exact .fail

/-- **A column.** -/
lemma contained_column : Contained n 1 column := by
  rw [column_eq]
  exact (contained_name _).bind fun _ => (contained_columnRest _ _).bind fun _ => .pure

end Columns

/-! ## Statements -/

section Statements

variable {n : ℕ} (source : List Char)

/-- The values of one row. -/
lemma contained_valueTuple : Contained n 1 valueTuple :=
  (contained_mark _ _).bind fun _ => (contained_literal.separated reads_literal).bind fun _ =>
    (contained_mark _ _).bind fun _ => .pure

/-- One assignment. -/
lemma contained_assignment : Contained n 1 assignment :=
  (contained_name _).bind fun _ => (contained_expect (by simp) _).bind fun _ =>
    contained_literal.bind fun _ => .pure

/-- Optional keywords. -/
lemma contained_flag (k : Keyword) {others : Parser Unit} (hothers : Contained (n - 1) 0 others) :
    Contained n 0 (flag k others) :=
  .accept (by simp) (hothers.bind fun _ => .pure) .pure

/-- The column list of an `INSERT`, if there is one. -/
lemma contained_targets : Contained n 0 targets :=
  .accept (by simp)
    (contained_nameList.bind fun _ => (contained_mark _ _).bind fun _ => .pure)
    .pure

/-- The columns that a `SELECT` shows. -/
lemma contained_shown : Contained n 1 shown := .accept (by simp) .pure contained_nameList

/-- The order of a `SELECT`, if there is one. -/
lemma contained_order : Contained n 0 order :=
  .accept (by simp)
    ((contained_keyword _ _).bind fun _ => (contained_name _).bind fun _ =>
      .accept (by simp) .pure (.accept (by simp) .pure .pure))
    .pure

/-- The limit and the offset of a `SELECT`, if there are any. -/
lemma contained_paging : Contained n 0 paging :=
  .accept (by simp)
    ((contained_natural _).bind fun _ =>
      .accept (by simp) ((contained_natural _).bind fun _ => .pure) .pure)
    .pure

/-- `CREATE TABLE`. -/
lemma contained_createTable : Contained n 1 createTable := by
  rw [createTable_eq]
  exact (contained_keyword _ _).bind fun _ => (contained_keyword _ _).bind fun _ =>
    (contained_flag _ ((contained_keyword _ _).bind fun _ => (contained_keyword _ _).any)).bind
      fun _ => (contained_name _).bind fun _ =>
    (contained_mark _ _).bind fun _ => (contained_column.separated reads_column).bind fun _ =>
    (contained_mark _ _).bind fun _ => .pure

/-- `DROP TABLE`. -/
lemma contained_dropTable : Contained n 1 dropTable := by
  rw [dropTable_eq]
  exact (contained_keyword _ _).bind fun _ => (contained_keyword _ _).bind fun _ =>
    (contained_flag _ (contained_keyword _ _).any).bind fun _ => (contained_name _).bind fun _ =>
    .pure

/-- `INSERT`. -/
lemma contained_insert : Contained n 1 insert := by
  rw [insert_eq]
  exact (contained_keyword _ _).bind fun _ => (contained_keyword _ _).bind fun _ =>
    (contained_name _).bind fun _ => contained_targets.bind fun _ =>
    (contained_keyword _ _).bind fun _ =>
    (contained_valueTuple.separated reads_valueTuple).bind fun _ => .pure

/-- `SELECT`. -/
lemma contained_select : Contained n 1 (select source) := by
  rw [select_eq]
  exact (contained_keyword _ _).bind fun _ => (contained_flag _ .pure).bind fun _ =>
    contained_shown.bind fun _ => (contained_keyword _ _).bind fun _ =>
    (contained_name _).bind fun _ => (contained_optionalClause source).bind fun _ =>
    contained_order.bind fun _ => contained_paging.bind fun _ => .pure

/-- `UPDATE`. -/
lemma contained_update : Contained n 1 (update source) :=
  (contained_keyword _ _).bind fun _ => (contained_name _).bind fun _ =>
    (contained_keyword _ _).bind fun _ =>
    (contained_assignment.separated reads_assignment).bind fun _ =>
    (contained_optionalClause source).bind fun _ => .pure

/-- `DELETE`. -/
lemma contained_delete : Contained n 1 (delete source) :=
  (contained_keyword _ _).bind fun _ => (contained_keyword _ _).bind fun _ =>
    (contained_name _).bind fun _ => (contained_optionalClause source).bind fun _ => .pure

/-- `SAVE DATABASE`. -/
lemma contained_save : Contained n 1 save :=
  (contained_keyword _ _).bind fun _ => (contained_keyword _ _).bind fun _ =>
    (contained_quoted _).any

/-- `LOAD DATABASE`. -/
lemma contained_load : Contained n 1 load :=
  (contained_keyword _ _).bind fun _ => (contained_keyword _ _).bind fun _ =>
    (contained_quoted _).any

/-- **The end of a text**, in front of which there may be a semicolon. -/
lemma contained_finish : Contained n 0 (finish source) := by
  refine (contained_accept (by simp)).bind fun _ => .of_peek fun body last _ _ _ => ?_
  split
  · exact .pure
  · exact .throw rfl

/-- A production with the end of the text behind it. -/
lemma Contained.whole {m : Parser α} (hm : Contained n 1 m) : Contained n 1 (whole source m) :=
  hm.bind fun _ => (contained_finish source).bind fun _ => .pure

end Statements

end Parser

/-! ## Tokens by index -/

/-- Tokens of which the last one, and no other, ends the text. -/
def EndsOnce (tokens : List Token) : Prop :=
  ∀ k (hk : k < tokens.length), tokens[k].kind = .finish ↔ k + 1 = tokens.length

instance (tokens : List Token) : Decidable (EndsOnce tokens) :=
  inferInstanceAs (Decidable (∀ k (hk : k < tokens.length),
    tokens[k].kind = .finish ↔ k + 1 = tokens.length))

/-- **The tokens of every text are such.** -/
theorem endsOnce_of_tokenize {text : String} {tokens : List Token}
    (h : tokenize text = .ok tokens) : EndsOnce tokens := by
  obtain ⟨body, last, rfl, hlast, hbody⟩ := exists_of_tokenize h
  intro k hk
  rw [List.length_append, List.length_singleton] at hk ⊢
  rcases Nat.lt_succ_iff_lt_or_eq.mp hk with hlt | rfl
  · rw [List.getElem_append_left hlt]
    exact iff_of_false (hbody _ (List.getElem_mem hlt)) (by omega)
  · simpa using hlast

/-- From an index on there are tokens that do not end the text, and then the end. -/
lemma EndsOnce.exists_drop {tokens : List Token} (h : EndsOnce tokens) {i : ℕ}
    (hi : i < tokens.length) :
    ∃ body last, tokens.drop i = body ++ [last] ∧ Proper body ∧ last.kind = .finish := by
  have hne : tokens.drop i ≠ [] := by simpa using hi
  refine ⟨(tokens.drop i).dropLast, (tokens.drop i).getLast hne,
    (List.dropLast_append_getLast hne).symm, fun t ht => ?_, ?_⟩
  · obtain ⟨k, hk, rfl⟩ := List.getElem_of_mem ht
    rw [List.length_dropLast, List.length_drop] at hk
    rw [List.getElem_dropLast, List.getElem_drop]
    exact fun hfinish => absurd ((h _ _).mp hfinish) (by omega)
  · rw [List.getLast_eq_getElem, List.getElem_drop]
    exact (h _ _).mpr (by rw [List.length_drop]; omega)

/-- Where tokens go on behind some of them. -/
lemma drop_add_length {tokens ts rest : List Token} {i : ℕ} (h : tokens.drop i = ts ++ rest) :
    tokens.drop (i + ts.length) = rest := by
  rw [← List.drop_drop, h, List.drop_left]

/-- A token behind some of the tokens from an index on. -/
lemma exists_getElem_of_drop {tokens ts rest : List Token} {t : Token} {i : ℕ}
    (h : tokens.drop i = ts ++ t :: rest) :
    ∃ hk : i + ts.length < tokens.length, tokens[i + ts.length] = t := by
  have hdrop := drop_add_length h
  have hk : i + ts.length < tokens.length := by
    by_contra hge
    rw [List.drop_eq_nil_of_le (by omega)] at hdrop
    cases hdrop
  rw [List.drop_eq_getElem_cons hk] at hdrop
  exact ⟨hk, (List.cons.inj hdrop).1⟩

namespace Parser

variable {α : Type}

/-- A parser runs inside its tokens from an index on. It fails at a token that is there, or it goes
on at a larger index that is not behind the end. Whatever is put behind the end does not matter for
the run, and is left as it is. -/
inductive RunsInside (m : Parser α) (tokens : List Token) (i : ℕ) : Prop
  | fails {e : SyntaxError} {k : ℕ} (hk : k < tokens.length) (hik : i ≤ k)
    (hplace : e.position = some tokens[k].place.position)
    (hrun : ∀ later, m (tokens.drop i ++ later) = .error e)
  | returns {a : α} {j : ℕ} (hij : i < j) (hj : j < tokens.length)
    (hrun : ∀ later, m (tokens.drop i ++ later) = .ok (a, tokens.drop j ++ later))

/-- The text of a clause that begins at an index runs from the token there up to the first one that
ends a clause, which is there too. -/
def ClauseInside (source : List Char) (tokens : List Token) (i : ℕ) (hi : i < tokens.length) :
    Prop :=
  ∃ (j : ℕ) (hj : j < tokens.length), i ≤ j ∧ endsClause tokens[j] ∧
    (∀ k (hk : k < j), i ≤ k → ¬ endsClause tokens[k]) ∧
      clauseText source (tokens.drop i) =
        excerpt source tokens[i].place.offset tokens[j].place.offset

/-- The productions: statements, alone and with the end of the text behind them, and what they are
made of, down to values. A single condition is one with or without a bound on its nested groups. -/
inductive IsProduction (source : List Char) : {α : Type} → Parser α → Prop
  | createTable : IsProduction source createTable
  | dropTable : IsProduction source dropTable
  | insert : IsProduction source insert
  | select : IsProduction source (select source)
  | update : IsProduction source (update source)
  | delete : IsProduction source (delete source)
  | save : IsProduction source save
  | load : IsProduction source load
  | whole {α : Type} {m : Parser α} (h : IsProduction source m) :
    IsProduction source (whole source m)
  | column : IsProduction source column
  | nameList : IsProduction source nameList
  | valueTuple : IsProduction source valueTuple
  | assignment : IsProduction source assignment
  | clause : IsProduction source (clause source)
  | orExpr : IsProduction source orExpr
  | conjunction : IsProduction source (chain .AND .and single)
  | single : IsProduction source single
  | condition (depth : ℕ) : IsProduction source (condition depth)
  | literal : IsProduction source literal

/-- Every production runs in front of the end and takes a token. -/
lemma IsProduction.contained {source : List Char} {m : Parser α} (h : IsProduction source m)
    {n : ℕ} : Contained n 1 m := by
  induction h with
  | createTable => exact contained_createTable
  | dropTable => exact contained_dropTable
  | insert => exact contained_insert
  | select => exact contained_select source
  | update => exact contained_update source
  | delete => exact contained_delete source
  | save => exact contained_save
  | load => exact contained_load
  | whole _ ih => exact ih.whole source
  | column => exact contained_column
  | nameList => exact contained_nameList
  | valueTuple => exact contained_valueTuple
  | assignment => exact contained_assignment
  | clause => exact contained_clause source
  | orExpr => exact contained_orExpr
  | conjunction => exact contained_single.chain reads_single _ _
  | single => exact contained_single
  | condition depth => exact contained_condition depth
  | literal => exact contained_literal

section Indices

variable {tokens : List Token} {i : ℕ}

/-- The text of every clause stays inside the tokens: the end of the text ends it, if nothing else
does. -/
lemma clauseInside_of_endsOnce (htokens : EndsOnce tokens) (hi : i < tokens.length)
    (source : List Char) : ClauseInside source tokens i hi := by
  obtain ⟨body, last, hdrop, -, hlast⟩ := htokens.exists_drop hi
  obtain ⟨t, ht⟩ : ∃ t, (tokens.drop i).find? endsClause = some t :=
    Option.isSome_iff_exists.mp (List.find?_isSome.mpr
      ⟨last, by simp [hdrop], by simp [endsClause, hlast]⟩)
  obtain ⟨hends, before, rest, hsplit, hbefore⟩ := List.find?_eq_some_iff_append.mp ht
  obtain ⟨hj, hget⟩ := exists_getElem_of_drop hsplit
  refine ⟨i + before.length, hj, by omega, by rwa [hget], fun k hk hik => ?_, ?_⟩
  · obtain ⟨d, rfl⟩ := Nat.exists_eq_add_of_le hik
    have hd : d < before.length := by omega
    have hmem : tokens[i + d] = before[d] := by
      rw [← List.getElem_drop (h := by rw [List.length_drop]; omega)]
      simp only [hsplit]
      exact List.getElem_append_left hd
    rw [hmem]
    simpa using hbefore _ (List.getElem_mem hd)
  · rw [clauseText, ht, hget, List.drop_eq_getElem_cons hi]
    rfl

/-- What runs in front of the end and takes a token runs inside the tokens. -/
lemma Contained.runsInside {m : Parser α} (hm : ∀ {n}, Contained n 1 m) (htokens : EndsOnce tokens)
    (hi : i < tokens.length) : RunsInside m tokens i := by
  obtain ⟨body, last, hdrop, hbody, hlast⟩ := htokens.exists_drop hi
  have hwhole : ∀ later, tokens.drop i ++ later = body ++ last :: later := fun later => by
    rw [hdrop, List.append_assoc, List.singleton_append]
  cases hm body last hbody hlast (Nat.lt_succ_self _) with
  | @fails ts rest e hsplit hplace hrun =>
    obtain ⟨us, hnext⟩ : ∃ us, rest ++ [last] = rest.headD last :: us := by
      cases rest with
      | nil => exact ⟨[], rfl⟩
      | cons t rest => exact ⟨rest ++ [last], rfl⟩
    rw [hsplit, List.append_assoc, hnext] at hdrop
    obtain ⟨hk, hget⟩ := exists_getElem_of_drop hdrop
    exact .fails hk (by omega) (by rw [hget, hplace]) fun later => by rw [hwhole, hrun]
  | @returns ts rest a hsplit hleast hrun =>
    rw [hsplit, List.append_assoc] at hdrop
    have hrest := drop_add_length hdrop
    have hj : i + ts.length < tokens.length := by
      by_contra hge
      rw [List.drop_eq_nil_of_le (by omega)] at hrest
      simp at hrest
    exact .returns (by omega) hj fun later => by
      rw [hwhole, hrun, hrest, List.append_assoc, List.singleton_append]

end Indices

/-- **Every production stays inside its tokens and takes one of them.** On tokens of which the last
one alone ends the text, and from any of their indices on, it fails at a token that is there, or
goes on at a larger index that is not behind the end. So the end is never taken and nothing is
looked for behind it, and a clause is shown from its first token to one that is there.

**Proof sketch.** A step takes a token only after it was seen not to be the end, and no step looks
further than one token; so do the steps one after the other. Every round of a repetition and every
nested group begins with a token of its own, which makes the induction on the number of tokens that
are left. -/
theorem IsProduction.stays_inside {source : List Char} {m : Parser α} (hm : IsProduction source m)
    {tokens : List Token} (htokens : EndsOnce tokens) {i : ℕ} (hi : i < tokens.length) :
    RunsInside m tokens i ∧ ClauseInside source tokens i hi :=
  ⟨Contained.runsInside hm.contained htokens hi, clauseInside_of_endsOnce htokens hi source⟩

/-- The tokens of a group that nothing closes. -/
def openGroup : List Token :=
  [⟨.mark .openParen, "(", ⟨⟨1, 1⟩, 0⟩⟩, ⟨.name, "a", ⟨⟨1, 2⟩, 1⟩⟩, ⟨.finish, "", ⟨⟨1, 3⟩, 2⟩⟩]

/-- A clause whose group is open where the text ends. -/
theorem clause_stays_inside :
    IsProduction "(a".toList (clause "(a".toList) ∧ EndsOnce openGroup ∧ 0 < openGroup.length ∧
      RunsInside (clause "(a".toList) openGroup 0 ∧
        ClauseInside "(a".toList openGroup 0 (by decide) := by
  have htokens : tokenize "(a" = .ok openGroup := by decide +kernel
  have hends : EndsOnce openGroup := endsOnce_of_tokenize htokens
  have hlength : 0 < openGroup.length := by decide
  exact ⟨.clause, hends, hlength, IsProduction.stays_inside .clause hends hlength⟩

end Parser

end StagedQuery
