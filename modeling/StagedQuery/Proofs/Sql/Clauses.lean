import StagedQuery.Proofs.Sql.Conditions
import StagedQuery.Proofs.Sql.Written

set_option relaxedAutoImplicit false
set_option autoImplicit false

/-!
# Statements with a clause

A text that is read as a condition can stand behind `WHERE` in every statement that may have a
condition, and the statement is read with the same condition there. For what tokens derive depends
on their content alone, and not on the places where they stand.

## Main definitions

* `SameContent` — tokens that differ in their places at most.
* `selectText`, `updateText`, `deleteText` — the texts of statements with a clause.

## Main results

* `SameContent.condition` — a condition is one in every place.
* `readStatement_of_front` — a statement that is written up to its clause.
* `readStatement_selectText`, `readStatement_updateText`, `readStatement_deleteText` — what the
  texts are read as.
-/

namespace StagedQuery

/-! ## Phrases do not depend on places -/

/-- Tokens with the same content: they may stand in other places. -/
def SameContent (ts us : List Token) : Prop := ts.map Token.content = us.map Token.content

namespace SameContent

variable {ts us : List Token}

/-- The tokens of two parts, part by part. -/
lemma append {as bs : List Token} (h : SameContent us (as ++ bs)) :
    ∃ cs ds, us = cs ++ ds ∧ SameContent cs as ∧ SameContent ds bs := by
  rw [SameContent, List.map_append] at h
  exact List.map_eq_append_iff.mp h

/-- One token with the same content. -/
lemma single {t : Token} (h : SameContent us [t]) :
    ∃ u, us = [u] ∧ u.kind = t.kind ∧ u.lexeme = t.lexeme := by
  obtain ⟨u, rfl, hu⟩ := List.map_eq_singleton_iff.mp h
  exact ⟨u, rfl, Prod.mk.inj hu⟩

/-- The kinds are the same. -/
lemma spelled {kinds : List TokenKind} (h : SameContent us ts) (hts : Spelled kinds ts) :
    Spelled kinds us := by
  have hkinds := congrArg (List.map Prod.fst) h
  rw [List.map_map, List.map_map] at hkinds
  exact hkinds.trans hts

lemma name {s : String} (h : SameContent us ts) (hts : Name ts s) : Name us s := by
  obtain ⟨hname⟩ := hts
  obtain ⟨u, rfl, hkind, hlexeme⟩ := h.single
  rw [← hlexeme]
  exact .intro (hkind ▸ hname)

lemma numeral {negative : Bool} {v : Value} (h : SameContent us ts) (hts : Numeral negative ts v) :
    Numeral negative us v := by
  cases hts with
  | integer hn =>
    obtain ⟨u, rfl, hkind, -⟩ := h.single
    exact .integer (hkind.trans hn)
  | decimal hx =>
    obtain ⟨u, rfl, hkind, -⟩ := h.single
    exact .decimal (hkind.trans hx)

lemma literal {v : Value} (h : SameContent us ts) (hts : Literal ts v) : Literal us v := by
  cases hts with
  | null hnull => exact .null (h.spelled hnull)
  | unsigned hv => exact .unsigned (h.numeral hv)
  | positive hsign hv =>
    obtain ⟨sign, digits, rfl, hs, hd⟩ := h.append
    exact .positive (hs.spelled hsign) (hd.numeral hv)
  | negative hsign hv =>
    obtain ⟨sign, digits, rfl, hs, hd⟩ := h.append
    exact .negative (hs.spelled hsign) (hd.numeral hv)
  | text hs =>
    obtain ⟨u, rfl, hkind, -⟩ := h.single
    exact .text (hkind.trans hs)
  | word hs =>
    obtain ⟨u, rfl, hkind, hlexeme⟩ := h.single
    rw [← hlexeme]
    exact .word (hkind.trans hs)

section Parts

variable {α : Type} {p : Phrase α} {items : List α}

lemma repeated (hp : ∀ ts us a, SameContent us ts → p ts a → p us a) {separator : TokenKind}
    (hts : Repeated p separator ts items) :
    ∀ us, SameContent us ts → Repeated p separator us items := by
  induction hts with
  | nil =>
    intro us hus
    rw [List.map_eq_nil_iff.mp hus]
    exact .nil
  | cons hsep hitem _ ih =>
    intro us hus
    obtain ⟨sep, _, rfl, hs, hus⟩ := hus.append
    obtain ⟨front, rest, rfl, hfront, hrest⟩ := hus.append
    exact .cons (hs.spelled hsep) (hp _ _ _ hfront hitem) (ih rest hrest)

lemma commaList (hp : ∀ ts us a, SameContent us ts → p ts a → p us a) (h : SameContent us ts)
    (hts : CommaList p ts items) : CommaList p us items := by
  obtain ⟨hitem, hrest⟩ := hts
  obtain ⟨front, rest, rfl, hf, hr⟩ := h.append
  exact .intro (hp _ _ _ hf hitem) (repeated hp hrest rest hr)

end Parts

lemma test {test : Test} (h : SameContent us ts) (hts : TestPhrase ts test) :
    TestPhrase us test := by
  cases hts with
  | isNull hs => exact .isNull (h.spelled hs)
  | isNotNull hs => exact .isNotNull (h.spelled hs)
  | between hb hlow ha hhigh =>
    obtain ⟨b, _, rfl, hsb, h⟩ := h.append
    obtain ⟨low, _, rfl, hslow, h⟩ := h.append
    obtain ⟨a, high, rfl, hsa, hshigh⟩ := h.append
    exact .between (hsb.spelled hb) (hslow.literal hlow) (hsa.spelled ha) (hshigh.literal hhigh)
  | oneOf hi ho hchoices hc =>
    obtain ⟨i, _, rfl, hsi, h⟩ := h.append
    obtain ⟨o, _, rfl, hso, h⟩ := h.append
    obtain ⟨choices, c, rfl, hschoices, hsc⟩ := h.append
    have hlist : CommaList Literal choices _ :=
      commaList (fun _ _ _ h hv => h.literal hv) hschoices hchoices
    exact .oneOf (hsi.spelled hi) (hso.spelled ho) hlist (hsc.spelled hc)
  | like hl hpattern =>
    obtain ⟨l, pattern, rfl, hsl, hspattern⟩ := h.append
    exact .like (hsl.spelled hl) (hspattern.literal hpattern)
  | compare hsign hoperand =>
    obtain ⟨sign, operand, rfl, hssign, hsoperand⟩ := h.append
    exact .compare (hssign.spelled hsign) (hsoperand.literal hoperand)

/-- **A condition is one in every place**: it depends on the content of its tokens only. -/
lemma condition {part : Part} {p : Predicate} (hts : Condition part ts p) :
    ∀ us, SameContent us ts → Condition part us p := by
  -- induction on the derivation: each rule splits the other tokens where it joins these ones
  induction hts with
  | orSingle _ ih => exact fun us hus => .orSingle (ih us hus)
  | andSingle _ ih => exact fun us hus => .andSingle (ih us hus)
  | or _ ho _ ihleft ihright =>
    intro us hus
    obtain ⟨left, _, rfl, hleft, hus⟩ := hus.append
    obtain ⟨o, right, rfl, hso, hright⟩ := hus.append
    exact .or (ihleft left hleft) (hso.spelled ho) (ihright right hright)
  | and _ ha _ ihleft ihright =>
    intro us hus
    obtain ⟨left, _, rfl, hleft, hus⟩ := hus.append
    obtain ⟨a, right, rfl, hsa, hright⟩ := hus.append
    exact .and (ihleft left hleft) (hsa.spelled ha) (ihright right hright)
  | group ho _ hc ih =>
    intro us hus
    obtain ⟨o, _, rfl, hso, hus⟩ := hus.append
    obtain ⟨inner, c, rfl, hinner, hsc⟩ := hus.append
    exact .group (hso.spelled ho) (ih inner hinner) (hsc.spelled hc)
  | leaf hname htest =>
    intro us hus
    obtain ⟨n, rest, rfl, hn, hrest⟩ := hus.append
    exact .leaf (hn.name hname) (hrest.test htest)

end SameContent

/-! ## Clauses -/

/-- The tokens of a text that is read as a condition derive it wherever they stand. -/
lemma exists_lexed_of_readPredicate {text : String} {p : Predicate}
    (h : readPredicate text = .ok p) : ∃ ws, Lexed text.toList ws ∧
      ∀ ts : List Token, ts.map Token.content = ws → Condition .orExpr ts p := by
  obtain ⟨tokens, htokens, hrun⟩ := bind_eq_ok.mp h
  obtain ⟨body, last, rfl, hlast, hlexed⟩ := lexed_of_tokenize htokens
  have hbody : Proper body := by
    intro t ht
    obtain ⟨c, word, rest, hlexeme, -⟩ := hlexed.exists_lexeme (List.mem_map_of_mem ht)
    exact hlexeme.ne_finish
  have hparsed : (Parser.wholeCondition text.toList).run' (body ++ [last]) = .ok p := by
    cases hresult : (Parser.wholeCondition text.toList).run' (body ++ [last]) with
    | error e =>
      rw [hresult] at hrun
      cases hrun
    | ok q =>
      rw [hresult] at hrun
      exact congrArg Except.ok (Except.ok.inj hrun)
  have hcondition : Condition .orExpr body p :=
    (wholeCondition_iff hbody (Prod.mk.inj hlast).1).mp (Parser.run'_eq_ok.mp hparsed)
  exact ⟨_, hlexed, fun ts hts => SameContent.condition hcondition ts hts⟩

/-- A written front, a blank, and behind it any text with tokens. -/
lemma Written.lexed_spaced {α : Type} {p : Phrase α} {cs ds : List Char} {a : α}
    {ws : List (TokenKind × String)} (h : Written p cs a) (hds : Lexed ds ws) :
    ∃ vs, Lexed (cs ++ ' ' :: ds) (vs ++ ws) ∧ ∀ ts : List Token,
      ts.map Token.content = vs ++ ws →
        ∃ us rest, ts = us ++ rest ∧ p us a ∧ rest.map Token.content = ws := by
  obtain ⟨vs, -, hlexed, hphrase⟩ := h
  refine ⟨vs, hlexed _ _ (detached_cons.mpr (by decide)) (.blank rfl hds), fun ts hts => ?_⟩
  obtain ⟨us, rest, rfl, hus, hrest⟩ := List.map_eq_append_iff.mp hts
  exact ⟨us, rest, rfl, hphrase us hus, hrest⟩

variable {table clause : String} {p : Predicate}

/-- **A written front with a clause behind it** is read as the statement that the front derives with
the condition that the clause is read as. -/
lemma readStatement_of_front {α : Type} {phrase : Phrase α} {a : α} {kind : StatementKind}
    {s : Statement} {text : String} {front : List Char}
    (hchars : text.toList = front ++ " WHERE ".toList ++ clause.toList)
    (hfront : Written phrase front a) (h : readPredicate clause = .ok p)
    (hs : ∀ us ts, phrase us a → WhereClause ts (some p) → Production kind (us ++ ts) s) :
    readStatement kind (strip text) = .ok s := by
  obtain ⟨ws, hclause, hcondition⟩ := exists_lexed_of_readPredicate h
  -- the blank behind `WHERE` ends its token, so the tokens of the clause are those it has alone
  obtain ⟨vs, hlexed, hphrase⟩ := (hfront.spaced (written_keyword .WHERE)).lexed_spaced hclause
  have hfronted : text.toList = (front ++ ' ' :: Keyword.WHERE.text.toList) ++ ' ' ::
      clause.toList := by
    simp [hchars, Keyword.text]
  have htext : Lexed (strip text).toList (vs ++ ws) := by
    rw [strip, String.toList_ofList, hfronted]
    exact hlexed.strip
  refine readStatement_of_lexed htext fun ts hts => ?_
  obtain ⟨_, rest, rfl, ⟨us, w, rfl, hus, hwhere⟩, hrest⟩ := hphrase ts hts
  rw [List.append_assoc]
  exact hs us _ hus (.present hwhere (hcondition rest hrest))

/-- The text of a `SELECT` of all columns from a table with a clause. -/
def selectText (table clause : String) : String := "SELECT * FROM " ++ table ++ " WHERE " ++ clause

/-- The text of an `UPDATE` of a table with a list of assignments and a clause. -/
def updateText (table assigned clause : String) : String :=
  "UPDATE " ++ table ++ " SET " ++ assigned ++ " WHERE " ++ clause

/-- The text of a `DELETE` from a table with a clause. -/
def deleteText (table clause : String) : String := "DELETE FROM " ++ table ++ " WHERE " ++ clause

/-- **A `SELECT` with a clause** is read with the condition that the clause is read as. -/
lemma readStatement_selectText (htable : IsName table) (h : readPredicate clause = .ok p) :
    readStatement .select (strip (selectText table clause)) =
      .ok (.select ⟨table, [], some p, none, none, none, false⟩) := by
  have hwritten := (written_keyword .SELECT).spaced ((written_mark (m := .star) (by simp)).spaced
    ((written_keyword .FROM).spaced (written_name htable)))
  refine readStatement_of_front (by simp [selectText, Keyword.text, Mark.char]) hwritten h ?_
  rintro _ w ⟨opening, _, rfl, hselect, star, _, rfl, hstar, f, n, rfl, hfrom, hname⟩ hwhere
  have hnext : nextKind star ≠ .keyword .DISTINCT := by
    have hkind := nextKind_of_spelled hstar []
    rw [List.append_nil] at hkind
    rw [hkind]
    simp
  have hproduction := Production.select hselect (.absent hnext) (.star hstar) hfrom hname hwhere
    .absent .absent
  simpa using hproduction

/-- **An `UPDATE` with a written list of assignments and a clause** is read with the assignments and
the condition that the clause is read as. -/
lemma readStatement_updateText (htable : IsName table) {assigned : String}
    {assignments : List (String × Value)}
    (hassigned : Written (CommaList Assignment) assigned.toList assignments)
    (h : readPredicate clause = .ok p) :
    readStatement .update (strip (updateText table assigned clause)) =
      .ok (.update ⟨table, assignments, some p⟩) := by
  have hwritten := (written_keyword .UPDATE).spaced ((written_name htable).spaced
    ((written_keyword .SET).spaced hassigned))
  refine readStatement_of_front (by simp [updateText, Keyword.text]) hwritten h ?_
  rintro _ w ⟨opening, _, rfl, hupdate, n, _, rfl, hname, t, rs, rfl, hset, hlist⟩ hwhere
  have hproduction := Production.update hupdate hname hset hlist hwhere
  simpa using hproduction

/-- **A `DELETE` with a clause** is read with the condition that the clause is read as. -/
lemma readStatement_deleteText (htable : IsName table) (h : readPredicate clause = .ok p) :
    readStatement .delete (strip (deleteText table clause)) = .ok (.delete ⟨table, some p⟩) := by
  have hwritten := (written_keyword .DELETE).spaced ((written_keyword .FROM).spaced
    (written_name htable))
  refine readStatement_of_front (by simp [deleteText, Keyword.text]) hwritten h ?_
  rintro _ w ⟨d, _, rfl, hdelete, f, n, rfl, hfrom, hname⟩ hwhere
  have hopening : Spelled [.keyword .DELETE, .keyword .FROM] (d ++ f) :=
    spelled_append hdelete hfrom
  have hproduction := Production.delete hopening hname hwhere
  simpa using hproduction

end StagedQuery
