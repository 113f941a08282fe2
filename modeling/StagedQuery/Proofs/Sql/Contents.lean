import StagedQuery.Proofs.Sql.Clauses

set_option relaxedAutoImplicit false
set_option autoImplicit false

/-!
# Statements do not depend on places

What tokens derive depends on their kinds and texts alone. So tokens with the same content derive
the same statements, wherever they stand.

## Main results

* `SameContent.production` — a statement is one in every place.
* `SameContent.whole` — so is a text that holds one.
-/

namespace StagedQuery

namespace SameContent

variable {ts us : List Token}

/-- Tokens with the same content as none. -/
lemma eq_nil (h : SameContent us []) : us = [] := List.map_eq_nil_iff.mp h

/-- Two parts with the same content each. -/
lemma join {as bs : List Token} (h : SameContent us ts) (h' : SameContent bs as) :
    SameContent (us ++ bs) (ts ++ as) := by
  have hus : us.map Token.content = ts.map Token.content := h
  have hbs : bs.map Token.content = as.map Token.content := h'
  rw [SameContent, List.map_append, List.map_append, hus, hbs]

/-- The next tokens are of one kind. -/
lemma nextKind_eq (h : SameContent us ts) : nextKind us = nextKind ts := by
  cases ts with
  | nil => rw [h.eq_nil]
  | cons t ts =>
    obtain ⟨u, us, rfl, hu, -⟩ := List.map_eq_cons_iff.mp h
    exact congrArg Prod.fst hu

/-! ## Parts of statements -/

lemma sequence {α : Type} {p : Phrase α} {items : List α}
    (hp : ∀ ts us a, SameContent us ts → p ts a → p us a) (hts : Sequence p ts items) :
    ∀ us, SameContent us ts → Sequence p us items := by
  induction hts with
  | nil =>
    intro us hus
    rw [hus.eq_nil]
    exact .nil
  | cons hitem _ ih =>
    intro us hus
    obtain ⟨front, rest, rfl, hfront, hrest⟩ := hus.append
    exact .cons (hp _ _ _ hfront hitem) (ih rest hrest)

lemma flag {k : Keyword} {ks : List Keyword} {behind behind' : List Token} {b : Bool}
    (h : SameContent us ts) (hbehind : SameContent behind' behind) (hts : Flag k ks behind ts b) :
    Flag k ks behind' us b := by
  cases hts with
  | present hs => exact .present (h.spelled hs)
  | absent hnext =>
    rw [h.eq_nil]
    exact .absent (hbehind.nextKind_eq ▸ hnext)

lemma whereClause {p : Option Predicate} (h : SameContent us ts) (hts : WhereClause ts p) :
    WhereClause us p := by
  cases hts with
  | absent =>
    rw [h.eq_nil]
    exact .absent
  | present hw hp =>
    obtain ⟨w, rest, rfl, hsw, hrest⟩ := h.append
    exact .present (hsw.spelled hw) (condition hp rest hrest)

lemma columnPart {fact : ColumnFact} (h : SameContent us ts) (hts : ColumnPart ts fact) :
    ColumnPart us fact := by
  cases hts with
  | typed hkind hmem =>
    obtain ⟨u, rfl, hk, hlexeme⟩ := h.single
    rw [← hlexeme] at hmem ⊢
    exact .typed (hk.trans hkind) hmem
  | primaryKey hs => exact .primaryKey (h.spelled hs)
  | notNull hs => exact .notNull (h.spelled hs)
  | fallback hd hv =>
    obtain ⟨d, rest, rfl, hsd, hrest⟩ := h.append
    exact .fallback (hsd.spelled hd) (hrest.literal hv)

lemma columnPhrase {c : Column} (h : SameContent us ts) (hts : ColumnPhrase ts c) :
    ColumnPhrase us c := by
  obtain ⟨hname, hparts, htypes⟩ := hts
  obtain ⟨n, rest, rfl, hn, hrest⟩ := h.append
  have hfacts := sequence (p := ColumnPart) (fun _ _ _ h hpart => h.columnPart hpart) hparts rest
    hrest
  exact .intro (hn.name hname) hfacts htypes

lemma targetList {names : Option (List String)} (h : SameContent us ts)
    (hts : TargetList ts names) : TargetList us names := by
  cases hts with
  | absent =>
    rw [h.eq_nil]
    exact .absent
  | present ho hnames hc =>
    obtain ⟨o, _, rfl, hso, h⟩ := h.append
    obtain ⟨ns, c, rfl, hns, hsc⟩ := h.append
    exact .present (hso.spelled ho) (commaList (fun _ _ _ h hn => h.name hn) hns hnames)
      (hsc.spelled hc)

lemma rowPhrase {vs : List Value} (h : SameContent us ts) (hts : RowPhrase ts vs) :
    RowPhrase us vs := by
  obtain ⟨ho, hvs, hc⟩ := hts
  obtain ⟨o, _, rfl, hso, h⟩ := h.append
  obtain ⟨values, c, rfl, hvalues, hsc⟩ := h.append
  exact .intro (hso.spelled ho) (commaList (fun _ _ _ h hv => h.literal hv) hvalues hvs)
    (hsc.spelled hc)

lemma selectList {names : List String} (h : SameContent us ts) (hts : SelectList ts names) :
    SelectList us names := by
  cases hts with
  | star hs => exact .star (h.spelled hs)
  | names hnames => exact .names (commaList (fun _ _ _ h hn => h.name hn) h hnames)

lemma orderClause {o : Option OrderBy} (h : SameContent us ts) (hts : OrderClause ts o) :
    OrderClause us o := by
  cases hts with
  | absent =>
    rw [h.eq_nil]
    exact .absent
  | plain ho hn =>
    obtain ⟨o, n, rfl, hso, hsn⟩ := h.append
    exact .plain (hso.spelled ho) (hsn.name hn)
  | ascending ho hn ha =>
    obtain ⟨o, _, rfl, hso, h⟩ := h.append
    obtain ⟨n, a, rfl, hsn, hsa⟩ := h.append
    exact .ascending (hso.spelled ho) (hsn.name hn) (hsa.spelled ha)
  | descending ho hn hd =>
    obtain ⟨o, _, rfl, hso, h⟩ := h.append
    obtain ⟨n, d, rfl, hsn, hsd⟩ := h.append
    exact .descending (hso.spelled ho) (hsn.name hn) (hsd.spelled hd)

lemma pageClause {page : Option ℕ × Option ℕ} (h : SameContent us ts) (hts : PageClause ts page) :
    PageClause us page := by
  cases hts with
  | absent =>
    rw [h.eq_nil]
    exact .absent
  | limit hs => exact .limit (h.spelled hs)
  | limitOffset hs => exact .limitOffset (h.spelled hs)

lemma assignment {a : String × Value} (h : SameContent us ts) (hts : Assignment ts a) :
    Assignment us a := by
  obtain ⟨hname, he, hv⟩ := hts
  obtain ⟨n, _, rfl, hsn, h⟩ := h.append
  obtain ⟨e, v, rfl, hse, hsv⟩ := h.append
  exact .intro (hsn.name hname) (hse.spelled he) (hsv.literal hv)

/-! ## Statements -/

/-- **A statement is one in every place**: it depends on the content of its tokens only. -/
lemma production {kind : StatementKind} {s : Statement} (h : SameContent us ts)
    (hts : Production kind ts s) : Production kind us s := by
  cases hts with
  | createTable hopening hguard htable ho hcolumns hc =>
    obtain ⟨opening, _, rfl, hsopening, h⟩ := h.append
    obtain ⟨guard, _, rfl, hsguard, h⟩ := h.append
    obtain ⟨n, _, rfl, hsn, h⟩ := h.append
    obtain ⟨o, _, rfl, hso, h⟩ := h.append
    obtain ⟨cs, c, rfl, hscs, hsc⟩ := h.append
    exact .createTable (hsopening.spelled hopening) (hsguard.flag hsn hguard) (hsn.name htable)
      (hso.spelled ho) (commaList (fun _ _ _ h hc => h.columnPhrase hc) hscs hcolumns)
      (hsc.spelled hc)
  | dropTable hopening hguard htable =>
    obtain ⟨opening, _, rfl, hsopening, h⟩ := h.append
    obtain ⟨guard, n, rfl, hsguard, hsn⟩ := h.append
    exact .dropTable (hsopening.spelled hopening) (hsguard.flag hsn hguard) (hsn.name htable)
  | insert hopening htable hcolumns hv hrows =>
    obtain ⟨opening, _, rfl, hsopening, h⟩ := h.append
    obtain ⟨n, _, rfl, hsn, h⟩ := h.append
    obtain ⟨cs, _, rfl, hscs, h⟩ := h.append
    obtain ⟨v, rs, rfl, hsv, hsrs⟩ := h.append
    exact .insert (hsopening.spelled hopening) (hsn.name htable) (hscs.targetList hcolumns)
      (hsv.spelled hv) (commaList (fun _ _ _ h hr => h.rowPhrase hr) hsrs hrows)
  | select hopening hflag hcolumns hf htable hwhere horder hpage =>
    obtain ⟨opening, _, rfl, hsopening, h⟩ := h.append
    obtain ⟨flag, _, rfl, hsflag, h⟩ := h.append
    obtain ⟨cs, _, rfl, hscs, h⟩ := h.append
    obtain ⟨f, _, rfl, hsf, h⟩ := h.append
    obtain ⟨n, _, rfl, hsn, h⟩ := h.append
    obtain ⟨w, _, rfl, hsw, h⟩ := h.append
    obtain ⟨o, l, rfl, hso, hsl⟩ := h.append
    exact .select (hsopening.spelled hopening) (hsflag.flag hscs hflag) (hscs.selectList hcolumns)
      (hsf.spelled hf) (hsn.name htable) (hsw.whereClause hwhere) (hso.orderClause horder)
      (hsl.pageClause hpage)
  | update hopening htable hset hassign hwhere =>
    obtain ⟨opening, _, rfl, hsopening, h⟩ := h.append
    obtain ⟨n, _, rfl, hsn, h⟩ := h.append
    obtain ⟨t, _, rfl, hst, h⟩ := h.append
    obtain ⟨rs, w, rfl, hsrs, hsw⟩ := h.append
    exact .update (hsopening.spelled hopening) (hsn.name htable) (hst.spelled hset)
      (commaList (fun _ _ _ h ha => h.assignment ha) hsrs hassign) (hsw.whereClause hwhere)
  | delete hopening htable hwhere =>
    obtain ⟨opening, _, rfl, hsopening, h⟩ := h.append
    obtain ⟨n, w, rfl, hsn, hsw⟩ := h.append
    exact .delete (hsopening.spelled hopening) (hsn.name htable) (hsw.whereClause hwhere)
  | save hs => exact .save (h.spelled hs)
  | load hs => exact .load (h.spelled hs)

/-- **A text holds the same statement in every place**, with or without a semicolon. -/
lemma whole {kind : StatementKind} {s : Statement} (h : SameContent us ts)
    (hts : Whole (Terminated (Production kind)) ts s) :
    Whole (Terminated (Production kind)) us s := by
  obtain ⟨_, last, rfl, hlast, ⟨hproduction, hclosing⟩⟩ := hts
  obtain ⟨_, _, rfl, hbody, hend⟩ := h.append
  obtain ⟨u, rfl, hkind, -⟩ := hend.single
  obtain ⟨front, closing, rfl, hfront, hsclosing⟩ := hbody.append
  refine ⟨_, u, rfl, hkind.trans hlast, .intro (hfront.production hproduction) ?_⟩
  rcases hclosing with rfl | hsemicolon
  · exact .inl hsclosing.eq_nil
  · exact .inr (hsclosing.spelled hsemicolon)

end SameContent

end StagedQuery
