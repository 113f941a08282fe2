import StagedQuery.Proofs.Sql.SoundTokens
import StagedQuery.Proofs.Sql.Statements
import StagedQuery.Proofs.Store.WellFormed

set_option relaxedAutoImplicit false
set_option autoImplicit false

/-!
# What the statements of a text are like

A statement that is read from a text holds plain values, and the names that it gives to a table and
to its columns can be names. Both follow from the grammar, since they hold of every token of a text.

## Main definitions

* `Sound` — tokens as texts have them.
* `Schema.IsNamed`, `Statement.IsNamed` — names that can be names.

## Main results

* `Production.plain`, `Production.named` — the statements that sound tokens derive.
* `plain_of_readStatement`, `named_of_readStatement` — the statements that are read from texts.
-/

namespace StagedQuery

/-! ## The rules -/

/-- Tokens as texts have them. -/
def Sound (ts : List Token) : Prop := ∀ t ∈ ts, t.IsSound

/-- Two sequences are sound if both parts are. -/
lemma sound_append {ts us : List Token} : Sound (ts ++ us) ↔ Sound ts ∧ Sound us :=
  List.forall_mem_append

/-- The name of the table can be a name, and so can those of the columns. -/
structure Schema.IsNamed (s : Schema) : Prop where
  table : IsName s.name
  columns : ∀ c ∈ s.columns, ∃ name, c.label = .text name ∧ IsName name

/-- A statement that gives names to a new table and its columns which can be names. -/
def Statement.IsNamed : Statement → Prop
  | .createTable s => (⟨s.table, s.columns⟩ : Schema).IsNamed
  | _ => True

/-! ## Phrases -/

section

variable {ts : List Token}

/-- A name in a text can be a name. -/
lemma Name.isName {s : String} (h : Name ts s) (hts : Sound ts) : IsName s := by
  obtain ⟨hname⟩ := h
  exact (hts _ (by simp)).named hname

/-- A number without a sign, or behind a minus, is plain. -/
lemma Numeral.plain {negative : Bool} {v : Value} (h : Numeral negative ts v) (hts : Sound ts) :
    v.IsPlain := by
  cases h with
  | @integer t n h =>
    have hplain := (hts t (by simp)).plain
    rw [h] at hplain
    cases negative with
    | false => exact hplain
    | true =>
      rw [if_pos rfl, Value.IsPlain, Int.natAbs_neg]
      exact hplain
  | @decimal t x h =>
    have hplain := (hts t (by simp)).plain
    rw [h] at hplain
    cases negative with
    | false => exact hplain
    | true => exact Binary64.neg_ne_nan hplain

/-- A value in a text is plain. -/
lemma Literal.plain {v : Value} (h : Literal ts v) (hts : Sound ts) : v.IsPlain := by
  cases h with
  | null | text | word => trivial
  | unsigned h => exact h.plain hts
  | positive _ h | negative _ h => exact h.plain (sound_append.mp hts).2

variable {α : Type} {phrase : Phrase α} {Q : α → Prop}

/-- What holds of each phrase holds of each item of a list with separators. -/
lemma Repeated.forall {separator : TokenKind} {as : List α} (h : Repeated phrase separator ts as)
    (hphrase : ∀ us a, phrase us a → Sound us → Q a) (hts : Sound ts) : ∀ a ∈ as, Q a := by
  induction h with
  | nil => simp
  | cons _ h _ ih =>
    simp only [sound_append] at hts
    exact List.forall_mem_cons.mpr ⟨hphrase _ _ h hts.2.1, ih hts.2.2⟩

/-- What holds of each phrase holds of each item of a list with commas. -/
lemma CommaList.forall {as : List α} (h : CommaList phrase ts as)
    (hphrase : ∀ us a, phrase us a → Sound us → Q a) (hts : Sound ts) : ∀ a ∈ as, Q a := by
  obtain ⟨h, hrest⟩ := h
  rw [sound_append] at hts
  exact List.forall_mem_cons.mpr ⟨hphrase _ _ h hts.1, hrest.forall hphrase hts.2⟩

/-- What holds of each phrase holds of each of several phrases. -/
lemma Sequence.forall {as : List α} (h : Sequence phrase ts as)
    (hphrase : ∀ us a, phrase us a → Sound us → Q a) (hts : Sound ts) : ∀ a ∈ as, Q a := by
  induction h with
  | nil => simp
  | cons h _ ih =>
    rw [sound_append] at hts
    exact List.forall_mem_cons.mpr ⟨hphrase _ _ h hts.1, ih hts.2⟩

end

/-! ## Columns -/

/-- A fact that gives a supported type or a plain default. -/
def ColumnFact.IsPlain : ColumnFact → Prop
  | .typed typeName => typeName ∈ columnTypes
  | .fallback v => v.IsPlain
  | _ => True

/-- One part of a column is plain. -/
lemma ColumnPart.plain {ts : List Token} {fact : ColumnFact} (h : ColumnPart ts fact)
    (hts : Sound ts) : fact.IsPlain := by
  cases h with
  | typed _ hmem => exact hmem
  | primaryKey | notNull => trivial
  | fallback _ h => exact h.plain (sound_append.mp hts).2

/-- A column that is described by plain facts has a supported type. -/
lemma Column.typeName_ofFacts (name : String) {facts : List ColumnFact}
    (h : ∀ fact ∈ facts, fact.IsPlain) : (Column.ofFacts name facts).typeName ∈ columnTypes := by
  rw [Column.ofFacts]
  cases htypes : facts.filterMap ColumnFact.typeName? with
  | nil => exact List.mem_of_elem_eq_true rfl
  | cons typeName more =>
    obtain ⟨fact, hfact, htype⟩ : ∃ fact ∈ facts, fact.typeName? = some typeName := by
      rw [← List.mem_filterMap, htypes]
      simp
    cases fact with
    | typed other =>
      obtain rfl := Option.some.inj htype
      exact h _ hfact
    | primaryKey | notNull | fallback => cases htype

/-- A column that is described by plain facts has a plain default. -/
lemma Column.plain_ofFacts (name : String) {facts : List ColumnFact}
    (h : ∀ fact ∈ facts, fact.IsPlain) : (Column.ofFacts name facts).defaultValue.IsPlain := by
  rw [Column.ofFacts]
  cases hlast : (facts.filterMap ColumnFact.fallback?).getLast? with
  | none => trivial
  | some v =>
    obtain ⟨fact, hfact, hvalue⟩ := List.mem_filterMap.mp (List.mem_of_getLast? hlast)
    cases fact with
    | fallback w =>
      obtain rfl := Option.some.inj hvalue
      exact h _ hfact
    | typed | primaryKey | notNull => cases hvalue

/-- A column in a text is named by a text that can be a name, and has a supported type and a plain
default. -/
lemma ColumnPhrase.sound {ts : List Token} {c : Column} (h : ColumnPhrase ts c) (hts : Sound ts) :
    (∃ name, c.label = .text name ∧ IsName name) ∧ c.typeName ∈ columnTypes ∧
      c.defaultValue.IsPlain := by
  obtain ⟨hname, hparts, -⟩ := h
  rw [sound_append] at hts
  have hfacts := hparts.forall (fun _ _ => ColumnPart.plain) hts.2
  exact ⟨⟨_, rfl, hname.isName hts.1⟩, Column.typeName_ofFacts _ hfacts,
    Column.plain_ofFacts _ hfacts⟩

/-! ## Statements -/

/-- The values of one row are plain. -/
lemma RowPhrase.plain {ts : List Token} {vs : List Value} (h : RowPhrase ts vs) (hts : Sound ts) :
    ∀ v ∈ vs, v.IsPlain := by
  obtain ⟨-, h, -⟩ := h
  simp only [sound_append] at hts
  exact h.forall (fun _ _ => Literal.plain) hts.2.1

/-- The value of an assignment is plain. -/
lemma Assignment.plain {ts : List Token} {a : String × Value} (h : Assignment ts a)
    (hts : Sound ts) : a.2.IsPlain := by
  obtain ⟨-, -, h⟩ := h
  simp only [sound_append] at hts
  exact h.plain hts.2.2

namespace Production

variable {kind : StatementKind} {ts : List Token} {s : Statement}

/-- **A statement that sound tokens derive** holds plain values. -/
theorem plain (h : Production kind ts s) (hts : Sound ts) : s.IsPlain := by
  cases h with
  | createTable _ _ _ _ hcolumns =>
    simp only [sound_append] at hts
    intro c hc
    obtain ⟨⟨name, hlabel, -⟩, htype, hdefault⟩ :=
      hcolumns.forall (fun _ _ => ColumnPhrase.sound) hts.2.2.2.2.1 c hc
    exact ⟨⟨name, hlabel⟩, htype, hdefault⟩
  | insert _ _ _ _ hrows =>
    simp only [sound_append] at hts
    exact hrows.forall (fun _ _ => RowPhrase.plain) hts.2.2.2.2
  | update _ _ _ hassign =>
    simp only [sound_append] at hts
    exact hassign.forall (fun _ _ => Assignment.plain) hts.2.2.2.1
  | dropTable | select | delete | save | load => trivial

/-- **A statement that sound tokens derive** gives names that can be names. -/
theorem named (h : Production kind ts s) (hts : Sound ts) : s.IsNamed := by
  cases h with
  | createTable _ _ htable _ hcolumns =>
    simp only [sound_append] at hts
    exact ⟨htable.isName hts.2.2.1,
      fun c hc => (hcolumns.forall (fun _ _ => ColumnPhrase.sound) hts.2.2.2.2.1 c hc).1⟩
  | dropTable | insert | select | update | delete | save | load => trivial

end Production

/-! ## Whole texts -/

/-- A statement that is read from a text derives from sound tokens. -/
lemma exists_sound_of_readStatement {kind : StatementKind} {text : String} {s : Statement}
    (h : readStatement kind text = .ok s) : ∃ ts, Sound ts ∧ Production kind ts s := by
  obtain ⟨ts, rest, last, htokens, hproduction⟩ := exists_production_of_readStatement h
  refine ⟨ts, fun t ht => sound_of_tokenize htokens t ?_, hproduction⟩
  simp [ht]

/-- **Every statement that is read from a text** holds plain values. -/
theorem plain_of_readStatement {kind : StatementKind} {text : String} {s : Statement}
    (h : readStatement kind text = .ok s) : s.IsPlain := by
  obtain ⟨ts, hts, hproduction⟩ := exists_sound_of_readStatement h
  exact hproduction.plain hts

/-- **Every statement that is read from a text** gives names that can be names. -/
theorem named_of_readStatement {kind : StatementKind} {text : String} {s : Statement}
    (h : readStatement kind text = .ok s) : s.IsNamed := by
  obtain ⟨ts, hts, hproduction⟩ := exists_sound_of_readStatement h
  exact hproduction.named hts

end StagedQuery
