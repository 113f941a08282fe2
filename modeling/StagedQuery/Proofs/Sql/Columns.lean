import StagedQuery.Proofs.Sql.Reading
import StagedQuery.Sql.Parser.Statement

set_option relaxedAutoImplicit false
set_option autoImplicit false

/-!
# Columns are read by their grammar

The parser goes through the parts of a column in any order and notes in a draft what each of them
says. What the draft holds in the end is what the column is by its facts: no second type is
accepted, the two rules hold as soon as they are mentioned, and a later default replaces an earlier
one.

## Main definitions

* `ColumnDraft.note` — a draft after one more fact.
* `ColumnDraft.types` — how many types a draft and further facts give.
* `ColumnDraft.toColumn` — the column of a name and a draft.

## Main results

* `columnParts_part`, `columnParts_eq_ok` — one part is taken, or the parts end.
* `sound_columnParts`, `complete_columnParts` — the parts of a column.
* `reads_column` — a whole column.
-/

namespace StagedQuery

namespace Parser

/-! ## Drafts -/

/-- The draft after one more fact. -/
def ColumnDraft.note (d : ColumnDraft) : ColumnFact → ColumnDraft
  | .typed typeName => ⟨some typeName, d.primaryKey, d.notNull, d.defaultValue⟩
  | .primaryKey => ⟨d.typeName, true, d.notNull, d.defaultValue⟩
  | .notNull => ⟨d.typeName, d.primaryKey, true, d.defaultValue⟩
  | .fallback v => ⟨d.typeName, d.primaryKey, d.notNull, v⟩

/-- How many types a draft and further facts give. -/
def ColumnDraft.types (d : ColumnDraft) (facts : List ColumnFact) : ℕ :=
  d.typeName.toList.length + (facts.filterMap ColumnFact.typeName?).length

/-- One fact and further facts give their types together. -/
lemma ColumnDraft.types_cons (d : ColumnDraft) (fact : ColumnFact) (facts : List ColumnFact) :
    d.types (fact :: facts) =
      d.types [fact] + (facts.filterMap ColumnFact.typeName?).length := by
  cases fact with
  | typed =>
    simp only [types, List.filterMap_cons, List.filterMap_nil, ColumnFact.typeName?,
      List.length_cons, List.length_nil]
    omega
  | primaryKey | notNull | fallback => rfl

/-- A fact that gives no second type is noted, and counts no more. -/
lemma ColumnDraft.types_note {d : ColumnDraft} {fact : ColumnFact} (h : d.types [fact] ≤ 1)
    (facts : List ColumnFact) : (d.note fact).types facts = d.types (fact :: facts) := by
  rw [types_cons]
  cases fact with
  | typed typeName =>
    have hone : d.types [.typed typeName] = 1 :=
      le_antisymm h (by simp [types, ColumnFact.typeName?])
    rw [hone]
    simp [types, note]
  | primaryKey | notNull | fallback => simp [types, note, ColumnFact.typeName?]

/-- A fact that gives no type fits every draft. -/
lemma ColumnDraft.types_le_one (d : ColumnDraft) {fact : ColumnFact} (h : fact.typeName? = none) :
    d.types [fact] ≤ 1 := by
  rw [types, List.filterMap_cons_none h]
  cases d.typeName <;> simp

/-- What a draft holds after facts of which at most one is a type. -/
lemma ColumnDraft.foldl_note (facts : List ColumnFact) : ∀ d : ColumnDraft, d.types facts ≤ 1 →
    facts.foldl note d =
      ⟨d.typeName.or (facts.filterMap ColumnFact.typeName?).head?,
        d.primaryKey || facts.any ColumnFact.isPrimaryKey,
        d.notNull || facts.any ColumnFact.isNotNull,
        ((facts.filterMap ColumnFact.fallback?).getLast?).getD d.defaultValue⟩ := by
  induction facts with
  | nil => intro d _; simp
  | cons fact facts ih =>
    intro d h
    have hfirst : d.types [fact] ≤ 1 := by
      rw [types_cons] at h
      omega
    rw [List.foldl_cons, ih _ ((types_note hfirst facts).trans_le h)]
    cases fact with
    | typed typeName =>
      have hnone : d.typeName = none := by
        simpa [types, ColumnFact.typeName?] using hfirst
      simp [note, hnone, List.filterMap_cons, ColumnFact.typeName?, ColumnFact.fallback?,
        ColumnFact.isPrimaryKey, ColumnFact.isNotNull]
    | primaryKey | notNull =>
      simp [note, List.filterMap_cons, ColumnFact.typeName?, ColumnFact.fallback?,
        ColumnFact.isPrimaryKey, ColumnFact.isNotNull]
    | fallback v =>
      simp [note, List.filterMap_cons, ColumnFact.typeName?, ColumnFact.fallback?,
        ColumnFact.isPrimaryKey, ColumnFact.isNotNull, List.getLast?_cons]

/-! ## One part -/

/-- The type that a token names. -/
lemma columnType?_eq_some {t : Token} {typeName : String} :
    columnType? t = some typeName ↔
      t.kind = .name ∧ capitalize t.lexeme ∈ columnTypes ∧ capitalize t.lexeme = typeName := by
  rw [columnType?]
  constructor
  · intro h
    split at h
    · next hname =>
      obtain rfl : typeName = capitalize t.lexeme := by
        simpa using List.find?_some h
      exact ⟨hname, List.mem_of_find?_eq_some h, rfl⟩
    · simp at h
  · rintro ⟨hname, hmem, rfl⟩
    rw [if_pos hname]
    revert hmem
    generalize capitalize t.lexeme = s
    intro hmem
    have hsome : (typeNames.find? (· == s)).isSome := by
      rw [List.find?_isSome]
      exact ⟨s, hmem, beq_self_eq_true s⟩
    obtain ⟨s', hs'⟩ := Option.isSome_iff_exists.mp hsome
    obtain rfl : s' = s := by simpa using List.find?_some hs'
    exact hs'

/-- A token of another kind than names gives no type. -/
lemma columnType?_of_spelled {k : TokenKind} {ks : List TokenKind} {ts : List Token}
    (h : Spelled (k :: ks) ts) (hk : k ≠ .name) (rest : List Token) :
    columnType? ((ts ++ rest).headD Token.finish) = none := by
  have hnext : ((ts ++ rest).headD Token.finish).kind = k := nextKind_of_spelled h rest
  rw [columnType?, hnext, if_neg hk]

/-- One part of a column is taken and noted. -/
lemma columnParts_part {column : String} {d : ColumnDraft} {ts : List Token} {fact : ColumnFact}
    (h : ColumnPart ts fact) (hfits : d.types [fact] ≤ 1) (bound : ℕ) (rest : List Token) :
    columnParts column (bound + 1) d (ts ++ rest) =
      columnParts column bound (d.note fact) rest := by
  rw [columnParts, bind_peek]
  cases h with
  | @typed t ht hmem =>
    have hnone : d.typeName = none := by
      simpa [ColumnDraft.types, ColumnFact.typeName?] using hfits
    have htype : columnType? t = some (capitalize t.lexeme) :=
      columnType?_eq_some.mpr ⟨ht, hmem, rfl⟩
    rw [List.singleton_append, List.headD_cons, htype]
    simp only [hnone]
    rfl
  | primaryKey h =>
    obtain ⟨p, k, rfl, hp, hk⟩ := exists_of_spelled h
    simp only [columnType?_of_spelled h (by simp)]
    rw [List.append_assoc, bind_accept_of_spelled hp, if_pos rfl, bind_keyword hk]
    rfl
  | notNull h =>
    obtain ⟨n, null, rfl, hn, hnull⟩ := exists_of_spelled h
    simp only [columnType?_of_spelled h (by simp)]
    rw [List.append_assoc, bind_accept_other hn (by simp), if_neg (by decide),
      bind_accept_of_spelled hn, if_pos rfl, bind_expect (by simp) hnull]
    rfl
  | fallback hd h =>
    rw [List.append_assoc]
    simp only [columnType?_of_spelled hd (by simp)]
    rw [bind_accept_other hd (by simp), if_neg (by decide), bind_accept_other hd (by simp),
      if_neg (by decide), bind_accept_of_spelled hd, if_pos rfl, reads_literal.bind_eq h trivial]
    rfl

/-- Where the parts of a column are read, there is one part and others behind it, or the parts
end. -/
lemma columnParts_eq_ok {column : String} {bound : ℕ} {d d' : ColumnDraft}
    {tokens rest : List Token} (h : columnParts column (bound + 1) d tokens = .ok (d', rest)) :
    (tokens = rest ∧ d' = d) ∨ ∃ ts fact middle, tokens = ts ++ middle ∧ ColumnPart ts fact ∧
      d.types [fact] ≤ 1 ∧ columnParts column bound (d.note fact) middle = .ok (d', rest) := by
  rw [columnParts, bind_peek] at h
  cases htype : columnType? (tokens.headD Token.finish) with
  | some typeName =>
    simp only [htype] at h
    obtain ⟨hname, hmem, rfl⟩ := columnType?_eq_some.mp htype
    split at h
    · cases h
    · next hnone =>
      have hcons : nextKind tokens ≠ .finish := by
        rw [nextKind, hname]
        simp
      obtain ⟨t, tokens, rfl, -⟩ := exists_cons_of_next hcons
      refine .inr ⟨[t], _, tokens, rfl, .typed hname hmem, ?_, h⟩
      rw [Option.not_isSome_iff_eq_none] at hnone
      simp [ColumnDraft.types, hnone, ColumnFact.typeName?]
  | none =>
    simp only [htype] at h
    rcases exists_of_accept (by simp) h with ⟨p, later, rfl, hp, h⟩ | ⟨-, h⟩
    · rw [if_pos rfl] at h
      obtain ⟨_, k, later, rfl, hk, h⟩ := (reads_keyword _ _).exists_of_bind h
      exact .inr ⟨p ++ k, _, later, by rw [List.append_assoc], .primaryKey (spelled_append hp hk),
        d.types_le_one rfl, h⟩
    rw [if_neg (by decide)] at h
    rcases exists_of_accept (by simp) h with ⟨n, later, rfl, hn, h⟩ | ⟨-, h⟩
    · rw [if_pos rfl] at h
      obtain ⟨_, null, later, rfl, hnull, h⟩ := (reads_expect (by simp) _).exists_of_bind h
      exact .inr ⟨n ++ null, _, later, by rw [List.append_assoc],
        .notNull (spelled_append hn hnull), d.types_le_one rfl, h⟩
    rw [if_neg (by decide)] at h
    rcases exists_of_accept (by simp) h with ⟨k, later, rfl, hk, h⟩ | ⟨-, h⟩
    · rw [if_pos rfl] at h
      obtain ⟨v, ts, later, rfl, hv, h⟩ := reads_literal.exists_of_bind h
      exact .inr ⟨k ++ ts, _, later, by rw [List.append_assoc], .fallback hk hv,
        d.types_le_one rfl, h⟩
    rw [if_neg (by decide)] at h
    split at h
    · obtain ⟨rfl, rfl⟩ := Prod.mk.inj (Except.ok.inj h)
      exact .inl ⟨rfl, rfl⟩
    · exact absurd h (fail_ne_ok _ _ _ _)

/-- What may follow a column. -/
def EndsColumn (kind : TokenKind) : Prop := kind = .mark .comma ∨ kind = .mark .closeParen

/-- In front of what may follow a column, its parts end. -/
lemma columnParts_end {column : String} (bound : ℕ) (d : ColumnDraft) {rest : List Token}
    (hrest : EndsColumn (nextKind rest)) : columnParts column bound d rest = .ok (d, rest) := by
  cases bound with
  | zero => rfl
  | succ bound =>
    have hne : ∀ kind, kind ≠ .mark .comma → kind ≠ .mark .closeParen → nextKind rest ≠ kind := by
      rintro kind hcomma hclose rfl
      exact hrest.elim hcomma hclose
    have htype : columnType? (rest.headD Token.finish) = none :=
      if_neg (hne .name (by simp) (by simp))
    rw [columnParts, bind_peek]
    simp only [htype]
    rw [bind_accept_of_ne (hne _ (by simp) (by simp)), if_neg (by decide),
      bind_accept_of_ne (hne _ (by simp) (by simp)), if_neg (by decide),
      bind_accept_of_ne (hne _ (by simp) (by simp)), if_neg (by decide)]
    exact congrFun (if_pos hrest) rest

/-! ## Columns -/

/-- A part of a column has a token. -/
lemma length_pos_of_part {ts : List Token} {fact : ColumnFact} (h : ColumnPart ts fact) :
    0 < ts.length := by
  cases h with
  | typed => simp
  | primaryKey h | notNull h | fallback h =>
    obtain ⟨t, us, rfl, -⟩ := spelled_cons.mp h
    simp

/-- There are no more parts of a column than tokens. -/
lemma length_le_of_parts {ts : List Token} {facts : List ColumnFact}
    (h : Sequence ColumnPart ts facts) : facts.length ≤ ts.length := by
  induction h with
  | nil => simp
  | cons h _ ih =>
    have hpos := length_pos_of_part h
    rw [List.length_cons, List.length_append]
    omega

/-- What is taken as parts of a column are such parts, whatever the bound. -/
lemma sound_columnParts (column : String) (bound : ℕ) :
    ∀ (d d' : ColumnDraft) (tokens rest : List Token),
      columnParts column bound d tokens = .ok (d', rest) →
      ∃ ts facts, tokens = ts ++ rest ∧ Sequence ColumnPart ts facts ∧ d.types facts ≤ 1 ∧
        facts.foldl ColumnDraft.note d = d' := by
  have hnone : ∀ d : ColumnDraft, d.types [] ≤ 1 := fun d => by
    cases hd : d.typeName <;> simp [ColumnDraft.types, hd]
  induction bound with
  | zero =>
    intro d d' tokens rest h
    obtain ⟨rfl, rfl⟩ := Prod.mk.inj (Except.ok.inj h)
    exact ⟨[], [], rfl, .nil, hnone d, rfl⟩
  | succ bound ih =>
    intro d d' tokens rest h
    rcases columnParts_eq_ok h with ⟨rfl, rfl⟩ | ⟨ts, fact, middle, rfl, hpart, hfits, hmore⟩
    · exact ⟨[], [], rfl, .nil, hnone d', rfl⟩
    · obtain ⟨us, facts, rfl, hparts, htypes, rfl⟩ := ih _ _ _ _ hmore
      refine ⟨ts ++ us, fact :: facts, by rw [List.append_assoc], .cons hpart hparts, ?_, rfl⟩
      rwa [← ColumnDraft.types_note hfits]

/-- Parts of a column are taken as a whole if the bound admits them.

**Proof sketch.** Induction on the parts. The draft counts the types that it has noted, so no part
gives it a second one. -/
lemma complete_columnParts {column : String} {ts rest : List Token} {facts : List ColumnFact}
    (h : Sequence ColumnPart ts facts) (hrest : EndsColumn (nextKind rest)) :
    ∀ (bound : ℕ) (d : ColumnDraft), facts.length ≤ bound → d.types facts ≤ 1 →
      columnParts column bound d (ts ++ rest) = .ok (facts.foldl ColumnDraft.note d, rest) := by
  induction h with
  | nil => exact fun bound d _ _ => columnParts_end bound d hrest
  | @cons ts us fact facts hpart _ ih =>
    intro bound d hbound htypes
    have hfits : d.types [fact] ≤ 1 := by
      rw [ColumnDraft.types_cons] at htypes
      omega
    cases bound with
    | zero => simp at hbound
    | succ bound =>
      rw [List.append_assoc, columnParts_part hpart hfits, List.foldl_cons]
      refine ih bound _ (by simpa using hbound) ?_
      rwa [ColumnDraft.types_note hfits]

/-- The column of a name and a draft. -/
def ColumnDraft.toColumn (d : ColumnDraft) (name : String) : Column :=
  ⟨.text name, d.typeName.getD "TEXT", Presence.ofFlags d.primaryKey d.notNull, d.defaultValue⟩

/-- The column of a draft is the column of the facts that were noted in it. -/
lemma toColumn_foldl_note {name : String} {facts : List ColumnFact}
    (h : (⟨none, false, false, .null⟩ : ColumnDraft).types facts ≤ 1) :
    (facts.foldl ColumnDraft.note ⟨none, false, false, .null⟩).toColumn name =
      .ofFacts name facts := by
  rw [ColumnDraft.foldl_note facts _ h, Column.ofFacts, ColumnDraft.toColumn]
  simp

/-- **A column of a new table**, in front of a comma or the closing parenthesis. -/
lemma reads_column : Reads column ColumnPhrase EndsColumn where
  sound {tokens rest c} h := by
    obtain ⟨name, n, later, rfl, hname, h⟩ := (reads_name _).exists_of_bind h
    change (columnParts name later.length _ >>= fun draft => pure (draft.toColumn name)) later = _
      at h
    obtain ⟨draft, middle, hdraft, hpure⟩ := exists_of_bind h
    obtain ⟨ts, facts, rfl, hparts, htypes, rfl⟩ := sound_columnParts _ _ _ _ _ _ hdraft
    obtain ⟨rfl, rfl⟩ := Prod.mk.inj (Except.ok.inj hpure)
    rw [toColumn_foldl_note htypes]
    exact ⟨n ++ ts, by rw [List.append_assoc],
      .intro hname hparts (by simpa [ColumnDraft.types] using htypes)⟩
  complete {ts rest c} h hrest := by
    obtain @⟨n, ts, name, facts, hname, hparts, htypes⟩ := h
    have hzero : (⟨none, false, false, .null⟩ : ColumnDraft).types facts ≤ 1 := by
      simpa [ColumnDraft.types] using htypes
    have hlen := length_le_of_parts hparts
    rw [column, List.append_assoc, (reads_name _).bind_eq hname trivial]
    show (columnParts name (ts ++ rest).length _ >>= fun draft => pure (draft.toColumn name)) _ = _
    rw [bind_of_ok (complete_columnParts hparts hrest _ _
      (by rw [List.length_append]; omega) hzero), toColumn_foldl_note hzero]
    rfl

end Parser

end StagedQuery
