import StagedQuery.Proofs.Sql.Statements

set_option relaxedAutoImplicit false
set_option autoImplicit false

/-!
# The bounds of the parser do not matter

The parser repeats and nests only as often as there are tokens left. Each round takes a token, so
no round is ever lacking: repetitions, nested groups and the parts of a column satisfy the equations
that they would satisfy without bounds. For the parts of a column this takes the token that ends the
text, which no part takes.

## Main definitions

* `Ended` — tokens among which is one that ends a text.
* `Parser.single` — a single condition, with as many nested groups as there are tokens.
* `Parser.columnStep` — one round of the parts of a column.
* `Parser.columnRest` — the parts of a column, as many as there are tokens.

## Main results

* `following_eq`, `single_eq`, `orExpr_eq`, `columnRest_eq` — the equations without bounds.
-/

namespace StagedQuery

/-- Tokens among which is one that ends a text. -/
def Ended (tokens : List Token) : Prop := ∃ t ∈ tokens, t.kind = .finish

/-- What follows tokens that do not end the text still has an end. -/
lemma Ended.of_append {ts rest : List Token} (h : Ended (ts ++ rest)) (hts : Proper ts) :
    Ended rest := by
  obtain ⟨t, ht, hkind⟩ := h
  rcases List.mem_append.mp ht with ht | ht
  · exact absurd hkind (hts t ht)
  · exact ⟨t, ht, hkind⟩

/-- Tokens with an end have one with others in front. -/
lemma Ended.append {rest : List Token} (h : Ended rest) (ts : List Token) : Ended (ts ++ rest) := by
  obtain ⟨t, ht, hkind⟩ := h
  exact ⟨t, List.mem_append_right ts ht, hkind⟩

/-- There is a token to end with. -/
lemma Ended.ne_nil {tokens : List Token} (h : Ended tokens) : tokens ≠ [] := by
  rintro rfl
  obtain ⟨t, ht, -⟩ := h
  cases ht

/-- There is a token at least. -/
lemma Ended.length_pos {tokens : List Token} (h : Ended tokens) : 0 < tokens.length :=
  List.length_pos_of_ne_nil h.ne_nil

namespace Parser

variable {α β : Type}

/-- Two parsers one after the other depend on the second one only where the first one ends. -/
lemma bind_congr_of_ok {m m' : Parser α} {f g : α → Parser β} {tokens : List Token}
    (hm : m tokens = m' tokens) (h : ∀ a rest, m tokens = .ok (a, rest) → f a rest = g a rest) :
    (m >>= f) tokens = (m' >>= g) tokens := by
  show (m tokens >>= fun r => f r.1 r.2) = (m' tokens >>= fun r => g r.1 r.2)
  rw [← hm]
  cases hrun : m tokens with
  | error e => rfl
  | ok r => exact h r.1 r.2 hrun

/-- A parser of phrases leaves no more tokens than there were. -/
lemma Reads.length_le {m : Parser α} {phrase : Phrase α} {follow : TokenKind → Prop}
    (hm : Reads m phrase follow) {tokens rest : List Token} {a : α}
    (h : m tokens = .ok (a, rest)) : rest.length ≤ tokens.length := by
  obtain ⟨ts, rfl, -⟩ := hm.sound h
  simp

/-- An optional token that is there is taken; nothing else is. -/
lemma length_of_accept {kind : TokenKind} (hkind : kind ≠ .finish) {tokens rest : List Token}
    (h : accept kind tokens = .ok (true, rest)) : tokens.length = rest.length + 1 := by
  rcases accept_eq_ok hkind h with ⟨-, ts, rfl, hts⟩ | ⟨hfalse, -⟩
  · obtain ⟨t, rfl, -⟩ := spelled_single.mp hts
    simp
  · cases hfalse

/-! ## Repetition -/

section Following

variable {item item' : Parser α} {phrase : Phrase α} {follow : TokenKind → Prop}
  {separator : TokenKind}

/-- Repetitions with bounds that are large enough agree if their items do. -/
lemma followingUpTo_congr (hitem : Reads item phrase follow) (hsep : separator ≠ .finish) (n : ℕ) :
    ∀ (n' : ℕ) (tokens : List Token), tokens.length ≤ n → tokens.length ≤ n' →
      (∀ us : List Token, us.length ≤ tokens.length → item us = item' us) →
      followingUpTo separator item n tokens = followingUpTo separator item' n' tokens := by
  have hnil : ∀ (item : Parser α) (n : ℕ), followingUpTo separator item n [] = .ok ([], []) := by
    intro item n
    cases n with
    | zero => rfl
    | succ n =>
      rw [followingUpTo, bind_accept_of_ne (Ne.symm hsep), if_neg (by decide)]
      rfl
  induction n with
  | zero =>
    intro n' tokens hn _ _
    obtain rfl : tokens = [] := List.length_eq_zero_iff.mp (Nat.le_zero.mp hn)
    rw [hnil, hnil]
  | succ n ih =>
    intro n' tokens hn hn' h
    cases n' with
    | zero =>
      obtain rfl : tokens = [] := List.length_eq_zero_iff.mp (Nat.le_zero.mp hn')
      rw [hnil, hnil]
    | succ n' =>
      rw [followingUpTo, followingUpTo]
      refine bind_congr_of_ok rfl fun found rest hfound => ?_
      cases found with
      | false => rfl
      | true =>
        have hlength := length_of_accept hsep hfound
        rw [if_pos rfl, if_pos rfl]
        refine bind_congr_of_ok (h rest (by omega)) fun a later ha => ?_
        have hlater := hitem.length_le ha
        exact bind_congr_of_ok (ih n' later (by omega) (by omega) fun us hus => h us (by omega))
          fun _ _ _ => rfl

/-- Repetitions agree if their items do. -/
lemma following_congr (hitem : Reads item phrase follow) (hsep : separator ≠ .finish)
    {tokens : List Token} (h : ∀ us : List Token, us.length ≤ tokens.length → item us = item' us) :
    following separator item tokens = following separator item' tokens :=
  followingUpTo_congr hitem hsep _ _ _ le_rfl le_rfl h

/-- **A repetition without a bound**: as long as there is a separator, an item and the rest of the
repetition follow it. -/
lemma following_eq (hitem : Reads item phrase follow) (hsep : separator ≠ .finish) :
    following separator item = (do
      if ← accept separator then
        let x ← item
        let xs ← following separator item
        return x :: xs
      else
        return []) := by
  funext tokens
  have hbound : following separator item tokens =
      followingUpTo separator item (tokens.length + 1) tokens :=
    followingUpTo_congr hitem hsep _ _ _ le_rfl (by omega) fun _ _ => rfl
  rw [hbound, followingUpTo]
  refine bind_congr_of_ok rfl fun found rest hfound => ?_
  cases found with
  | false => rfl
  | true =>
    have hlength := length_of_accept hsep hfound
    rw [if_pos rfl, if_pos rfl]
    refine bind_congr_of_ok rfl fun a later ha => ?_
    have hlater := hitem.length_le ha
    have hrest : followingUpTo separator item tokens.length later =
        following separator item later :=
      followingUpTo_congr hitem hsep _ _ _ (by omega) le_rfl fun _ _ => rfl
    exact bind_congr_of_ok hrest fun _ _ _ => rfl

end Following

/-! ## Conditions -/

section Chain

variable {item item' : Parser Predicate} {phrase : Phrase Predicate} {follow : TokenKind → Prop}

/-- Chains agree if their items do. -/
lemma chain_congr (hitem : Reads item phrase follow) {k : Keyword}
    {join : Predicate → Predicate → Predicate} {tokens : List Token}
    (h : ∀ us : List Token, us.length ≤ tokens.length → item us = item' us) :
    chain k join item tokens = chain k join item' tokens := by
  refine bind_congr_of_ok (h tokens le_rfl) fun p rest hp => ?_
  have hrest := hitem.length_le hp
  exact bind_congr_of_ok (following_congr hitem (by simp) fun us hus => h us (by omega))
    fun _ _ _ => rfl

/-- Alternatives of conjunctions agree if their items do. -/
lemma alternatives_congr (hitem : Reads item phrase anything) {tokens : List Token}
    (h : ∀ us : List Token, us.length ≤ tokens.length → item us = item' us) :
    alternatives item tokens = alternatives item' tokens :=
  chain_congr (hitem.chain trivial) fun _ hus =>
    chain_congr hitem fun vs hvs => h vs (hvs.trans hus)

end Chain

/-- A single condition with as many nested groups as there are tokens. -/
def single : Parser Predicate := fun tokens => condition tokens.length tokens

/-- Nothing is a group. -/
lemma condition_nil (n : ℕ) : condition n [] = leaf [] := by
  cases n with
  | zero => rfl
  | succ n =>
    rw [condition, bind_accept_of_ne (by simp [nextKind, Token.finish]), if_neg (by decide)]

/-- Single conditions with bounds that are large enough agree. -/
lemma condition_congr (n : ℕ) : ∀ (n' : ℕ) (tokens : List Token), tokens.length ≤ n →
    tokens.length ≤ n' → condition n tokens = condition n' tokens := by
  induction n with
  | zero =>
    intro n' tokens hn _
    obtain rfl : tokens = [] := List.length_eq_zero_iff.mp (Nat.le_zero.mp hn)
    rw [condition_nil, condition_nil]
  | succ n ih =>
    intro n' tokens hn hn'
    cases n' with
    | zero =>
      obtain rfl : tokens = [] := List.length_eq_zero_iff.mp (Nat.le_zero.mp hn')
      rw [condition_nil, condition_nil]
    | succ n' =>
      rw [condition, condition]
      refine bind_congr_of_ok rfl fun found rest hfound => ?_
      cases found with
      | false => rw [if_neg Bool.false_ne_true, if_neg Bool.false_ne_true]
      | true =>
        have hlength := length_of_accept (by simp) hfound
        have hgroup : alternatives (condition n) rest = alternatives (condition n') rest :=
          alternatives_congr (reads_condition n) fun us hus => ih n' us (by omega) (by omega)
        rw [if_pos rfl, if_pos rfl]
        exact bind_congr_of_ok hgroup fun _ _ _ => rfl

/-- **A single condition without a bound.** -/
lemma single_eq : single = (do
    if ← accept (.mark .openParen) then
      let inner ← alternatives single
      mark .closeParen "')' to close group"
      return inner
    else
      leaf) := by
  funext tokens
  rw [single, condition_congr tokens.length (tokens.length + 1) tokens le_rfl (by omega), condition]
  refine bind_congr_of_ok rfl fun found rest hfound => ?_
  cases found with
  | false => rw [if_neg Bool.false_ne_true, if_neg Bool.false_ne_true]
  | true =>
    have hlength := length_of_accept (by simp) hfound
    have hgroup : alternatives (condition tokens.length) rest = alternatives single rest :=
      alternatives_congr (reads_condition tokens.length) fun us hus =>
        condition_congr _ us.length us (by omega) le_rfl
    rw [if_pos rfl, if_pos rfl]
    exact bind_congr_of_ok hgroup fun _ _ _ => rfl

/-- **Conditions are alternatives of single ones.** -/
lemma orExpr_eq : orExpr = alternatives single := by
  funext tokens
  exact alternatives_congr (reads_condition tokens.length) fun us hus =>
    condition_congr _ us.length us hus le_rfl

/-- A single condition is read as the grammar has it. -/
lemma reads_single : Reads single (Condition .test) anything where
  sound {tokens rest p} h := by
    obtain ⟨ts, hts, hp⟩ := (reads_condition tokens.length).sound h
    exact ⟨ts, hts, hp.condition⟩
  complete {ts rest p} h hnext :=
    (reads_condition _).complete (h.nested (ts ++ rest).length (by simp)) hnext

/-! ## The parts of a column -/

/-- One round of the parts of a column: one part and what is read behind it, or the end of the
parts. -/
def columnStep (column : String) (more : ColumnDraft → Parser ColumnDraft) (d : ColumnDraft) :
    Parser ColumnDraft := do
  let t ← peek
  match columnType? t with
  | some typeName =>
    if d.typeName.isSome then
      throw ⟨.severalTypes column, some t.place.position, some t.lexeme, none⟩
    else
      advance
      more (d.note (.typed typeName))
  | none =>
    if ← accept (.keyword .PRIMARY) then
      keyword .KEY ("KEY after PRIMARY in column '" ++ column ++ "'")
      more (d.note .primaryKey)
    else if ← accept (.keyword .NOT) then
      expect .null ("NULL after NOT in column '" ++ column ++ "'")
      more (d.note .notNull)
    else if ← accept (.keyword .DEFAULT) then
      let value ← literal
      more (d.note (.fallback value))
    else if t.kind = .mark .comma ∨ t.kind = .mark .closeParen then
      return d
    else
      fail t (.unknownWord column)

/-- One more part than a bound admits is one round. -/
lemma columnParts_succ (column : String) (bound : ℕ) :
    columnParts column (bound + 1) = columnStep column (columnParts column bound) := rfl

section Rounds

variable {more more' : ColumnDraft → Parser ColumnDraft} {tokens : List Token}

/-- Behind a part of a column there are fewer tokens, and among them the end of the text. -/
lemma more_congr (hended : Ended tokens)
    (h : ∀ d us, Ended us → us.length < tokens.length → more d us = more' d us)
    {ts rest : List Token} {fact : ColumnFact} (heq : tokens = ts ++ rest)
    (hpart : ColumnPart ts fact) (d : ColumnDraft) : more d rest = more' d rest := by
  have hlength := length_pos_of_part hpart
  subst heq
  exact h d rest (hended.of_append hpart.proper) (by rw [List.length_append]; omega)

/-- A keyword and what is read with it make a part of a column, behind which the parsers agree. -/
lemma bind_congr_of_part {item : Parser α} {phrase : Phrase α} {follow : TokenKind → Prop}
    (hitem : Reads item phrase follow) (hended : Ended tokens)
    (h : ∀ d us, Ended us → us.length < tokens.length → more d us = more' d us)
    {ts rest : List Token} (heq : tokens = ts ++ rest) (fact : α → ColumnFact)
    (hpart : ∀ {us a}, phrase us a → ColumnPart (ts ++ us) (fact a)) (d : ColumnDraft) :
    (item >>= fun a => more (d.note (fact a))) rest =
      (item >>= fun a => more' (d.note (fact a))) rest := by
  refine bind_congr_of_ok rfl fun a later ha => ?_
  obtain ⟨us, rfl, hus⟩ := hitem.sound ha
  rw [← List.append_assoc] at heq
  exact more_congr hended h heq (hpart hus) (d.note (fact a))

/-- Rounds agree if what is read behind the part does. -/
lemma columnStep_congr {column : String} (hended : Ended tokens)
    (h : ∀ d us, Ended us → us.length < tokens.length → more d us = more' d us) (d : ColumnDraft) :
    columnStep column more d tokens = columnStep column more' d tokens := by
  rw [columnStep, columnStep, bind_peek, bind_peek]
  cases htype : columnType? (tokens.headD Token.finish) with
  | some typeName =>
    dsimp only
    split
    · rfl
    · obtain ⟨hname, hmem, -⟩ := columnType?_eq_some.mp htype
      have hnext : nextKind tokens ≠ .finish := by
        rw [nextKind, hname]
        simp
      obtain ⟨t, us, rfl, -⟩ := exists_cons_of_next hnext
      have hfront : t :: us = [t] ++ us := rfl
      exact more_congr hended h hfront (.typed hname hmem) _
  | none =>
    dsimp only
    refine bind_congr_of_ok rfl fun found rest hfound => ?_
    rcases accept_eq_ok (by simp) hfound with ⟨rfl, ts, heq, hts⟩ | ⟨rfl, rfl, -⟩
    · rw [if_pos rfl, if_pos rfl]
      exact bind_congr_of_part (reads_keyword _ _) hended h heq (fun _ => .primaryKey)
        (fun hkey => .primaryKey (spelled_append hts hkey)) d
    rw [if_neg Bool.false_ne_true, if_neg Bool.false_ne_true]
    refine bind_congr_of_ok rfl fun found rest' hfound => ?_
    rcases accept_eq_ok (by simp) hfound with ⟨rfl, ts, heq, hts⟩ | ⟨rfl, rfl, -⟩
    · rw [if_pos rfl, if_pos rfl]
      exact bind_congr_of_part (reads_expect (by simp) _) hended h heq (fun _ => .notNull)
        (fun hnull => .notNull (spelled_append hts hnull)) d
    rw [if_neg Bool.false_ne_true, if_neg Bool.false_ne_true]
    refine bind_congr_of_ok rfl fun found rest' hfound => ?_
    rcases accept_eq_ok (by simp) hfound with ⟨rfl, ts, heq, hts⟩ | ⟨rfl, rfl, -⟩
    · rw [if_pos rfl, if_pos rfl]
      exact bind_congr_of_part reads_literal hended h heq .fallback
        (fun hvalue => .fallback hts hvalue) d
    · rfl

end Rounds

/-- The parts of a column, as many as there are tokens. -/
def columnRest (column : String) (d : ColumnDraft) : Parser ColumnDraft := fun tokens =>
  columnParts column tokens.length d tokens

/-- The parts of a column with bounds that are large enough agree. -/
lemma columnParts_congr {column : String} (n : ℕ) : ∀ (n' : ℕ) (tokens : List Token)
    (d : ColumnDraft), Ended tokens → tokens.length ≤ n → tokens.length ≤ n' →
      columnParts column n d tokens = columnParts column n' d tokens := by
  induction n with
  | zero =>
    intro n' tokens d hended hn _
    exact absurd hended.length_pos (by omega)
  | succ n ih =>
    intro n' tokens d hended hn hn'
    cases n' with
    | zero => exact absurd hended.length_pos (by omega)
    | succ n' =>
      rw [columnParts_succ, columnParts_succ]
      exact columnStep_congr hended (fun d us hus hlength => ih n' us d hus (by omega) (by omega)) d

/-- **The parts of a column without a bound.** -/
lemma columnRest_eq {column : String} {d : ColumnDraft} {tokens : List Token}
    (h : Ended tokens) :
    columnRest column d tokens = columnStep column (columnRest column) d tokens := by
  rw [columnRest, columnParts_congr tokens.length (tokens.length + 1) tokens d h le_rfl (by omega),
    columnParts_succ]
  exact columnStep_congr h
    (fun d us hus hlength => columnParts_congr _ _ us d hus (by omega) le_rfl) d

/-- A column is a name and the parts behind it. -/
lemma column_eq : column = (do
    let columnName ← name "column name"
    let draft ← columnRest columnName ⟨none, false, false, .null⟩
    return draft.toColumn columnName) := rfl

end Parser

end StagedQuery
