import StagedQuery.Proofs.Sql.Positions
import StagedQuery.Proofs.Sql.SyntaxErrors

set_option relaxedAutoImplicit false
set_option autoImplicit false

/-!
# What an error in a clause shows of it

An error in the condition of a statement shows a piece of the text: the clause, from its first token
up to the first one that can stand behind a clause. That one is looked for by its kind alone. So the
piece holds all that has been taken of the condition, unless a column in it is called `ORDER` or
`LIMIT`; then it stops in front of that name.

The errors of all other parsers come from no condition, so such an error is one of the clause.

## Main definitions

* `Quoted` — the piece of a text that is shown of a clause.
* `HasClause` — the clause in the tokens of a statement.
* `Parser.Plain` — a parser whose errors come from no condition.
* `Parser.Parts` — a production in front of the condition, in it and behind it.
* `Parser.FailsAt` — where a condition fails.

## Main results

* `quoted_clauseText` — how far the text of a clause goes.
* `parts_select`, `parts_update`, `parts_delete` — the parts of each production.
* `readStatement_clauseError` — the error of a statement whose clause cannot be read.
-/

namespace StagedQuery

/-! ## Tokens in their text -/

/-- A token ends no earlier than it begins. -/
lemma Token.offset_le_stop (t : Token) : t.place.offset ≤ t.stop := Nat.le_add_right _ _

/-- Each token of a text ends where a later one begins, or in front of it. -/
lemma Lossless.stop_le {text : List Char} {tokens : List Token} (h : Lossless text tokens) :
    tokens.Pairwise fun t u => t.stop ≤ u.place.offset := by
  have : Trans (fun t u : Token => t.stop ≤ u.place.offset)
      (fun t u : Token => t.stop ≤ u.place.offset) fun t u : Token => t.stop ≤ u.place.offset :=
    ⟨fun {_ u _} htu huv => (htu.trans u.offset_le_stop).trans huv⟩
  exact (h.gaps.imp fun _ _ hgap => hgap.1).pairwise

/-- A token of a text that is not its end has a first and a last character, neither of them
blank. -/
lemma exists_ends_of_token {text : String} {tokens : List Token}
    (htokens : tokenize text = .ok tokens) {t : Token} (ht : t ∈ tokens)
    (hkind : t.kind ≠ .finish) :
    t.place.offset < t.stop ∧
      (∃ c, text.toList[t.place.offset]? = some c ∧ isBlank c = false) ∧
      ∃ c, text.toList[t.stop - 1]? = some c ∧ isBlank c = false := by
  obtain ⟨c, word, hcontent, hword⟩ := (isLexeme_or_end htokens t ht).resolve_right
    fun h => hkind (congrArg Prod.fst h)
  have hlexeme : t.lexeme.toList = c :: word := by
    rw [show t.lexeme = _ from hcontent, String.toList_ofList]
  have hlength : t.lexeme.length = word.length + 1 := by
    rw [← String.length_toList, hlexeme, List.length_cons]
  -- the lexeme stands in the text, character by character
  have hslice := ((tokenize_lossless text).1 tokens htokens).lexeme t ht
  have hget : ∀ i, i < t.lexeme.length → text.toList[t.place.offset + i]? = (c :: word)[i]? := by
    intro i hi
    rw [← hlexeme, hslice, List.getElem?_take_of_lt hi, List.getElem?_drop]
  obtain ⟨front, d, hlast⟩ : ∃ front d, c :: word = front ++ [d] :=
    ⟨_, _, (List.dropLast_append_getLast (List.cons_ne_nil c word)).symm⟩
  have hfront : front.length = word.length := by simpa using (congrArg List.length hlast).symm
  refine ⟨by rw [Token.stop]; omega, ⟨c, hget 0 (by omega), hword.not_isBlank_first⟩, d, ?_,
    hword.not_isBlank_last hlast⟩
  have hplace : t.stop - 1 = t.place.offset + word.length := by rw [Token.stop]; omega
  rw [hplace, hget _ (by omega), hlast, ← hfront, List.getElem?_concat_length]

/-! ## The text of a clause -/

/-- Blanks at the end of a text are behind every other character. -/
lemma lt_length_rdropWhile {cs : List Char} : ∀ {i : ℕ} {c : Char}, cs[i]? = some c →
    isBlank c = false → i < (cs.rdropWhile isBlank).length := by
  induction cs using List.reverseRecOn with
  | nil => simp
  | append_singleton cs b ih =>
    intro i c hc hblank
    rw [List.rdropWhile_concat]
    split
    · next hb =>
      rcases Nat.lt_trichotomy i cs.length with hi | rfl | hi
      · exact ih (by rwa [List.getElem?_append_left hi] at hc) hblank
      · rw [List.getElem?_concat_length] at hc
        rw [← Option.some.inj hc, hb] at hblank
        cases hblank
      · rw [List.getElem?_eq_none (by rw [List.length_append]; exact hi)] at hc
        cases hc
    · exact (List.getElem?_eq_some_iff.mp hc).1

/-- A text that does not begin with a blank loses only the blanks at its end. -/
lemma stripBlanks_of_head {cs : List Char} {c : Char} (h : cs[0]? = some c)
    (hblank : isBlank c = false) : stripBlanks cs = cs.rdropWhile isBlank := by
  cases cs with
  | nil => cases h
  | cons d cs =>
    obtain rfl := Option.some.inj h
    rw [stripBlanks, List.dropWhile_cons_of_neg (by simp [hblank]), List.rdropWhile]

/-- What is cut out of a text in front of a place, from a character on that is not blank, loses only
the blanks at its end. -/
lemma excerpt_of_head {text : List Char} {first last : ℕ} {c : Char} (hlt : first < last)
    (hc : text[first]? = some c) (hblank : isBlank c = false) :
    (Parser.excerpt text first last).toList <+: text.drop first ∧
      first + (Parser.excerpt text first last).length ≤ last ∧
      ∀ {i d}, first ≤ i → i < last → text[i]? = some d → isBlank d = false →
        i < first + (Parser.excerpt text first last).length := by
  have hget : ∀ {i}, first ≤ i → i < last →
      ((text.drop first).take (last - first))[i - first]? = text[i]? := by
    intro i hi hi'
    rw [List.getElem?_take_of_lt (by omega), List.getElem?_drop, Nat.add_sub_cancel' hi]
  have hhead := hget le_rfl hlt
  rw [Nat.sub_self] at hhead
  have hpiece : (Parser.excerpt text first last).toList =
      ((text.drop first).take (last - first)).rdropWhile isBlank := by
    rw [Parser.excerpt, String.toList_ofList, stripBlanks_of_head (hhead.trans hc) hblank]
  have hstart := List.rdropWhile_prefix isBlank (l := (text.drop first).take (last - first))
  rw [← String.length_toList, hpiece]
  refine ⟨hstart.trans (List.take_prefix _ _), ?_, fun {i d} hi hi' hd hd' => ?_⟩
  · have hle := hstart.length_le.trans (List.length_take_le _ _)
    omega
  · have hinside := lt_length_rdropWhile ((hget hi hi').trans hd) hd'
    omega

/-- A piece of a text that is shown of a clause. It begins where the first token of the clause
stands, it covers the tokens in front of the first one that can stand behind a clause, and it ends
no later than that one begins. -/
structure Quoted (text : List Char) (clause : List Token) (piece : String) : Prop where
  start : piece.toList <+: text.drop (nextToken clause).place.offset
  covers : ∀ u ∈ clause.takeWhile (!Parser.endsClause ·),
    u.stop ≤ (nextToken clause).place.offset + piece.length
  ends : ∀ u ∈ clause.dropWhile (!Parser.endsClause ·),
    (nextToken clause).place.offset + piece.length ≤ u.place.offset

/-- The text of a clause is cut out up to the first token that can stand behind a clause. -/
lemma exists_clauseText (source : List Char) {clause : List Token} (hended : Ended clause) :
    ∃ shown last more, clause = shown ++ last :: more ∧ Proper shown ∧
      clause.takeWhile (!Parser.endsClause ·) = shown ∧
      clause.dropWhile (!Parser.endsClause ·) = last :: more ∧
      Parser.clauseText source clause =
        Parser.excerpt source (nextToken clause).place.offset last.place.offset := by
  obtain ⟨t, ht, hfinish⟩ := hended
  have hsome : (clause.find? Parser.endsClause).isSome :=
    List.find?_isSome.mpr ⟨t, ht, by simp [Parser.endsClause, hfinish]⟩
  obtain ⟨last, hlast⟩ := Option.isSome_iff_exists.mp hsome
  obtain ⟨hends, shown, more, rfl, hshown⟩ := List.find?_eq_some_iff_append.mp hlast
  refine ⟨shown, last, more, rfl, fun u hu hkind => ?_, ?_, ?_, ?_⟩
  · simpa [Parser.endsClause, hkind] using hshown u hu
  · rw [List.takeWhile_append_of_pos hshown, List.takeWhile_cons_of_neg (by simp [hends]),
      List.append_nil]
  · rw [List.dropWhile_append_of_pos hshown, List.dropWhile_cons_of_neg (by simp [hends])]
  · rw [Parser.clauseText, hlast]
    rfl

/-- No token of a text begins in front of the first one. -/
lemma Lossless.head_le {text : List Char} {tokens ts us : List Token} {t : Token}
    (h : Lossless text tokens) (heq : tokens = ts ++ t :: us) :
    ∀ u ∈ t :: us, t.place.offset ≤ u.place.offset := by
  have hincreasing := h.increasing
  rw [heq] at hincreasing
  have hrest := List.pairwise_cons.mp (List.pairwise_append.mp hincreasing).2.1
  intro u hu
  rcases List.mem_cons.mp hu with rfl | hu
  · exact le_rfl
  · exact (hrest.1 u hu).le

/-- **The text of a clause** goes up to the first token that can stand behind a clause. -/
lemma quoted_clauseText {text : String} {tokens front clause : List Token}
    (htokens : tokenize text = .ok tokens) (heq : tokens = front ++ clause)
    (hended : Ended clause) :
    Quoted text.toList clause (Parser.clauseText text.toList clause) := by
  have hlossless := (tokenize_lossless text).1 tokens htokens
  obtain ⟨shown, last, more, rfl, hproper, htake, hdrop, htext⟩ :=
    exists_clauseText text.toList hended
  have hbehind := hlossless.head_le (heq.trans (List.append_assoc front shown _).symm)
  cases shown with
  | nil =>
    have hempty : Parser.clauseText text.toList ([] ++ last :: more) = "" := by
      rw [htext]
      simp [nextToken, Parser.excerpt, stripBlanks]
    rw [hempty]
    refine ⟨by simp, ?_, ?_⟩
    · rw [htake]
      simp
    · rw [hdrop]
      exact hbehind
  | cons first shown =>
    have hbefore : ∀ u ∈ first :: shown, u.stop ≤ last.place.offset := by
      have hpairwise := hlossless.stop_le
      rw [heq] at hpairwise
      have hclause := (List.pairwise_append.mp hpairwise).2.1
      exact fun u hu => (List.pairwise_append.mp hclause).2.2 u hu last List.mem_cons_self
    have hmem : ∀ u ∈ first :: shown, u ∈ tokens := fun u hu =>
      heq ▸ List.mem_append_right front (List.mem_append_left _ hu)
    obtain ⟨hlt, ⟨c, hc, hblank⟩, -⟩ := exists_ends_of_token htokens
      (hmem first List.mem_cons_self) (hproper first List.mem_cons_self)
    obtain ⟨hstart, hle, hcovers⟩ :=
      excerpt_of_head (hlt.trans_le (hbefore first List.mem_cons_self)) hc hblank
    rw [htext]
    refine ⟨hstart, ?_, ?_⟩
    · rw [htake]
      intro u hu
      obtain ⟨hu', -, d, hd, hblank⟩ := exists_ends_of_token htokens (hmem u hu) (hproper u hu)
      have hfrom := hlossless.head_le heq u (List.mem_append_left _ hu)
      have hto := hbefore u hu
      have hinside := hcovers (i := u.stop - 1) (by omega) (by omega) hd hblank
      show u.stop ≤ first.place.offset + _
      exact Nat.le_of_pred_lt hinside
    · rw [hdrop]
      exact fun u hu => hle.trans (hbehind u hu)

/-- All of the first tokens of a clause are covered if and only if none of them is one that can
stand behind a clause. -/
lemma Quoted.covers_iff {text : List Char} {consumed rest : List Token} {piece : String}
    (h : Quoted text (consumed ++ rest) piece)
    (hlt : ∀ u ∈ consumed, u.place.offset < u.stop) :
    (∀ u ∈ consumed, u.stop ≤ (nextToken (consumed ++ rest)).place.offset + piece.length) ↔
      ∀ u ∈ consumed, Parser.endsClause u = false := by
  constructor
  · intro hcovers u hu
    by_contra hends
    have hmem : u ∈ (consumed ++ rest).takeWhile (!Parser.endsClause ·) ++
        (consumed ++ rest).dropWhile (!Parser.endsClause ·) := by
      rw [List.takeWhile_append_dropWhile]
      exact List.mem_append_left rest hu
    rcases List.mem_append.mp hmem with hshown | hbehind
    · exact hends (by simpa using List.mem_takeWhile_imp hshown)
    · exact absurd (hlt u hu) ((hcovers u hu).trans (h.ends u hbehind)).not_gt
  · intro hnone u hu
    refine h.covers u ?_
    rw [List.takeWhile_append_of_pos fun v hv => by simp [hnone v hv]]
    exact List.mem_append_left _ hu

/-! ## The parts of a statement -/

/-- The parts of a statement in front of its condition. -/
inductive ClauseFront : StatementKind → List Token → Prop
  | select {opening flag cs f n : List Token} {distinct : Bool} {columns : List String}
    {table : String} (hopening : Spelled [.keyword .SELECT] opening)
    (hflag : Flag .DISTINCT [] cs flag distinct) (hcolumns : SelectList cs columns)
    (hfrom : Spelled [.keyword .FROM] f) (htable : Name n table) :
    ClauseFront .select (opening ++ (flag ++ (cs ++ (f ++ n))))
  | update {opening n s rs : List Token} {table : String} {assignments : List (String × Value)}
    (hopening : Spelled [.keyword .UPDATE] opening) (htable : Name n table)
    (hset : Spelled [.keyword .SET] s) (hassign : CommaList Assignment rs assignments) :
    ClauseFront .update (opening ++ (n ++ (s ++ rs)))
  | delete {opening n : List Token} {table : String}
    (hopening : Spelled [.keyword .DELETE, .keyword .FROM] opening) (htable : Name n table) :
    ClauseFront .delete (opening ++ n)

/-- The tokens of a statement of a kind, up to `WHERE`, and those behind it. -/
def HasClause (kind : StatementKind) (tokens clause : List Token) : Prop :=
  ∃ front w, tokens = front ++ w :: clause ∧ ClauseFront kind front ∧ w.kind = .keyword .WHERE

namespace Parser

variable {α β : Type}

/-! ### Parsers whose errors do not come from a condition -/

/-- No error of a parser comes from a condition. -/
def Plain (m : Parser α) : Prop :=
  ∀ (tokens : List Token) (e : SyntaxError) (fault : SyntaxFault),
    m tokens = .error e → e.fault ≠ .inCondition fault

section Plain

variable {m : Parser α} {f : α → Parser β}

/-- A result without a step. -/
lemma plain_pure (a : α) : Plain (pure a : Parser α) := fun _ _ _ h => by cases h

/-- An error that does not come from a condition. -/
lemma plain_throw {e : SyntaxError} (he : ∀ fault, e.fault ≠ .inCondition fault) :
    Plain (throw e : Parser α) := fun _ _ fault h => by
  rw [← Except.error.inj h]
  exact he fault

/-- Two parsers one after the other. -/
lemma Plain.bind (hm : Plain m) (hf : ∀ a, Plain (f a)) : Plain (m >>= f) := by
  intro tokens e fault h
  rcases cases_of_bind_error h with hfirst | ⟨a, rest, -, hsecond⟩
  · exact hm tokens e fault hfirst
  · exact hf a rest e fault hsecond

/-- Two branches. -/
lemma Plain.ite {m' : Parser α} {c : Prop} [Decidable c] (hm : Plain m) (hm' : Plain m') :
    Plain (if c then m else m') := by
  split
  · exact hm
  · exact hm'

/-- Looking at the next token. -/
lemma plain_peek : Plain peek := fun _ _ _ h => by cases h

/-- Taking the next token. -/
lemma plain_advance : Plain advance := fun _ _ _ h => by cases h

/-- Something else is expected. -/
lemma plain_fail (t : Token) (what : String) : Plain (fail t (.expected what) : Parser α) :=
  plain_throw fun _ h => by cases h

/-- An optional token. -/
lemma plain_accept (kind : TokenKind) : Plain (accept kind) :=
  plain_peek.bind fun _ => (plain_advance.bind fun _ => plain_pure true).ite (plain_pure false)

/-- A token of a kind. -/
lemma plain_expect (kind : TokenKind) (what : String) : Plain (expect kind what) :=
  plain_peek.bind fun _ => plain_advance.ite (plain_fail _ _)

/-- A name. -/
lemma plain_name (what : String) : Plain (name what) :=
  plain_peek.bind fun _ => (plain_advance.bind fun _ => plain_pure _).ite (plain_fail _ _)

/-- An unsigned integer. -/
lemma plain_natural (what : String) : Plain (natural what) := by
  refine plain_peek.bind fun t => ?_
  split
  · exact plain_advance.bind fun _ => plain_pure _
  · exact plain_fail _ _

/-- A number behind a sign. -/
lemma plain_signed (sign : Token) (negative : Bool) : Plain (signed sign negative) := by
  refine plain_peek.bind fun t => ?_
  split
  · exact plain_advance.bind fun _ => plain_pure _
  · exact plain_advance.bind fun _ => plain_pure _
  · exact plain_fail _ _

/-- A value. -/
lemma plain_literal : Plain literal := by
  refine plain_peek.bind fun t => ?_
  split
  · exact plain_advance.bind fun _ => plain_signed _ _
  · exact plain_advance.bind fun _ => plain_signed _ _
  · exact plain_advance.bind fun _ => plain_pure _
  · exact plain_advance.bind fun _ => plain_pure _
  · exact plain_advance.bind fun _ => plain_pure _
  · exact plain_advance.bind fun _ => plain_pure _
  · exact plain_advance.bind fun _ => plain_pure _
  · exact plain_fail _ _

/-- Items behind separators. -/
lemma Plain.following (hm : Plain m) (separator : TokenKind) : Plain (following separator m) := by
  have hbound : ∀ bound, Plain (followingUpTo separator m bound) := by
    intro bound
    induction bound with
    | zero => exact plain_pure []
    | succ bound ih =>
      rw [followingUpTo]
      exact (plain_accept _).bind fun _ =>
        (hm.bind fun _ => ih.bind fun _ => plain_pure _).ite (plain_pure [])
  exact fun tokens => hbound tokens.length tokens

/-- Names with commas between them. -/
lemma plain_nameList : Plain nameList :=
  (plain_name _).bind fun _ => ((plain_name _).following _).bind fun _ => plain_pure _

/-- One assignment of an `UPDATE`. -/
lemma plain_assignment : Plain assignment :=
  (plain_name _).bind fun _ => (plain_expect _ _).bind fun _ =>
    plain_literal.bind fun _ => plain_pure _

/-- The columns that a `SELECT` shows. -/
lemma plain_shown : Plain shown :=
  (plain_accept _).bind fun _ => (plain_pure []).ite plain_nameList

/-- The order of a `SELECT`. -/
lemma plain_order : Plain order :=
  (plain_accept _).bind fun _ => ((plain_expect _ _).bind fun _ => (plain_name _).bind fun _ =>
    (plain_accept _).bind fun _ => (plain_pure _).ite <|
      (plain_accept _).bind fun _ => plain_pure _).ite (plain_pure none)

/-- The limit and the offset of a `SELECT`. -/
lemma plain_paging : Plain paging :=
  (plain_accept _).bind fun _ => ((plain_natural _).bind fun _ => (plain_accept _).bind fun _ =>
    ((plain_natural _).bind fun _ => plain_pure _).ite (plain_pure _)).ite (plain_pure _)

/-- The end of a text. -/
lemma plain_finish (source : List Char) : Plain (finish source) :=
  (plain_accept _).bind fun _ => plain_peek.bind fun _ =>
    (plain_pure ()).ite (plain_throw fun _ h => by cases h)

end Plain

/-! ### Errors in the clause of a statement -/

/-- A clause fails where its condition does, and shows its own text. -/
lemma clause_eq_error {source : List Char} {tokens : List Token} {e : SyntaxError} :
    clause source tokens = .error e ↔ ∃ e', orExpr tokens = .error e' ∧
      e = ⟨.inCondition e'.fault, e'.position, some (clauseText source tokens), none⟩ := by
  rw [clause]
  cases hrun : orExpr tokens with
  | ok r => simp
  | error e' => simp [eq_comm]

/-- A production of a kind of statement in three parts: what stands in front of the condition, the
condition, and what stands behind it. -/
structure Parts (kind : StatementKind) (production : List Char → Parser β) (front : Parser α)
    (behind : α → Option Predicate → Parser β) : Prop where
  eq : ∀ source, production source = front >>= fun a => optionalClause source >>= behind a
  sound : ∀ {tokens rest : List Token} {a : α}, front tokens = .ok (a, rest) →
    ∃ ts, tokens = ts ++ rest ∧ ClauseFront kind ts
  complete : ∀ {ts rest : List Token}, ClauseFront kind ts → nextKind rest = .keyword .WHERE →
    ∃ a, front (ts ++ rest) = .ok (a, rest)
  plain_front : Plain front
  plain_behind : ∀ a p, Plain (behind a p)

section Parts

variable {kind : StatementKind} {production : List Char → Parser β} {front : Parser α}
  {behind : α → Option Predicate → Parser β} {source : List Char} {tokens clause : List Token}

/-- A statement whose clause fails is refused with the error of the clause. -/
lemma Parts.whole_eq_error (h : Parts kind production front behind)
    (hclause : HasClause kind tokens clause) {e : SyntaxError}
    (he : Parser.clause source clause = .error e) :
    whole source (production source) tokens = .error e := by
  obtain ⟨ts, w, rfl, hts, hw⟩ := hclause
  have hnext : nextKind (w :: clause) = .keyword .WHERE := hw
  obtain ⟨a, ha⟩ := h.complete hts hnext
  rw [whole, h.eq, bind_assoc, bind_of_ok ha, bind_assoc, optionalClause, bind_assoc]
  refine (bind_accept_of_spelled (spelled_token hw) clause).trans ?_
  rw [if_pos rfl, bind_assoc]
  exact bind_eq_error.mpr (.inl he)

/-- An error behind an optional condition, or in it, that comes from a condition is one of the
clause. -/
lemma exists_of_optionalClause_error {f : Option Predicate → Parser β} (hf : ∀ p, Plain (f p))
    {e : SyntaxError} (he : (optionalClause source >>= f) tokens = .error e) {fault : SyntaxFault}
    (hfault : e.fault = .inCondition fault) :
    ∃ w clause, tokens = w :: clause ∧ w.kind = .keyword .WHERE ∧
      Parser.clause source clause = .error e := by
  rw [optionalClause, bind_assoc] at he
  rcases cases_of_bind_error he with hwhere | ⟨found, middle, hfound, hmore⟩
  · exact absurd hfault (plain_accept _ _ _ _ hwhere)
  rcases accept_eq_ok (by simp) hfound with ⟨rfl, ts, rfl, hts⟩ | ⟨rfl, rfl, -⟩
  · obtain ⟨w, rfl, hw⟩ := spelled_single.mp hts
    rw [if_pos rfl, bind_assoc] at hmore
    rcases cases_of_bind_error hmore with hclause | ⟨p, rest, -, hbehind⟩
    · exact ⟨w, middle, rfl, hw, hclause⟩
    · exact absurd hfault (hf (some p) _ _ _ hbehind)
  · exact absurd hfault (hf none _ _ _ hmore)

/-- An error that comes from a condition is one of the clause. -/
lemma Parts.exists_of_error (h : Parts kind production front behind) {e : SyntaxError}
    (he : whole source (production source) tokens = .error e) {fault : SyntaxFault}
    (hfault : e.fault = .inCondition fault) :
    ∃ clause, HasClause kind tokens clause ∧ Parser.clause source clause = .error e := by
  rw [whole, h.eq, bind_assoc] at he
  rcases cases_of_bind_error he with hfront | ⟨a, rest, ha, hmore⟩
  · exact absurd hfault (h.plain_front _ _ _ hfront)
  obtain ⟨ts, rfl, hts⟩ := h.sound ha
  rw [bind_assoc] at hmore
  have hplain : ∀ p, Plain (behind a p >>= fun b => finish source >>= fun _ => pure b) :=
    fun p => (h.plain_behind a p).bind fun _ => (plain_finish source).bind fun _ => plain_pure _
  obtain ⟨w, clause, rfl, hw, hclause⟩ := exists_of_optionalClause_error hplain hmore hfault
  exact ⟨clause, ⟨ts, w, rfl, hts, hw⟩, hclause⟩

end Parts

/-- The parts of `SELECT`. -/
lemma parts_select : Parts .select select (do
    keyword .SELECT "SELECT"
    let distinct ← flag .DISTINCT (pure ())
    let columns ← shown
    keyword .FROM "FROM"
    let table ← name "table name"
    return (distinct, columns, table)) fun head condition => do
      let orderBy ← order
      let page ← paging
      return ⟨head.2.2, head.2.1, condition, orderBy, page.1, page.2, head.1⟩ where
  eq source := by simp only [select_eq, bind_assoc, pure_bind]
  sound {tokens rest head} h := by
    obtain ⟨_, k, later, rfl, hk, h⟩ := (reads_keyword _ _).exists_of_bind h
    obtain ⟨distinct, d, later, rfl, hd, h⟩ := exists_of_flag [] reads_nothing h
    obtain ⟨columns, cs, later, rfl, hcolumns, h⟩ := reads_shown.exists_of_bind h
    obtain ⟨_, f, later, rfl, hf, h⟩ := (reads_keyword _ _).exists_of_bind h
    obtain ⟨table, n, later, rfl, htable, h⟩ := (reads_name _).exists_of_bind h
    obtain ⟨rfl, rfl⟩ := Prod.mk.inj (Except.ok.inj h)
    exact ⟨k ++ (d ++ (cs ++ (f ++ n))), by simp only [List.append_assoc],
      .select hk (hd.congr (nextKind_append hcolumns.ne_nil _)) hcolumns hf htable⟩
  complete {ts rest} h _ := by
    cases h with | select hk hd hcolumns hf htable => ?_
    simp only [List.append_assoc]
    rw [bind_keyword hk,
      bind_flag reads_nothing (hd.congr (nextKind_append hcolumns.ne_nil _).symm),
      reads_shown.bind_eq hcolumns (by rw [nextKind_of_spelled hf]; simp), bind_keyword hf,
      (reads_name _).bind_eq htable trivial]
    exact ⟨_, rfl⟩
  plain_front := (plain_expect _ _).bind fun _ =>
    Plain.bind ((plain_accept _).bind fun _ =>
      ((plain_pure ()).bind fun _ => plain_pure true).ite (plain_pure false)) fun _ =>
    plain_shown.bind fun _ => (plain_expect _ _).bind fun _ => (plain_name _).bind fun _ =>
      plain_pure _
  plain_behind _ _ := plain_order.bind fun _ => plain_paging.bind fun _ => plain_pure _

/-- The parts of `UPDATE`. -/
lemma parts_update : Parts .update update (do
    keyword .UPDATE "UPDATE"
    let table ← name "table name"
    keyword .SET "SET"
    let assignments ← separated assignment
    return (table, assignments)) fun head condition =>
      return ⟨head.1, head.2, condition⟩ where
  eq source := by simp only [update, bind_assoc, pure_bind]
  sound {tokens rest head} h := by
    obtain ⟨_, k, later, rfl, hk, h⟩ := (reads_keyword _ _).exists_of_bind h
    obtain ⟨table, n, later, rfl, htable, h⟩ := (reads_name _).exists_of_bind h
    obtain ⟨_, t, later, rfl, ht, h⟩ := (reads_keyword _ _).exists_of_bind h
    obtain ⟨assignments, rs, later, rfl, hassign, h⟩ :=
      (reads_assignment.separated trivial).exists_of_bind h
    obtain ⟨rfl, rfl⟩ := Prod.mk.inj (Except.ok.inj h)
    exact ⟨k ++ (n ++ (t ++ rs)), by simp only [List.append_assoc], .update hk htable ht hassign⟩
  complete {ts rest} h hrest := by
    cases h with | update hk htable ht hassign => ?_
    simp only [List.append_assoc]
    rw [bind_keyword hk, (reads_name _).bind_eq htable trivial, bind_keyword ht,
      (reads_assignment.separated trivial).bind_eq hassign ⟨by simp [hrest], trivial⟩]
    exact ⟨_, rfl⟩
  plain_front := (plain_expect _ _).bind fun _ => (plain_name _).bind fun _ =>
    (plain_expect _ _).bind fun _ => Plain.bind (plain_assignment.bind fun _ =>
      (plain_assignment.following _).bind fun _ => plain_pure _) fun _ => plain_pure _
  plain_behind _ _ := plain_pure _

/-- The parts of `DELETE`. -/
lemma parts_delete : Parts .delete delete (do
    keyword .DELETE "DELETE"
    keyword .FROM "FROM after DELETE"
    name "table name") fun table condition => return ⟨table, condition⟩ where
  eq source := by simp only [delete, bind_assoc]
  sound {tokens rest table} h := by
    obtain ⟨_, k, later, rfl, hk, h⟩ := (reads_keyword _ _).exists_of_bind h
    obtain ⟨_, f, later, rfl, hf, h⟩ := (reads_keyword _ _).exists_of_bind h
    obtain ⟨n, rfl, htable⟩ := (reads_name _).sound h
    exact ⟨(k ++ f) ++ n, by simp only [List.append_assoc], .delete (spelled_append hk hf) htable⟩
  complete {ts rest} h _ := by
    cases h with | delete hopening htable => ?_
    obtain ⟨k, f, rfl, hk, hf⟩ := exists_of_spelled hopening
    simp only [List.append_assoc]
    rw [bind_keyword hk, bind_keyword hf]
    exact ⟨_, (reads_name _).complete htable trivial⟩
  plain_front := (plain_expect _ _).bind fun _ => (plain_expect _ _).bind fun _ => plain_name _
  plain_behind _ _ := plain_pure _

/-- The condition at the front of tokens fails at a token, behind others that have been taken. These
are the front of a condition, and with the next token they are not. -/
structure FailsAt (clause consumed : List Token) (t : Token) : Prop where
  split : ∃ rest, clause = consumed ++ t :: rest
  viable : Viable (Condition .orExpr) consumed
  dead : ∀ rest, Ended (t :: rest) → ∃ e, orExpr (consumed ++ t :: rest) = .error e

/-- Where a condition fails. -/
lemma exists_failsAt {clause : List Token} (hended : Ended clause) {e : SyntaxError}
    (he : orExpr clause = .error e) :
    ∃ consumed t, FailsAt clause consumed t ∧ e.position = some t.place.position := by
  obtain ⟨consumed, rest, rfl, hrest, hposition, hviable, hdead⟩ :=
    (prompt_orExpr.on clause hended le_rfl).error he
  obtain ⟨t, later, rfl⟩ := List.exists_cons_of_ne_nil hrest.ne_nil
  exact ⟨consumed, t, ⟨⟨later, rfl⟩, hviable, fun rest' hended' => hdead _ hended' rfl⟩, hposition⟩

end Parser

/-- A clause goes up to the end of the text. -/
lemma HasClause.ended {kind : StatementKind} {text : String} {tokens clause : List Token}
    (h : HasClause kind tokens clause) (htokens : tokenize text = .ok tokens) : Ended clause := by
  obtain ⟨body, last, rfl, hlast, -⟩ := exists_of_tokenize htokens
  obtain ⟨ts, w, heq, -, hw⟩ := h
  rcases List.eq_nil_or_concat clause with rfl | ⟨more, t, rfl⟩
  · have hsame := (List.append_inj' heq rfl).2
    rw [List.cons.inj hsame |>.1, hw] at hlast
    cases hlast
  · rw [List.concat_eq_append, ← List.cons_append, ← List.append_assoc] at heq
    obtain rfl := List.singleton_inj.mp (List.append_inj' heq rfl).2
    exact ⟨last, by simp, hlast⟩

/-- The kinds of statements that can have a condition, in three parts each. -/
lemma StatementKind.exists_parts {kind : StatementKind}
    (hkind : kind ∈ [StatementKind.select, .update, .delete]) :
    ∃ (α β : Type) (production : List Char → Parser β) (front : Parser α)
      (behind : α → Option Predicate → Parser β) (wrap : β → Statement),
      (∀ text, readStatement kind text = (readWith kind production text).map wrap) ∧
        Parser.Parts kind production front behind := by
  simp only [List.mem_cons, List.not_mem_nil, or_false] at hkind
  rcases hkind with rfl | rfl | rfl
  · exact ⟨_, _, _, _, _, .select, fun _ => rfl, Parser.parts_select⟩
  · exact ⟨_, _, _, _, _, .update, fun _ => rfl, Parser.parts_update⟩
  · exact ⟨_, _, _, _, _, .delete, fun _ => rfl, Parser.parts_delete⟩

/-- **An error in a clause shows the clause up to the first `ORDER` or `LIMIT` in it.** Let a text
have tokens. If its error as a `SELECT`, an `UPDATE` or a `DELETE` comes from a condition, then a
clause stands in it that cannot be read. Where such a clause stands, the error is at the token at
which the condition fails. It shows a piece of the text that begins where the clause does and goes
up to the first token that can stand behind a clause. This piece covers all that has been taken of
the condition if and only if no such token is among that, as a column called `ORDER` or `LIMIT`
is. -/
theorem readStatement_clauseError {kind : StatementKind}
    (hkind : kind ∈ [StatementKind.select, .update, .delete]) {text : String} {tokens : List Token}
    (htokens : tokenize text = .ok tokens) :
    (∀ e fault, readStatement kind text = .error (.malformed e) →
      e.fault = .inStatement kind (.inCondition fault) →
      ∃ clause e', HasClause kind tokens clause ∧ Parser.orExpr clause = .error e') ∧
    ∀ clause e', HasClause kind tokens clause → Parser.orExpr clause = .error e' →
      ∃ consumed t piece, Parser.FailsAt clause consumed t ∧
        readStatement kind text = .error (.malformed ⟨.inStatement kind (.inCondition e'.fault),
          some t.place.position, some piece, some kind⟩) ∧
        Quoted text.toList clause piece ∧
        ((∀ u ∈ consumed, u.stop ≤ (nextToken clause).place.offset + piece.length) ↔
          ∀ u ∈ consumed, Parser.endsClause u = false) := by
  obtain ⟨α, β, production, front, behind, wrap, hread, hparts⟩ := StatementKind.exists_parts hkind
  constructor
  · intro e fault he hfault
    obtain ⟨e', he', rfl⟩ := (readWith_eq_error htokens).mp
      (map_eq_error.mp ((hread text).symm.trans he))
    obtain ⟨-, hfault'⟩ := SyntaxFault.inStatement.inj hfault
    obtain ⟨clause, hclause, hrun⟩ := hparts.exists_of_error he' hfault'
    obtain ⟨e'', he'', -⟩ := Parser.clause_eq_error.mp hrun
    exact ⟨clause, e'', hclause, he''⟩
  · intro clause e' hclause he'
    obtain ⟨ts, w, heq, hts, hw⟩ := id hclause
    have hended := hclause.ended htokens
    obtain ⟨consumed, t, hfails, hposition⟩ := Parser.exists_failsAt hended he'
    obtain ⟨⟨rest, hsplit⟩, hviable, -⟩ := id hfails
    have hquoted := quoted_clauseText htokens
      (heq.trans (List.append_cons ts w clause)) hended
    refine ⟨consumed, t, _, hfails, ?_, hquoted, ?_⟩
    · rw [hread, map_eq_error, readWith_eq_error htokens]
      refine ⟨_, hparts.whole_eq_error hclause (Parser.clause_eq_error.mpr ⟨e', he', rfl⟩), ?_⟩
      rw [← hposition]
      rfl
    · subst hsplit
      refine hquoted.covers_iff fun u hu => ?_
      have hproper : Proper consumed := hviable.proper fun _ _ => Condition.proper
      refine (exists_ends_of_token htokens ?_ (hproper u hu)).1
      rw [heq]
      exact List.mem_append_right ts (List.mem_cons_of_mem w (List.mem_append_left _ hu))

/-- A clause in front of `LIMIT` is shown up to there. -/
theorem readStatement_clauseError_select :
    ∃ tokens clause consumed t, tokenize "SELECT * FROM t WHERE age >> 3 LIMIT 1" = .ok tokens ∧
      HasClause .select tokens clause ∧ Parser.FailsAt clause consumed t ∧
      readStatement .select "SELECT * FROM t WHERE age >> 3 LIMIT 1" = .error (.malformed
        ⟨.inStatement .select (.inCondition (.expected "a value")), some t.place.position,
          some "age >> 3", some .select⟩) ∧
      Quoted "SELECT * FROM t WHERE age >> 3 LIMIT 1".toList clause "age >> 3" ∧
      ((∀ u ∈ consumed, u.stop ≤ (nextToken clause).place.offset + "age >> 3".length) ↔
        ∀ u ∈ consumed, Parser.endsClause u = false) := by
  have hsome : (tokenize "SELECT * FROM t WHERE age >> 3 LIMIT 1").toOption.isSome = true := by
    decide +kernel
  have hunread :
      (readStatement .select "SELECT * FROM t WHERE age >> 3 LIMIT 1").map (fun _ => ()) =
        .error (.malformed ⟨.inStatement .select (.inCondition (.expected "a value")),
          some ⟨1, 28⟩, some "age >> 3", some .select⟩) := by decide +kernel
  obtain ⟨tokens, htokens⟩ := Option.isSome_iff_exists.mp hsome
  rw [toOption_eq_some] at htokens
  have herror := map_eq_error.mp hunread
  have hkind : StatementKind.select ∈ [StatementKind.select, .update, .delete] := by decide
  obtain ⟨hfrom, hto⟩ := readStatement_clauseError hkind htokens
  obtain ⟨clause, e', hclause, he'⟩ := hfrom _ _ herror rfl
  obtain ⟨consumed, t, piece, hfails, hrun, hquoted, hcovers⟩ := hto clause e' hclause he'
  obtain ⟨hfault, -, hpiece, -⟩ := SyntaxError.mk.inj
    (ReadError.malformed.inj (Except.error.inj (hrun.symm.trans herror)))
  obtain rfl := Option.some.inj hpiece
  rw [hfault] at hrun
  exact ⟨tokens, clause, consumed, t, htokens, hclause, hfails, hrun, hquoted, hcovers⟩

/-- Of a clause that begins with a column called `LIMIT` nothing is shown, not even that column,
although the condition fails only behind it. -/
theorem readStatement_clauseError_limit :
    ∃ tokens clause consumed t, tokenize "DELETE FROM t WHERE limit = = 5" = .ok tokens ∧
      HasClause .delete tokens clause ∧ Parser.FailsAt clause consumed t ∧
      readStatement .delete "DELETE FROM t WHERE limit = = 5" = .error (.malformed
        ⟨.inStatement .delete (.inCondition (.expected "a value")), some t.place.position,
          some "", some .delete⟩) ∧
      ∃ u ∈ consumed, (nextToken clause).place.offset + "".length < u.stop := by
  have hunread : (readStatement .delete "DELETE FROM t WHERE limit = = 5").map (fun _ => ()) =
      .error (.malformed ⟨.inStatement .delete (.inCondition (.expected "a value")),
        some ⟨1, 29⟩, some "", some .delete⟩) := by decide +kernel
  obtain ⟨clause, hclause⟩ : ∃ clause : List Token, clause =
      [⟨.keyword .LIMIT, "limit", ⟨⟨1, 21⟩, 20⟩⟩, ⟨.relation .equal, "=", ⟨⟨1, 27⟩, 26⟩⟩,
        ⟨.relation .equal, "=", ⟨⟨1, 29⟩, 28⟩⟩, ⟨.integer 5, "5", ⟨⟨1, 31⟩, 30⟩⟩,
        ⟨.finish, "", ⟨⟨1, 32⟩, 31⟩⟩] := ⟨_, rfl⟩
  obtain ⟨tokens, htokens, hhas⟩ :
      ∃ tokens, tokenize "DELETE FROM t WHERE limit = = 5" = .ok tokens ∧
        HasClause .delete tokens clause := by
    refine ⟨[⟨.keyword .DELETE, "DELETE", ⟨⟨1, 1⟩, 0⟩⟩, ⟨.keyword .FROM, "FROM", ⟨⟨1, 8⟩, 7⟩⟩] ++
      [⟨.name, "t", ⟨⟨1, 13⟩, 12⟩⟩] ++ ⟨.keyword .WHERE, "WHERE", ⟨⟨1, 15⟩, 14⟩⟩ :: clause, ?_,
      _, _, rfl, .delete (by exact rfl) (.intro rfl), rfl⟩
    rw [hclause]
    decide +kernel
  have hfails : (Parser.orExpr clause).map (fun _ => ()) =
      .error ⟨.expected "a value", some ⟨1, 29⟩, some "=", none⟩ := by
    rw [hclause]
    decide +kernel
  obtain ⟨consumed, t, hfailsAt, hposition⟩ :=
    Parser.exists_failsAt (hhas.ended htokens) (map_eq_error.mp hfails)
  refine ⟨tokens, clause, consumed, t, htokens, hhas, hfailsAt, ?_, ?_⟩
  · rw [← hposition]
    exact map_eq_error.mp hunread
  · obtain ⟨⟨rest, hsplit⟩, -, -⟩ := hfailsAt
    rw [hclause] at hsplit
    cases consumed with
    | nil =>
      rw [← (List.cons.inj hsplit).1] at hposition
      simp at hposition
    | cons u consumed =>
      refine ⟨u, List.mem_cons_self, ?_⟩
      rw [← (List.cons.inj hsplit).1, hclause]
      decide

end StagedQuery
