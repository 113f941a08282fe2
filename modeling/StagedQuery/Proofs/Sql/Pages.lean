import StagedQuery.Proofs.Database.Run
import StagedQuery.Proofs.Sql.Contents
import StagedQuery.Proofs.Sql.Layout

set_option relaxedAutoImplicit false
set_option autoImplicit false

/-!
# Texts with a page behind them

A text that is read as a `SELECT` without `LIMIT` and `OFFSET` can have the two written behind it.
It is read as the same statement with that limit and that offset, unless the text ends with a
semicolon.

## Main definitions

* `pageText` — a text with a limit and an offset behind it.

## Main results

* `Lexed.append_blank` — two texts with a blank between them have the tokens of both.
* `Statement.ofText?_pageText` — what a text with a page behind it is read as.
-/

namespace StagedQuery

/-! ## Texts behind texts -/

/-- **A token stays** when more is written behind the text, if that begins with a blank. -/
lemma Lexeme.append_blank {c : Char} {word rest more : List Char} {kind : TokenKind}
    (h : Lexeme c word kind rest) (hmore : BlankAhead more) :
    Lexeme c word kind (rest ++ more) := by
  cases rest with
  | nil => exact h.in_front_of_blank hmore
  | cons first rest =>
    have hhead : ∀ d, (first :: rest ++ more).head? = some d →
        (first :: rest).head? = some d := fun _ => id
    cases h with
    | relation htext hlongest => exact .relation htext fun r d hd => hlongest r d (hhead d hd)
    | mark hchar => exact .mark hchar
    | quoted hquote hclosed => exact .quoted hquote fun hc => hclosed (hhead c hc)
    | integer hc hword hstops hpoint hshort =>
      refine .integer hc hword (fun d hd => hstops d (hhead d hd)) (fun d later heq => ?_) hshort
      obtain ⟨rfl, htail⟩ := List.cons.inj heq
      cases rest with
      | nil =>
        -- the text ends with the point, so what stands behind it is the blank
        have hblank : isBlank d = true := hmore d (by rw [show more = d :: later from htail]; rfl)
        cases hd : isDigit d with
        | false => rfl
        | true =>
          rw [isBlank_of_isWordChar (isWordChar_of_isDigit hd)] at hblank
          cases hblank
      | cons second rest =>
        obtain ⟨rfl, -⟩ := List.cons.inj htail
        exact hpoint second rest rfl
    | decimal hc hwhole hfraction hne hstops =>
      exact .decimal hc hwhole hfraction hne fun d hd => hstops d (hhead d hd)
    | word hc hword hstops => exact .word hc hword fun d hd => hstops d (hhead d hd)

namespace Lexed

variable {cs ds : List Char} {ws vs : List (TokenKind × String)}

/-- **Two texts with a blank between them** have the tokens of the first one and those of the second
one. -/
lemma append_blank (h : Lexed cs ws) (hds : Lexed ds vs) (hblank : BlankAhead ds) :
    Lexed (cs ++ ds) (ws ++ vs) := by
  induction h with
  | nil => exact hds
  | blank hc _ ih => exact .blank hc ih
  | token hword _ ih =>
    rw [List.cons_append, List.append_assoc]
    exact .token (hword.append_blank hblank) ih

/-- The last token of a text is a semicolon only if one stands at its end, but for blanks. -/
lemma exists_semicolon (h : Lexed cs ws) :
    ∀ (ws' : List (TokenKind × String)) (text : String),
      ws = ws' ++ [(.mark .semicolon, text)] →
      ∃ front gap, cs = front ++ ';' :: gap ∧ ∀ c ∈ gap, isBlank c = true := by
  induction h with
  | nil => simp
  | @blank c _ _ _ _ ih =>
    intro ws' text hws
    obtain ⟨front, gap, rfl, hgap⟩ := ih ws' text hws
    exact ⟨c :: front, gap, rfl, hgap⟩
  | @token c word rest kind ws hword hrest ih =>
    intro ws' text hws
    cases ws' with
    | nil =>
      obtain ⟨hw, rfl⟩ := List.cons.inj hws
      obtain ⟨rfl, rfl⟩ := hword.of_semicolon (Prod.mk.inj hw).1
      exact ⟨[], rest, rfl, hrest.isBlank_of_nil⟩
    | cons w ws' =>
      obtain ⟨front, gap, rfl, hgap⟩ := ih ws' text (List.cons.inj hws).2
      exact ⟨c :: (word ++ front), gap, by simp, hgap⟩

end Lexed

/-- A semicolon that is the last token of a text without blanks at its ends is its last
character. -/
lemma getLast?_of_semicolon {cs front gap : List Char} (h : stripBlanks cs = front ++ ';' :: gap)
    (hgap : ∀ c ∈ gap, isBlank c = true) : (stripBlanks cs).getLast? = some ';' := by
  rcases List.eq_nil_or_concat gap with rfl | ⟨gap, b, rfl⟩
  · rw [h, List.getLast?_append]
    rfl
  · have hne : stripBlanks cs ≠ [] := by simp [h]
    have hlast : (stripBlanks cs).getLast hne = b := by simp [h]
    have hplain : ¬ isBlank ((stripBlanks cs).getLast hne) = true :=
      List.rdropWhile_last_not isBlank (cs.dropWhile isBlank) hne
    rw [hlast] at hplain
    exact absurd (hgap b (by simp)) hplain

/-- The tokens of a text that is read as a statement derive the statement, but for a semicolon at
the end. -/
lemma exists_lexed_of_readStatement {kind : StatementKind} {text : String} {s : Statement}
    (h : readStatement kind text = .ok s) : ∃ ts closing,
      Lexed text.toList ((ts ++ closing).map Token.content) ∧ Production kind ts s ∧
        Closing closing := by
  obtain ⟨_, _, _, htokens, -⟩ := exists_production_of_readStatement h
  obtain ⟨body, last, hsplit, -, hlexed⟩ := lexed_of_tokenize htokens
  rw [hsplit] at htokens
  obtain ⟨whole, last', heq, -, ⟨hproduction, hclosing⟩⟩ := (readStatement_iff kind htokens).mp h
  obtain ⟨rfl, -⟩ := List.append_inj' heq rfl
  exact ⟨_, _, hlexed, hproduction, hclosing⟩

/-! ## Pages -/

/-- A text with a limit and an offset behind it. -/
def pageText (text : String) (limit offset : ℕ) : String :=
  text ++ " LIMIT " ++ limit.repr ++ " OFFSET " ++ offset.repr

/-- The digits of a number are one token. -/
lemma written_natural {n : ℕ} (hn : (digitsOf n).length ≤ integerDigitLimit) :
    Written (Spelling [.integer n]) (digitsOf n) () := by
  refine (written_digits false hn).imp fun ts h => ?_
  generalize hv : Value.int (if false = true then -(n : ℤ) else n) = v at h
  cases h with
  | @integer t m hkind =>
    obtain rfl : n = m := Int.ofNat.inj (Value.int.inj hv)
    exact spelled_single.mpr ⟨t, rfl, hkind⟩
  | decimal => cases hv

/-- A limit and an offset as they are written. -/
lemma written_page {limit offset : ℕ} (hlimit : (digitsOf limit).length ≤ integerDigitLimit)
    (hoffset : (digitsOf offset).length ≤ integerDigitLimit) :
    Written PageClause (pageText "" limit offset).toList.tail (some limit, some offset) := by
  have hwritten := (written_keyword .LIMIT).spaced ((written_natural hlimit).spaced
    ((written_keyword .OFFSET).spaced (written_natural hoffset)))
  have hchars : (pageText "" limit offset).toList.tail = Keyword.LIMIT.text.toList ++ ' ' ::
      (digitsOf limit ++ ' ' :: (Keyword.OFFSET.text.toList ++ ' ' :: digitsOf offset)) := by
    simp [pageText, Keyword.text, digitsOf]
  rw [hchars]
  refine hwritten.imp ?_
  rintro _ ⟨l, _, rfl, hl, n, _, rfl, hn, o, m, rfl, ho, hm⟩
  exact .limitOffset (spelled_append hl (spelled_append hn (spelled_append ho hm)))

/-- A statement without a page, and behind it a page. -/
lemma Production.append_page {kind : StatementKind} {ts us : List Token} {s : Select}
    {page : Option ℕ × Option ℕ} (h : Production kind ts (.select s)) (hlimit : s.limit = none)
    (hoffset : s.offset = none) (hpage : PageClause us page) :
    Production kind (ts ++ us) (.select { s with limit := page.1, offset := page.2 }) := by
  cases h with
  | select hopening hflag hcolumns hfrom htable hwhere horder hnone =>
    cases hnone with
    | absent =>
      simp only [List.append_nil, List.append_assoc]
      exact .select hopening hflag hcolumns hfrom htable hwhere horder hpage
    | limit => cases hlimit
    | limitOffset => cases hlimit

namespace Statement

/-- **A text with a page behind it** is read as the same statement with that limit and that
offset. -/
theorem ofText?_pageText {text : String} {s : Select} {limit offset : ℕ}
    (hread : ofText? (strip text) = some (.select s)) (hs : s.limit = none ∧ s.offset = none)
    (hopen : (strip text).toList.getLast? ≠ some ';')
    (hlimit : (digitsOf limit).length ≤ integerDigitLimit)
    (hoffset : (digitsOf offset).length ≤ integerDigitLimit) :
    ofText? (strip (pageText (strip text) limit offset)) =
      some (.select { s with limit := some limit, offset := some offset }) := by
  obtain ⟨kind, -, hkind⟩ := Option.bind_eq_some_iff.mp hread
  rw [toOption_eq_some] at hkind
  obtain ⟨us, closing, hlexed, hproduction, hclosing⟩ := exists_lexed_of_readStatement hkind
  have hchars : (strip text).toList = stripBlanks text.toList := by
    rw [strip, String.toList_ofList]
  rw [hchars] at hlexed hopen
  rcases hclosing with rfl | hsemicolon
  · obtain ⟨ws, -, hpage, hphrase⟩ := (written_page hlimit hoffset).exists_lexed
    have htext : Lexed (strip (pageText (strip text) limit offset)).toList
        (us.map Token.content ++ ws) := by
      have hspaced : (pageText (strip text) limit offset).toList =
          stripBlanks text.toList ++ ' ' :: (pageText "" limit offset).toList.tail := by
        simp [pageText, strip]
      rw [strip, String.toList_ofList, hspaced]
      rw [List.append_nil] at hlexed
      exact (hlexed.append_blank (.blank rfl hpage) fun c hc => by
        rw [← Option.some.inj hc]
        rfl).strip
    have hpaged : readStatement kind (strip (pageText (strip text) limit offset)) =
        .ok (.select { s with limit := some limit, offset := some offset }) := by
      refine readStatement_of_lexed htext fun ts hts => ?_
      obtain ⟨us', vs, rfl, hus, hvs⟩ := List.map_eq_append_iff.mp hts
      exact (SameContent.production hus hproduction).append_page hs.1 hs.2 (hphrase vs hvs)
    exact ofText?_of_read hpaged
  · -- a semicolon would stand at the end of the text
    obtain ⟨t, rfl, htkind⟩ := spelled_single.mp hsemicolon
    obtain ⟨front, gap, hcs, hgap⟩ := hlexed.exists_semicolon (us.map Token.content) t.lexeme
      (by rw [List.map_append, ← htkind]; rfl)
    exact absurd (getLast?_of_semicolon hcs hgap) hopen

end Statement

end StagedQuery
