import StagedQuery.Proofs.Sql.SoundTokens
import StagedQuery.Proofs.Sql.Statements

set_option relaxedAutoImplicit false
set_option autoImplicit false

/-!
# Written phrases

How to write what a phrase stands for, so that it is read back. A text is *written* for a value of a
phrase if its tokens are such a phrase, which stands for the value, wherever a separator or nothing
at all stands behind the text. Written texts are put together with blanks and marks between them.

## Main definitions

* `Detached` — a text that begins with a separator, or is empty.
* `Written` — the texts that are written for a value.
* `Value.IsWritable` — the values whose literals stand for them.
* `insertText` — the text of an `INSERT`.

## Main results

* `Written.append`, `Written.blank`, `Written.mark`, `Written.parenthesized` — putting written texts
  together.
* `written_name`, `written_literal`, `written_commaList` — names, literals and lists.
* `written_insert` — an `INSERT` of rows that give all columns.
* `readStatement_of_lexed` — a statement is read from a text whose tokens derive it.
-/

namespace StagedQuery

/-! ## Separators -/

/-- The characters that end every token but a quoted text, and are no quotes. -/
def separators : List Char := [' ', ',', ')', ';']

/-- A text that begins with a separator, or is empty. -/
def Detached (rest : List Char) : Prop := ∀ c, rest.head? = some c → c ∈ separators

/-- The empty text is detached. -/
lemma detached_nil : Detached [] := by
  intro c hc
  cases hc

/-- A text is detached by its first character. -/
lemma detached_cons {c : Char} {rest : List Char} : Detached (c :: rest) ↔ c ∈ separators :=
  ⟨fun h => h c rfl, fun h d hd => by rwa [← Option.some.inj hd]⟩

/-- Two detached texts are detached together. -/
lemma Detached.append {cs rest : List Char} (hcs : Detached cs) (hrest : Detached rest) :
    Detached (cs ++ rest) := by
  cases cs with
  | nil => exact hrest
  | cons c cs => exact detached_cons.mpr (detached_cons.mp hcs)

/-- No character of a class stands in front of a detached text, if no separator is of the class. -/
lemma Detached.stops {rest : List Char} (h : Detached rest) {p : Char → Bool}
    (hp : ∀ c ∈ separators, p c = false) : Stops p rest := fun c hc => hp c (h c hc)

/-! ## Written texts -/

/-- Tokens of given kinds, as a phrase that stands for nothing else. -/
def Spelling (kinds : List TokenKind) : Phrase Unit := fun ts _ => Spelled kinds ts

/-- One phrase and behind it another one. -/
def Phrase.followedBy {α β : Type} (p : Phrase α) (q : Phrase β) : Phrase (α × β) :=
  fun ts ab => ∃ us vs, ts = us ++ vs ∧ p us ab.1 ∧ q vs ab.2

/-- A text that is written for a value: its tokens, wherever nothing or a separator stands behind
the text, are a phrase that stands for the value. No semicolon is among them, so the text can be a
statement of a script. -/
def Written {α : Type} (phrase : Phrase α) (cs : List Char) (a : α) : Prop :=
  ∃ ws : List (TokenKind × String), (∀ w ∈ ws, w.1 ≠ .mark .semicolon) ∧
    (∀ rest vs, Detached rest → Lexed rest vs → Lexed (cs ++ rest) (ws ++ vs)) ∧
    ∀ ts : List Token, ts.map Token.content = ws → phrase ts a

namespace Written

variable {α β : Type} {p : Phrase α} {q : Phrase β} {cs ds : List Char} {a : α} {b : β}

/-- What is written for a value is written for every value that its phrases stand for as well. -/
lemma imp (h : Written p cs a) (hpq : ∀ ts, p ts a → q ts b) : Written q cs b := by
  obtain ⟨ws, hplain, hlexed, hphrase⟩ := h
  exact ⟨ws, hplain, hlexed, fun ts hts => hpq ts (hphrase ts hts)⟩

/-- A blank may stand in front. -/
lemma blank (h : Written p cs a) : Written p (' ' :: cs) a := by
  obtain ⟨ws, hplain, hlexed, hphrase⟩ := h
  exact ⟨ws, hplain, fun rest vs hrest hvs => .blank rfl (hlexed rest vs hrest hvs), hphrase⟩

/-- **Two texts one behind the other**, if the second one begins with a separator. -/
lemma append (hp : Written p cs a) (hq : Written q ds b) (hds : Detached ds) :
    Written (p.followedBy q) (cs ++ ds) (a, b) := by
  obtain ⟨ws, hplain, hlexed, hphrase⟩ := hp
  obtain ⟨ws', hplain', hlexed', hphrase'⟩ := hq
  refine ⟨ws ++ ws', List.forall_mem_append.mpr ⟨hplain, hplain'⟩, fun rest vs hrest hvs => ?_,
    fun ts hts => ?_⟩
  · rw [List.append_assoc, List.append_assoc]
    exact hlexed _ _ (hds.append hrest) (hlexed' rest vs hrest hvs)
  · obtain ⟨us, us', rfl, hus, hus'⟩ := List.map_eq_append_iff.mp hts
    exact ⟨us, us', rfl, hphrase us hus, hphrase' us' hus'⟩

/-- Two texts with a blank between them. -/
lemma spaced (hp : Written p cs a) (hq : Written q ds b) :
    Written (p.followedBy q) (cs ++ ' ' :: ds) (a, b) :=
  hp.append hq.blank (detached_cons.mpr (by decide))

/-- **A mark in front of a text**; any text may follow it. -/
lemma mark {m : Mark} (hm : m ≠ .semicolon) (hq : Written q ds b) :
    Written ((Spelling [.mark m]).followedBy q) (m.char :: ds) ((), b) := by
  obtain ⟨ws, hplain, hlexed, hphrase⟩ := hq
  refine ⟨(.mark m, String.ofList [m.char]) :: ws, List.forall_mem_cons.mpr ⟨by simpa, hplain⟩,
    fun rest vs hrest hvs => ?_, fun ts hts => ?_⟩
  · have hword : Lexeme m.char [] (.mark m) (ds ++ rest) := .mark rfl
    exact .token hword (hlexed rest vs hrest hvs)
  · obtain ⟨t, us, rfl, ht, hus⟩ := List.map_eq_cons_iff.mp hts
    exact ⟨[t], us, rfl, spelled_single.mpr ⟨t, rfl, congrArg Prod.fst ht⟩, hphrase us hus⟩

/-- The tokens of a written text alone. -/
lemma exists_lexed (h : Written p cs a) :
    ∃ ws, (∀ w ∈ ws, w.1 ≠ .mark .semicolon) ∧ Lexed cs ws ∧
      ∀ ts : List Token, ts.map Token.content = ws → p ts a := by
  obtain ⟨ws, hplain, hlexed, hphrase⟩ := h
  have hall := hlexed [] [] detached_nil .nil
  rw [List.append_nil, List.append_nil] at hall
  exact ⟨ws, hplain, hall, hphrase⟩

end Written

/-- A text of one token, whatever detached text stands behind it. -/
lemma written_token {α : Type} {phrase : Phrase α} {a : α} {c : Char} {word : List Char}
    {kind : TokenKind} (hkind : kind ≠ .mark .semicolon)
    (hword : ∀ rest, Detached rest → Lexeme c word kind rest)
    (h : ∀ t : Token, t.kind = kind → t.lexeme = String.ofList (c :: word) → phrase [t] a) :
    Written phrase (c :: word) a := by
  refine ⟨[(kind, String.ofList (c :: word))], by simpa, fun rest vs hrest hvs => ?_,
    fun ts hts => ?_⟩
  · exact .token (hword rest hrest) hvs
  · obtain ⟨t, ts, rfl, ht, hts⟩ := List.map_eq_cons_iff.mp hts
    obtain rfl := List.map_eq_nil_iff.mp hts
    exact h t (congrArg Prod.fst ht) (congrArg Prod.snd ht)

/-- A mark. -/
lemma written_mark {m : Mark} (hm : m ≠ .semicolon) : Written (Spelling [.mark m]) [m.char] () :=
  written_token (by simpa) (fun _ _ => .mark rfl) fun t ht _ => spelled_single.mpr ⟨t, rfl, ht⟩

/-- **A text in parentheses.** -/
lemma Written.parenthesized {α : Type} {p : Phrase α} {cs : List Char} {a : α}
    (h : Written p cs a) :
    Written ((Spelling [.mark .openParen]).followedBy (p.followedBy (Spelling [.mark .closeParen])))
      ('(' :: (cs ++ [')'])) ((), a, ()) :=
  (h.append (written_mark (m := .closeParen) (by simp)) (detached_cons.mpr (by decide))).mark
    (m := .openParen) (by simp)

/-! ## Words and names -/

/-- A word is one token. -/
lemma written_word {α : Type} {phrase : Phrase α} {a : α} {s : String} (hs : IsWord s)
    (h : ∀ t : Token, t.kind = .ofWord s → t.lexeme = s → phrase [t] a) :
    Written phrase s.toList a := by
  obtain ⟨c, word, heq, hc, hword⟩ := hs
  have htext : s = String.ofList (c :: word) := by rw [← heq, String.ofList_toList]
  rw [heq]
  refine written_token (ofWord_ne_mark s) (fun rest hrest => ?_) fun t ht hlexeme =>
    h t ht (hlexeme.trans htext.symm)
  rw [htext]
  exact .word hc hword (hrest.stops (by decide))

/-- **A name** is written as it is. -/
lemma written_name {s : String} (hs : IsName s) : Written Name s.toList s :=
  written_word hs.word fun t ht hlexeme => by
    rw [← hlexeme]
    exact .intro (ht ▸ hs.name)

/-- The word of a keyword. -/
lemma isWord_keyword (k : Keyword) : IsWord k.text := by
  cases k <;> exact ⟨_, _, rfl, by decide, by decide⟩

/-- The word of a keyword is that keyword. -/
lemma ofWord_keyword (k : Keyword) : TokenKind.ofWord k.text = .keyword k := by
  cases k <;> decide

/-- A keyword is written in capitals. -/
lemma written_keyword (k : Keyword) : Written (Spelling [.keyword k]) k.text.toList () :=
  written_word (isWord_keyword k) fun t ht _ =>
    spelled_single.mpr ⟨t, rfl, ht.trans (ofWord_keyword k)⟩

/-! ## Literals -/

/-- A value whose literal stands for it: `null`, an integer that is not too long, or text. The
literal of a floating-point number may have a power of ten, which no statement has. -/
def Value.IsWritable : Value → Prop
  | .null => True
  | .int n => (digitsOf n.natAbs).length ≤ integerDigitLimit
  | .text _ => True
  | _ => False

instance : (v : Value) → Decidable v.IsWritable
  | .null => isTrue trivial
  | .int _ => Nat.decLe _ _
  | .text _ => isTrue trivial
  | .bool _ | .float _ | .list _ | .object _ | .range _ _ | .tuple _ => isFalse id

/-- The digits of a number are a numeral. -/
lemma written_digits (negative : Bool) {n : ℕ} (hn : (digitsOf n).length ≤ integerDigitLimit) :
    Written (Numeral negative) (digitsOf n) (.int (if negative then -n else n)) := by
  obtain ⟨c, word, heq⟩ := List.exists_cons_of_ne_nil (digitsOf_ne_nil n)
  have hdigits : ∀ d ∈ c :: word, isDigit d = true := fun d hd =>
    isDigit_of_mem_digitsOf (heq ▸ hd)
  have hvalue : natOfDigits (c :: word) = n := by rw [← heq, natOfDigits_digitsOf]
  rw [heq] at hn ⊢
  have hkind : TokenKind.integer n ≠ .mark .semicolon := by simp
  refine written_token hkind (fun rest hrest => ?_) fun t ht _ => .integer ht
  rw [← hvalue]
  refine .integer (hdigits c (by simp)) (fun d hd => hdigits d (by simp [hd]))
    (hrest.stops (by decide)) (fun d more hpoint => ?_) hn
  have hseparator := hrest '.' (by rw [hpoint]; rfl)
  exact absurd hseparator (by decide)

/-- A text between single quotes, with the quotes inside doubled. -/
lemma written_quoted (s : String) : Written Literal (Value.quotedLiteral s).toList (.text s) := by
  have htext : (Value.quotedLiteral s).toList =
      '\x27' :: (doubled '\x27' s.toList ++ ['\x27']) := by
    simp [Value.quotedLiteral, doubled]
  rw [htext]
  have hkind : TokenKind.quoted (String.ofList s.toList) ≠ .mark .semicolon := by simp
  refine written_token hkind (fun rest hrest => ?_) fun t ht _ => ?_
  · refine .quoted (.inl rfl) fun hquote => ?_
    exact absurd (hrest _ hquote) (by decide)
  · rw [String.ofList_toList] at ht
    exact .text ht

/-- `NULL` is a word. -/
lemma isWord_null : IsWord "NULL" := ⟨_, _, rfl, by decide, by decide⟩

/-- The word `NULL` stands for `null`. -/
lemma ofWord_null : TokenKind.ofWord "NULL" = .null := by decide

/-- The word that stands for `null`. -/
lemma written_null : Written (Spelling [.null]) "NULL".toList () :=
  written_word isWord_null fun t ht _ => spelled_single.mpr ⟨t, rfl, ht.trans ofWord_null⟩

/-- **A literal stands for its value**: whatever characters a text has, they are the content of one
token. -/
lemma written_literal {v : Value} (hv : v.IsWritable) : Written Literal v.literal.toList v := by
  cases v with
  | null => exact written_null.imp fun ts h => .null h
  | int n =>
    rw [show (Value.int n).literal = intText n from rfl, intText]
    split
    · next hneg =>
      have hn : n = -(n.natAbs : ℤ) := by omega
      rw [String.toList_append]
      refine ((written_digits true hv).mark (m := .minus) (by simp)).imp fun ts h => ?_
      obtain ⟨sign, digits, rfl, hsign, hdigits⟩ := h
      rw [hn]
      exact .negative hsign hdigits
    · next hneg =>
      have hn : n = (n.natAbs : ℤ) := by omega
      refine (written_digits false hv).imp fun ts h => ?_
      rw [hn]
      exact .unsigned h
  | text s => exact written_quoted s
  | bool b | float x | list l | object l | range a b | tuple l => exact hv.elim

/-! ## Lists -/

/-- **A list with commas** between its items. -/
lemma written_commaList {α : Type} {phrase : Phrase α} (text : α → String) {items : List α}
    (hne : items ≠ []) (h : ∀ a ∈ items, Written phrase (text a).toList a) :
    Written (CommaList phrase) (Value.commaJoin (items.map text)).toList items := by
  induction items with
  | nil => exact absurd rfl hne
  | cons a items ih =>
    have ha := h a (by simp)
    cases items with
    | nil =>
      rw [List.map_singleton, Value.commaJoin, String.intercalate_singleton]
      refine ha.imp fun ts hts => ?_
      rw [← List.append_nil ts]
      exact .intro hts .nil
    | cons b items =>
      have hrest := ih (by simp) fun x hx => h x (by simp [hx])
      have htext : (Value.commaJoin ((a :: b :: items).map text)).toList = (text a).toList ++
          ',' :: ' ' :: (Value.commaJoin ((b :: items).map text)).toList := by
        simp [Value.commaJoin]
      rw [htext]
      have hmore := hrest.blank.mark (m := .comma) (by simp)
      refine (ha.append hmore (detached_cons.mpr (by decide))).imp ?_
      rintro _ ⟨ts, _, rfl, hts, sep, _, rfl, hsep, hlist⟩
      obtain ⟨hb, hmore⟩ := hlist
      exact .intro hts (.cons hsep hb hmore)

/-! ## Statements -/

/-- The tokens of a text that is read off as given ones. -/
lemma exists_tokenize_of_lexed {text : String} {ws : List (TokenKind × String)}
    (h : Lexed text.toList ws) :
    ∃ body last, tokenize text = .ok (body ++ [last]) ∧ body.map Token.content = ws ∧
      last.kind = .finish := by
  obtain ⟨tokens, htokens, hcontent⟩ := tokenize_of_lexed h
  obtain ⟨body, finish, rfl, hbody, hfinish⟩ := List.map_eq_append_iff.mp hcontent
  obtain ⟨last, rfl, hlast⟩ := List.map_eq_singleton_iff.mp hfinish
  exact ⟨body, last, htokens, hbody, (Prod.mk.inj hlast).1⟩

/-- A statement is read from a text whose tokens derive it. -/
lemma readStatement_of_lexed {kind : StatementKind} {text : String} {s : Statement}
    {ws : List (TokenKind × String)} (hlexed : Lexed text.toList ws)
    (h : ∀ ts : List Token, ts.map Token.content = ws → Production kind ts s) :
    readStatement kind text = .ok s := by
  obtain ⟨body, last, htokens, hbody, hlast⟩ := exists_tokenize_of_lexed hlexed
  refine (readStatement_iff kind htokens).mpr ⟨body, last, rfl, hlast, ?_⟩
  rw [← List.append_nil body]
  exact .intro (h body hbody) (.inl rfl)

/-- The text of a row of values. -/
def rowText (values : List Value) : String :=
  "(" ++ Value.commaJoin (values.map Value.literal) ++ ")"

/-- The text of an `INSERT` of rows that give all columns. -/
def insertText (table : String) (rows : List (List Value)) : String :=
  "INSERT INTO " ++ table ++ " VALUES " ++ Value.commaJoin (rows.map rowText)

/-- A row is written with its literals. -/
lemma written_row {values : List Value} (hne : values ≠ []) (h : ∀ v ∈ values, v.IsWritable) :
    Written RowPhrase (rowText values).toList values := by
  have hvalues := written_commaList Value.literal hne fun v hv => written_literal (h v hv)
  have htext : (rowText values).toList =
      '(' :: ((Value.commaJoin (values.map Value.literal)).toList ++ [')']) := by
    simp [rowText]
  rw [htext]
  refine hvalues.parenthesized.imp ?_
  rintro _ ⟨o, _, rfl, ho, ts, c, rfl, hts, hc⟩
  exact .intro ho hts hc

/-- **An `INSERT` is written** with the name of its table and the literals of its rows. -/
lemma written_insert {table : String} {rows : List (List Value)} (htable : IsName table)
    (hne : rows ≠ []) (h : ∀ values ∈ rows, values ≠ [] ∧ ∀ v ∈ values, v.IsWritable) :
    Written (Production .insert) (insertText table rows).toList (.insert ⟨table, none, rows⟩) := by
  have hrows := written_commaList rowText hne fun values hvalues =>
    written_row (h values hvalues).1 (h values hvalues).2
  have htext : (insertText table rows).toList = "INSERT".toList ++ ' ' :: ("INTO".toList ++
      ' ' :: (table.toList ++ ' ' :: ("VALUES".toList ++
        ' ' :: (Value.commaJoin (rows.map rowText)).toList))) := by
    simp [insertText]
  rw [htext]
  refine ((written_keyword .INSERT).spaced ((written_keyword .INTO).spaced
    ((written_name htable).spaced ((written_keyword .VALUES).spaced hrows)))).imp ?_
  rintro _ ⟨i, _, rfl, hinsert, j, _, rfl, hinto, n, _, rfl, hname, v, rs, rfl, hvalues, hlist⟩
  have hopening : Spelled [.keyword .INSERT, .keyword .INTO] (i ++ j) :=
    spelled_append hinsert hinto
  have hproduction := Production.insert hopening hname .absent hvalues hlist
  simpa using hproduction

end StagedQuery
