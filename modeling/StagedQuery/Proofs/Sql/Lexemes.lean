import Mathlib.Data.List.Basic
import StagedQuery.Proofs.Text.Fronts
import StagedQuery.Sql.Token

set_option relaxedAutoImplicit false
set_option autoImplicit false

/-!
# Single tokens as texts

Which texts are tokens, of which kinds, and what may stand behind them. A token ends where its class
cannot go on, so each rule has a condition on the rest of the text. The conditions speak of the
front of the rest only. So a token stays the same when the rest is cut short.

## Main definitions

* `doubled` — text with each quote in it written twice.
* `Lexeme` — the rules, one for each class of tokens.
* `IsPlainChar` — characters that are not blank, no semicolons and no quotes.

## Main results

* `scan_of_lexeme`, `exists_of_scan` — the token at the front of a text is the one that the rules
  give.
* `Lexeme.of_prefix` — a token stays when the rest of the text is cut short.
* `Lexeme.cases_plain` — the characters of a token.
* `Lexeme.not_isBlank_last` — no token ends with a blank character.
-/

namespace StagedQuery

/-! ## The rules -/

/-- Text with each quote in it written twice. -/
def doubled (quote : Char) (content : List Char) : List Char :=
  content.flatMap fun c => if c = quote then [quote, quote] else [c]

/-- The tokens that begin with a character: the further characters, the kind, and the rest of the
text behind them. -/
inductive Lexeme (c : Char) : List Char → TokenKind → List Char → Prop
  | relation {r : Relation} {word rest : List Char} (htext : r.text.toList = c :: word)
    (hlongest : ∀ (s : Relation) (d : Char), rest.head? = some d →
      s.text.toList ≠ c :: (word ++ [d])) : Lexeme c word (.relation r) rest
  | mark {m : Mark} {rest : List Char} (hchar : m.char = c) : Lexeme c [] (.mark m) rest
  | quoted {content rest : List Char} (hquote : c = '\x27' ∨ c = '\x22')
    (hclosed : rest.head? ≠ some c) :
    Lexeme c (doubled c content ++ [c]) (.quoted (String.ofList content)) rest
  | integer {word rest : List Char} (hc : isDigit c = true) (hword : ∀ d ∈ word, isDigit d = true)
    (hstops : Stops isDigit rest)
    (hpoint : ∀ d more, rest = '.' :: d :: more → isDigit d = false)
    (hshort : (c :: word).length ≤ integerDigitLimit) :
    Lexeme c word (.integer (natOfDigits (c :: word))) rest
  | decimal {whole fraction rest : List Char} (hc : isDigit c = true)
    (hwhole : ∀ d ∈ whole, isDigit d = true) (hfraction : ∀ d ∈ fraction, isDigit d = true)
    (hne : fraction ≠ []) (hstops : Stops isDigit rest) :
    Lexeme c (whole ++ '.' :: fraction) (.decimal (Binary64.ofDecimal false
      ⟨natOfDigits (c :: whole ++ fraction), -(fraction.length : Int)⟩)) rest
  | word {word rest : List Char} (hc : isNameStart c = true)
    (hword : ∀ d ∈ word, isWordChar d = true) (hstops : Stops isWordChar rest) :
    Lexeme c word (.ofWord (String.ofList (c :: word))) rest

/-! ## Quoted text -/

/-- No characters. -/
@[simp]
lemma doubled_nil (quote : Char) : doubled quote [] = [] := rfl

/-- A quote is written twice. -/
@[simp]
lemma doubled_quote (quote : Char) (content : List Char) :
    doubled quote (quote :: content) = quote :: quote :: doubled quote content := by
  simp [doubled]

/-- Every other character is written once. -/
lemma doubled_cons {quote c : Char} (h : c ≠ quote) (content : List Char) :
    doubled quote (c :: content) = c :: doubled quote content := by
  simp [doubled, h]

/-- Quoted text is read up to the closing quote. -/
lemma scanQuoted_doubled (quote : Char) (content rest : List Char)
    (hclosed : rest.head? ≠ some quote) :
    scanQuoted quote (doubled quote content ++ quote :: rest) =
      some (content, (doubled quote content).length + 1) := by
  induction content with
  | nil =>
    cases rest with
    | nil => simp [scanQuoted]
    | cons d rest =>
      have hd : d ≠ quote := fun h => hclosed (by rw [h]; rfl)
      simp [scanQuoted, hd]
  | cons c content ih =>
    by_cases hc : c = quote
    · subst hc
      simp [scanQuoted, ih]
    · obtain ⟨d, more, hmore⟩ : ∃ d more, doubled quote content ++ quote :: rest = d :: more := by
        cases doubled quote content with
        | nil => exact ⟨quote, rest, rfl⟩
        | cons d ds => exact ⟨d, ds ++ quote :: rest, rfl⟩
      rw [doubled_cons hc, List.cons_append, hmore, scanQuoted, if_neg hc, ← hmore, ih]
      simp

/-- What is read as quoted text has every quote inside written twice, and one behind it. -/
lemma exists_of_scanQuoted {quote : Char} : ∀ {cs content : List Char} {n : ℕ},
    scanQuoted quote cs = some (content, n) → ∃ rest, cs = doubled quote content ++ quote :: rest ∧
      n = (doubled quote content).length + 1 ∧ rest.head? ≠ some quote := by
  intro cs
  fun_induction scanQuoted quote cs with
  | case1 => simp
  | case2 =>
    rintro content n ⟨⟩
    exact ⟨[], rfl, rfl, by simp⟩
  | case3 => simp
  | case4 rest ih =>
    intro content n h
    obtain ⟨⟨content', n'⟩, hinner, heq⟩ := Option.map_eq_some_iff.mp h
    obtain ⟨rfl, rfl⟩ := Prod.mk.inj heq
    obtain ⟨more, rfl, rfl, hclosed⟩ := ih hinner
    exact ⟨more, by simp, by simp, hclosed⟩
  | case5 d rest hd =>
    rintro content n ⟨⟩
    exact ⟨d :: rest, rfl, rfl, by simpa using hd⟩
  | case6 c d rest hc ih =>
    intro content n h
    obtain ⟨⟨content', n'⟩, hinner, heq⟩ := Option.map_eq_some_iff.mp h
    obtain ⟨rfl, rfl⟩ := Prod.mk.inj heq
    obtain ⟨more, hmore, rfl, hclosed⟩ := ih hinner
    exact ⟨more, by rw [hmore, doubled_cons hc]; rfl, by simp [doubled_cons hc], hclosed⟩

/-! ## Comparison signs -/

/-- The sign that is read is the longest one that stands at the front. -/
lemma scanRelation_eq_some {c : Char} {cs : List Char} {r : Relation} {n : ℕ} :
    scanRelation c cs = some (r, n) ↔ ∃ word rest, cs = word ++ rest ∧ n = word.length ∧
      r.text.toList = c :: word ∧
      ∀ (s : Relation) (d : Char), rest.head? = some d → s.text.toList ≠ c :: (word ++ [d]) := by
  constructor
  · intro h
    rw [scanRelation.eq_def] at h
    split at h
    · obtain ⟨rfl, rfl⟩ := Prod.mk.inj (Option.some.inj h)
      exact ⟨['='], _, rfl, rfl, rfl, fun s d _ => by cases s <;> simp [Relation.text]⟩
    · obtain ⟨rfl, rfl⟩ := Prod.mk.inj (Option.some.inj h)
      exact ⟨['>'], _, rfl, rfl, rfl, fun s d _ => by cases s <;> simp [Relation.text]⟩
    · obtain ⟨rfl, rfl⟩ := Prod.mk.inj (Option.some.inj h)
      exact ⟨['='], _, rfl, rfl, rfl, fun s d _ => by cases s <;> simp [Relation.text]⟩
    · obtain ⟨rfl, rfl⟩ := Prod.mk.inj (Option.some.inj h)
      exact ⟨['='], _, rfl, rfl, rfl, fun s d _ => by cases s <;> simp [Relation.text]⟩
    · obtain ⟨rfl, rfl⟩ := Prod.mk.inj (Option.some.inj h)
      exact ⟨[], _, rfl, rfl, rfl, fun s d _ => by cases s <;> simp [Relation.text]⟩
    · next hunequal hatMost =>
      obtain ⟨rfl, rfl⟩ := Prod.mk.inj (Option.some.inj h)
      refine ⟨[], _, rfl, rfl, rfl, fun s d hd htext => ?_⟩
      obtain ⟨more, rfl⟩ := List.head?_eq_some_iff.mp hd
      cases s <;> simp [Relation.text] at htext
      · exact hunequal more (by rw [htext])
      · exact hatMost more (by rw [htext])
    · next hatLeast =>
      obtain ⟨rfl, rfl⟩ := Prod.mk.inj (Option.some.inj h)
      refine ⟨[], _, rfl, rfl, rfl, fun s d hd htext => ?_⟩
      obtain ⟨more, rfl⟩ := List.head?_eq_some_iff.mp hd
      cases s <;> simp [Relation.text] at htext
      exact hatLeast more (by rw [htext])
    · cases h
  · rintro ⟨word, rest, rfl, rfl, htext, hlongest⟩
    have hnext : ∀ (s : Relation) (d : Char) (more : List Char), rest = d :: more →
        s.text.toList ≠ c :: (word ++ [d]) := fun s d more h => hlongest s d (by rw [h]; rfl)
    cases r <;> simp [Relation.text] at htext <;> obtain ⟨rfl, rfl⟩ := htext
    · rfl
    · rfl
    · rfl
    · cases rest with
      | nil => rfl
      | cons d more =>
        have hunequal : d ≠ '>' := fun h => hnext .unequal d more rfl (by rw [h]; rfl)
        have hatMost : d ≠ '=' := fun h => hnext .atMost d more rfl (by rw [h]; rfl)
        simp [scanRelation, hunequal, hatMost]
    · cases rest with
      | nil => rfl
      | cons d more =>
        have hatLeast : d ≠ '=' := fun h => hnext .atLeast d more rfl (by rw [h]; rfl)
        simp [scanRelation, hatLeast]
    · rfl
    · rfl

/-! ## Numbers -/

/-- Digits that no point with a digit follows are read as an integer. -/
lemma scanNumber_integer {c : Char} {word rest : List Char} (hword : ∀ d ∈ word, isDigit d = true)
    (hstops : Stops isDigit rest) (hpoint : ∀ d more, rest = '.' :: d :: more → isDigit d = false)
    (hshort : (c :: word).length ≤ integerDigitLimit) :
    scanNumber c (word ++ rest) = .ok (.integer (natOfDigits (c :: word)), word.length) := by
  have hinteger : scanNumber.integer (c :: word) =
      .ok (.integer (natOfDigits (c :: word)), word.length) := by
    rw [scanNumber.integer, if_neg (Nat.not_lt.mpr hshort)]
    rfl
  rw [scanNumber, takeWhile_append_of_stops hword hstops, dropWhile_append_of_stops hword hstops]
  split
  · next d more =>
    rw [if_neg (by simp [hpoint d more rfl])]
    exact hinteger
  · exact hinteger

/-- Digits with a point and more digits behind them are read as a decimal. -/
lemma scanNumber_decimal {c : Char} {whole fraction rest : List Char}
    (hwhole : ∀ d ∈ whole, isDigit d = true) (hfraction : ∀ d ∈ fraction, isDigit d = true)
    (hne : fraction ≠ []) (hstops : Stops isDigit rest) :
    scanNumber c (whole ++ '.' :: fraction ++ rest) = .ok (.decimal (Binary64.ofDecimal false
      ⟨natOfDigits (c :: whole ++ fraction), -(fraction.length : Int)⟩),
        (whole ++ '.' :: fraction).length) := by
  obtain ⟨d, fraction, rfl⟩ := List.exists_cons_of_ne_nil hne
  have hpoint : Stops isDigit ('.' :: (d :: fraction ++ rest)) := stops_cons.mpr (by decide)
  have hd : isDigit d = true := hfraction d (by simp)
  have htail : ∀ e ∈ fraction, isDigit e = true := fun e he => hfraction e (by simp [he])
  rw [List.append_assoc, List.cons_append, scanNumber, takeWhile_append_of_stops hwhole hpoint,
    dropWhile_append_of_stops hwhole hpoint]
  simp only [List.cons_append, hd, ↓reduceIte, takeWhile_append_of_stops htail hstops,
    List.length_append, List.length_cons, Except.ok.injEq, Prod.mk.injEq, true_and]
  omega

/-- What is read as a number is an integer or a decimal. -/
lemma exists_of_scanNumber {c : Char} (hc : isDigit c = true) {cs : List Char} {kind : TokenKind}
    {n : ℕ} (h : scanNumber c cs = .ok (kind, n)) :
    ∃ word rest, cs = word ++ rest ∧ n = word.length ∧ Lexeme c word kind rest := by
  have hsplit : cs = cs.takeWhile isDigit ++ cs.dropWhile isDigit :=
    List.takeWhile_append_dropWhile.symm
  have hinteger : (∀ d more, cs.dropWhile isDigit = '.' :: d :: more → isDigit d = false) →
      scanNumber.integer (c :: cs.takeWhile isDigit) = .ok (kind, n) →
      ∃ word rest, cs = word ++ rest ∧ n = word.length ∧ Lexeme c word kind rest := by
    intro hpoint h
    rw [scanNumber.integer] at h
    split at h
    · cases h
    · next hshort =>
      obtain ⟨rfl, rfl⟩ := Prod.mk.inj (Except.ok.inj h)
      exact ⟨_, _, hsplit, rfl, .integer hc (fun d hd => mem_takeWhile hd)
        (stops_dropWhile _ _) hpoint (Nat.not_lt.mp hshort)⟩
  rw [scanNumber] at h
  split at h
  · next d more hrest =>
    split at h
    · next hd =>
      obtain ⟨rfl, rfl⟩ := Prod.mk.inj (Except.ok.inj h)
      refine ⟨cs.takeWhile isDigit ++ '.' :: (d :: more.takeWhile isDigit),
        more.dropWhile isDigit, ?_, by simp; omega, ?_⟩
      · rw [List.append_assoc, List.cons_append, List.cons_append,
          List.takeWhile_append_dropWhile, ← hrest]
        exact hsplit
      · refine .decimal hc (fun d hd => mem_takeWhile hd) ?_ (by simp) (stops_dropWhile _ _)
        intro e he
        rcases List.mem_cons.mp he with rfl | he
        · exact hd
        · exact mem_takeWhile he
    · next hd =>
      refine hinteger (fun e more' heq => ?_) h
      obtain ⟨rfl, -⟩ : d = e ∧ more = more' := by simpa [hrest] using heq
      simpa using hd
  · next hrest => exact hinteger (fun d more heq => absurd heq (hrest d more)) h

/-! ## One token -/

/-- No comparison sign begins with a character that is no such sign. -/
lemma scanRelation_eq_none {c : Char} (h : c ∉ signs) (cs : List Char) :
    scanRelation c cs = none := by
  cases hscan : scanRelation c cs with
  | none => rfl
  | some found =>
    obtain ⟨r, n⟩ := found
    obtain ⟨word, rest, -, -, htext, -⟩ := scanRelation_eq_some.mp hscan
    have hall : ∀ r : Relation, ∀ d ∈ r.text.toList, d ∈ signs := by
      intro r
      cases r <;> decide
    exact absurd (hall r c (by rw [htext]; simp)) h

/-- The mark of a character is written as that character. -/
lemma Mark.ofChar?_eq_some {c : Char} {m : Mark} : Mark.ofChar? c = some m ↔ m.char = c := by
  constructor
  · intro h
    simpa using List.find?_some h
  · rintro rfl
    cases m <;> rfl

/-! ## The characters of tokens -/

/-- A character that is not blank, no semicolon and no quote. -/
def IsPlainChar (c : Char) : Prop := isBlank c = false ∧ c ≠ ';' ∧ c ≠ '\x27' ∧ c ≠ '\x22'

instance (c : Char) : Decidable (IsPlainChar c) := inferInstanceAs (Decidable (_ ∧ _))

/-- The characters of names are plain. -/
lemma plain_of_isWordChar {c : Char} (h : isWordChar c = true) : IsPlainChar c := by
  have hsigns := not_mem_signs_of_isWordChar h
  refine ⟨isBlank_of_isWordChar h, ?_, ?_, ?_⟩ <;> rintro rfl <;> exact hsigns (by decide)

/-- The characters of comparison signs are plain. -/
lemma plain_relation (r : Relation) : ∀ d ∈ r.text.toList, IsPlainChar d := by
  cases r <;> decide

/-- The marks other than the semicolon are plain. -/
lemma plain_mark {m : Mark} (h : m ≠ .semicolon) : IsPlainChar m.char := by
  cases m <;> first | exact absurd rfl h | decide

/-- A word is `NULL`, a keyword or a name. -/
lemma ofWord_cases (word : String) : TokenKind.ofWord word = .null ∨
    (∃ k, TokenKind.ofWord word = .keyword k) ∨ TokenKind.ofWord word = .name := by
  rw [TokenKind.ofWord]
  split
  · exact .inl rfl
  · split
    · exact .inr (.inl ⟨_, rfl⟩)
    · exact .inr (.inr rfl)

/-- No word is a mark. -/
lemma ofWord_ne_mark (word : String) {m : Mark} : TokenKind.ofWord word ≠ .mark m := by
  rcases ofWord_cases word with h | ⟨k, h⟩ | h <;> simp [h]

/-- No word ends a text. -/
lemma ofWord_ne_finish (word : String) : TokenKind.ofWord word ≠ .finish := by
  rcases ofWord_cases word with h | ⟨k, h⟩ | h <;> simp [h]

/-! ## The rules and the lexer -/

/-- **The rules are sound**: a token by the rules is read from the front of the text. -/
lemma scan_of_lexeme {c : Char} {word rest : List Char} {kind : TokenKind}
    (h : Lexeme c word kind rest) :
    TokenKind.scan c (word ++ rest) = .ok (kind, word.length) := by
  -- names and numbers begin with no sign, so the classes before them do not fit
  have hplain : ∀ {d : Char}, isWordChar d = true → ∀ cs, scanRelation d cs = none ∧
      Mark.ofChar? d = none ∧ ¬(d = '\x27' ∨ d = '\x22') := by
    intro d hd cs
    have hsigns := not_mem_signs_of_isWordChar hd
    refine ⟨scanRelation_eq_none hsigns cs, ?_, ?_⟩
    · cases hmark : Mark.ofChar? d with
      | none => rfl
      | some m =>
        obtain rfl := Mark.ofChar?_eq_some.mp hmark
        exact absurd (by cases m <;> decide) hsigns
    · rintro (rfl | rfl)
      · exact hsigns (by decide)
      · exact hsigns (by decide)
  cases h with
  | relation htext hlongest =>
    rw [TokenKind.scan, scanRelation_eq_some.mpr ⟨word, rest, rfl, rfl, htext, hlongest⟩]
  | mark hchar =>
    subst hchar
    rename_i m
    cases m <;> rfl
  | quoted hquote hclosed =>
    rename_i content
    have hscan := scanQuoted_doubled c content rest hclosed
    rw [List.append_assoc, List.singleton_append, TokenKind.scan]
    rcases hquote with rfl | rfl
    · simp only [scanRelation, hscan]
      simp [Mark.ofChar?, Mark.all, Mark.char]
    · simp only [scanRelation, hscan]
      simp [Mark.ofChar?, Mark.all, Mark.char]
  | integer hc hword hstops hpoint hshort =>
    obtain ⟨hrelation, hmark, hquote⟩ := hplain (isWordChar_of_isDigit hc) (word ++ rest)
    rw [TokenKind.scan, hrelation, hmark]
    simp only [if_neg hquote, hc, ↓reduceIte, scanNumber_integer hword hstops hpoint hshort]
  | decimal hc hwhole hfraction hne hstops =>
    rename_i whole fraction
    obtain ⟨hrelation, hmark, hquote⟩ :=
      hplain (isWordChar_of_isDigit hc) (whole ++ '.' :: fraction ++ rest)
    rw [TokenKind.scan, hrelation, hmark]
    simp only [if_neg hquote, hc, ↓reduceIte, scanNumber_decimal hwhole hfraction hne hstops]
  | word hc hword hstops =>
    obtain ⟨hrelation, hmark, hquote⟩ := hplain (isWordChar_of_isNameStart hc) (word ++ rest)
    rw [TokenKind.scan, hrelation, hmark]
    simp only [if_neg hquote, not_isDigit_of_isNameStart hc, hc, Bool.false_eq_true, ↓reduceIte,
      takeWhile_append_of_stops hword hstops]

/-- **The rules are complete**: what is read from the front of a text is a token by the rules. -/
lemma exists_of_scan {c : Char} {cs : List Char} {kind : TokenKind} {n : ℕ}
    (h : TokenKind.scan c cs = .ok (kind, n)) :
    ∃ word rest, cs = word ++ rest ∧ n = word.length ∧ Lexeme c word kind rest := by
  rw [TokenKind.scan] at h
  split at h
  · next r m hrelation =>
    obtain ⟨rfl, rfl⟩ := Prod.mk.inj (Except.ok.inj h)
    obtain ⟨word, rest, rfl, rfl, htext, hlongest⟩ := scanRelation_eq_some.mp hrelation
    exact ⟨word, rest, rfl, rfl, .relation htext hlongest⟩
  · split at h
    · next m hmark =>
      obtain ⟨rfl, rfl⟩ := Prod.mk.inj (Except.ok.inj h)
      exact ⟨[], cs, rfl, rfl, .mark (Mark.ofChar?_eq_some.mp hmark)⟩
    · split at h
      · next hquote =>
        split at h
        · next content m hquoted =>
          obtain ⟨rfl, rfl⟩ := Prod.mk.inj (Except.ok.inj h)
          obtain ⟨rest, rfl, rfl, hclosed⟩ := exists_of_scanQuoted hquoted
          exact ⟨doubled c content ++ [c], rest, by simp, by simp, .quoted hquote hclosed⟩
        · cases h
      · split at h
        · next hdigit => exact exists_of_scanNumber hdigit h
        · split at h
          · next hname =>
            obtain ⟨rfl, rfl⟩ := Prod.mk.inj (Except.ok.inj h)
            exact ⟨_, _, List.takeWhile_append_dropWhile.symm, rfl,
              .word hname (fun d hd => mem_takeWhile hd) (stops_dropWhile _ _)⟩
          · cases h

namespace Lexeme

variable {c : Char} {word rest : List Char} {kind : TokenKind}

/-- **A token stays** when the rest of the text is cut short. -/
lemma of_prefix (h : Lexeme c word kind rest) {front : List Char} (hfront : front <+: rest) :
    Lexeme c word kind front := by
  have hhead : ∀ d, front.head? = some d → rest.head? = some d := by
    intro d hd
    obtain ⟨more, rfl⟩ := hfront
    obtain ⟨front, rfl⟩ := List.head?_eq_some_iff.mp hd
    rfl
  cases h with
  | relation htext hlongest => exact .relation htext fun s d hd => hlongest s d (hhead d hd)
  | mark hchar => exact .mark hchar
  | quoted hquote hclosed => exact .quoted hquote fun hd => hclosed (hhead c hd)
  | integer hc hword hstops hpoint hshort =>
    refine .integer hc hword (hstops.of_prefix hfront) (fun d more heq => ?_) hshort
    obtain ⟨later, rfl⟩ := hfront
    exact hpoint d (more ++ later) (by rw [heq]; rfl)
  | decimal hc hwhole hfraction hne hstops =>
    exact .decimal hc hwhole hfraction hne (hstops.of_prefix hfront)
  | word hc hword hstops => exact .word hc hword (hstops.of_prefix hfront)

/-- **The characters of a token.** A token is a semicolon, or quoted text, or it has only characters
that are not blank, no semicolons and no quotes. -/
lemma cases_plain (h : Lexeme c word kind rest) :
    (c = ';' ∧ word = [] ∧ kind = .mark .semicolon) ∨
    (∃ content, (c = '\x27' ∨ c = '\x22') ∧ word = doubled c content ++ [c] ∧
      kind = .quoted (String.ofList content)) ∨
    (kind ≠ .mark .semicolon ∧ ∀ d ∈ c :: word, IsPlainChar d) := by
  cases h with
  | relation htext hlongest =>
    refine .inr (.inr ⟨by simp, ?_⟩)
    rw [← htext]
    exact plain_relation _
  | mark hchar =>
    subst hchar
    rename_i m
    by_cases hm : m = .semicolon
    · subst hm
      exact .inl ⟨rfl, rfl, rfl⟩
    · refine .inr (.inr ⟨by simpa using hm, fun d hd => ?_⟩)
      rw [List.mem_singleton.mp hd]
      exact plain_mark hm
  | quoted hquote hclosed => exact .inr (.inl ⟨_, hquote, rfl, rfl⟩)
  | integer hc hword hstops hpoint hshort =>
    refine .inr (.inr ⟨by simp, ?_⟩)
    exact List.forall_mem_cons.mpr ⟨plain_of_isWordChar (isWordChar_of_isDigit hc),
      fun d hd => plain_of_isWordChar (isWordChar_of_isDigit (hword d hd))⟩
  | decimal hc hwhole hfraction hne hstops =>
    refine .inr (.inr ⟨by simp, ?_⟩)
    refine List.forall_mem_cons.mpr ⟨plain_of_isWordChar (isWordChar_of_isDigit hc), ?_⟩
    refine List.forall_mem_append.mpr ⟨fun d hd =>
      plain_of_isWordChar (isWordChar_of_isDigit (hwhole d hd)), ?_⟩
    exact List.forall_mem_cons.mpr ⟨by decide, fun d hd =>
      plain_of_isWordChar (isWordChar_of_isDigit (hfraction d hd))⟩
  | word hc hword hstops =>
    refine .inr (.inr ⟨ofWord_ne_mark _, ?_⟩)
    exact List.forall_mem_cons.mpr ⟨plain_of_isWordChar (isWordChar_of_isNameStart hc),
      fun d hd => plain_of_isWordChar (hword d hd)⟩

/-- A semicolon is one character. -/
lemma of_semicolon (h : Lexeme c word kind rest) (hkind : kind = .mark .semicolon) :
    c = ';' ∧ word = [] := by
  rcases h.cases_plain with ⟨hc, hword, -⟩ | ⟨content, -, -, hquoted⟩ | ⟨hother, -⟩
  · exact ⟨hc, hword⟩
  · rw [hkind] at hquoted
    cases hquoted
  · exact absurd hkind hother

/-- No token begins with a blank character. -/
lemma not_isBlank_first (h : Lexeme c word kind rest) : isBlank c = false := by
  rcases h.cases_plain with ⟨rfl, -⟩ | ⟨content, rfl | rfl, -⟩ | ⟨-, hplain⟩
  · rfl
  · rfl
  · rfl
  · exact (hplain c (by simp)).1

/-- **No token ends with a blank character.** -/
lemma not_isBlank_last (h : Lexeme c word kind rest) {front : List Char} {d : Char}
    (hlast : c :: word = front ++ [d]) : isBlank d = false := by
  have hend : (c :: word).getLast? = some d := by rw [hlast, List.getLast?_concat]
  rcases h.cases_plain with ⟨rfl, rfl, -⟩ | ⟨content, hquote, rfl, -⟩ | ⟨-, hplain⟩
  · obtain rfl : ';' = d := Option.some.inj hend
    rfl
  · rw [← List.cons_append, List.getLast?_concat] at hend
    obtain rfl : c = d := Option.some.inj hend
    rcases hquote with rfl | rfl <;> rfl
  · exact (hplain d (by rw [hlast]; simp)).1

/-- No token ends a text. -/
lemma ne_finish (h : Lexeme c word kind rest) : kind ≠ .finish := by
  cases h with
  | word => exact ofWord_ne_finish _
  | relation | mark | quoted | integer | decimal => simp

end Lexeme

end StagedQuery
