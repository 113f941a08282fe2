import Mathlib.Data.List.Chain
import Mathlib.Data.List.DropRight
import StagedQuery.Proofs.Sql.Lexing

set_option relaxedAutoImplicit false
set_option autoImplicit false

/-!
# Where the tokens of a text stand

The tokens of a text leave out nothing but blanks, and each of them tells where it stands. A text
that has no tokens is refused at a place behind whole tokens, where none can begin.

The scanner counts lines, columns and characters while it goes on. What it has counted depends only
on the characters that it has passed, so a place is stated as the place behind these characters.

## Main definitions

* `Cursor.behind` — the place behind the characters at the front of a text.
* `Laid` — the tokens of a text from a place on, with these places.
* `Lossless` — what tokens and places say of a text.
* `Refusal` — the three ways in which a text has no tokens.

## Main results

* `laid_of_tokensFrom`, `exists_laid_of_tokensFrom` — what the scanner reads up to the end, or up to
  a fault.
* `tokenize_lossless` — the tokens of a text and their places, and where a text is refused.
-/

namespace StagedQuery

/-! ## Places -/

/-- The place behind the characters at the front of a text. Its line is one more than there are
newlines among them, and its column one more than there are characters behind the last newline. -/
def Cursor.behind (front : List Char) : Cursor :=
  ⟨⟨1 + front.count '\n', 1 + (front.rtakeWhile (· ≠ '\n')).length⟩, front.length⟩

/-- One more character has been passed. -/
lemma Cursor.past_behind (front : List Char) (c : Char) :
    (behind front).past c = behind (front ++ [c]) := by
  by_cases hc : c = '\n'
  · subst hc
    simp [past, behind, Nat.add_assoc]
  · simp [past, behind, hc, Nat.add_assoc]

/-- Where a token ends. -/
def Token.stop (t : Token) : ℕ := t.place.offset + t.lexeme.length

/-- Nothing but blanks stands in a text from one offset to another. -/
def BlankBetween (text : List Char) (first last : ℕ) : Prop :=
  first ≤ last ∧ ∀ i c, first ≤ i → i < last → text[i]? = some c → isBlank c = true

/-- Nothing stands between an offset and itself. -/
lemma blankBetween_self (text : List Char) (n : ℕ) : BlankBetween text n n :=
  ⟨le_rfl, fun i c hn hi => by omega⟩

/-- One more blank in front. -/
lemma BlankBetween.cons {front cs : List Char} {c : Char} {last : ℕ} (hc : isBlank c = true)
    (h : BlankBetween (front ++ c :: cs) (front.length + 1) last) :
    BlankBetween (front ++ c :: cs) front.length last := by
  refine ⟨by have := h.1; omega, fun i d hi hlast hd => ?_⟩
  rcases Nat.eq_or_lt_of_le hi with rfl | hi
  · obtain rfl : c = d := by simpa using hd
    exact hc
  · exact h.2 i d hi hlast hd

/-! ## Laid tokens -/

/-- Behind the characters `front`, a text goes on with given tokens and any blanks between them, up
to the characters that are left. -/
inductive Laid : (front cs : List Char) → (ts : List Token) → (rest : List Char) → Prop
  | done {front rest : List Char} : Laid front rest [] rest
  | blank {front cs rest : List Char} {c : Char} {ts : List Token} (hc : isBlank c = true)
    (h : Laid (front ++ [c]) cs ts rest) : Laid front (c :: cs) ts rest
  | token {front word later rest : List Char} {c : Char} {kind : TokenKind} {ts : List Token}
    (hword : Lexeme c word kind later) (h : Laid (front ++ c :: word) later ts rest) :
    Laid front (c :: (word ++ later)) (⟨kind, String.ofList (c :: word), .behind front⟩ :: ts) rest

/-- What has been read of a text is made of whole tokens and blanks. -/
lemma Laid.exists_lexed {front cs rest : List Char} {ts : List Token} (h : Laid front cs ts rest) :
    ∃ before, cs = before ++ rest ∧ Lexed before (ts.map Token.content) := by
  induction h with
  | done => exact ⟨[], rfl, .nil⟩
  | blank hc _ ih =>
    obtain ⟨before, rfl, hlexed⟩ := ih
    exact ⟨_ :: before, rfl, .blank hc hlexed⟩
  | @token front word later rest c kind ts hword _ ih =>
    obtain ⟨before, rfl, hlexed⟩ := ih
    refine ⟨c :: (word ++ before), by simp, ?_⟩
    exact .token (hword.of_prefix (List.prefix_append before rest)) hlexed

/-- The characters of a token that are left are passed over, and the place goes on with them. -/
lemma tokensFrom_behind (cs : List Char) : ∀ (skip : ℕ) (front : List Char), skip ≤ cs.length →
    tokensFrom skip (.behind front) cs =
      tokensFrom 0 (.behind (front ++ cs.take skip)) (cs.drop skip) := by
  induction cs with
  | nil =>
    intro skip front hskip
    obtain rfl : skip = 0 := by simpa using hskip
    simp
  | cons c cs ih =>
    intro skip front hskip
    cases skip with
    | zero => simp
    | succ skip =>
      rw [List.length_cons] at hskip
      rw [tokensFrom, Cursor.past_behind, ih skip _ (by omega)]
      simp

/-- **How far the scanner reads.** It reads whole tokens, with the places where they stand, up to
the end of the text or up to a character at which it can read none.

**Proof sketch.** Induction on the length of the text. Whatever is passed, a blank or a token, the
scanner goes on at the place behind it. -/
lemma exists_laid (cs : List Char) (front : List Char) :
    ∃ ts before rest, cs = before ++ rest ∧ Laid front cs ts rest ∧
      ((rest = [] ∧ tokensFrom 0 (.behind front) cs =
          .ok (ts ++ [⟨.finish, "", .behind (front ++ cs)⟩])) ∨
        ∃ c later fault, rest = c :: later ∧ TokenKind.scan c later = .error fault ∧
          tokensFrom 0 (.behind front) cs =
            .error (fault.toError (.behind (front ++ before)) rest)) := by
  induction hlength : cs.length using Nat.strong_induction_on generalizing cs front with
  | _ n ih =>
    subst hlength
    cases cs with
    | nil => exact ⟨[], [], [], rfl, .done, .inl ⟨rfl, by simp [tokensFrom]⟩⟩
    | cons c cs =>
      by_cases hblank : isBlank c = true
      · obtain ⟨ts, before, rest, rfl, hlaid, hresult⟩ :=
          ih cs.length (by simp) cs (front ++ [c]) rfl
        refine ⟨ts, c :: before, rest, rfl, .blank hblank hlaid, ?_⟩
        rw [tokensFrom, if_pos hblank, Cursor.past_behind]
        simpa using hresult
      · cases hscan : TokenKind.scan c cs with
        | error fault =>
          refine ⟨[], [], c :: cs, rfl, .done, .inr ⟨c, cs, fault, rfl, hscan, ?_⟩⟩
          rw [tokensFrom, if_neg hblank, hscan, List.append_nil]
        | ok found =>
          obtain ⟨kind, more⟩ := found
          obtain ⟨word, later, rfl, rfl, hword⟩ := exists_of_scan hscan
          have hshorter : later.length < (c :: (word ++ later)).length := by
            rw [List.length_cons, List.length_append]
            omega
          obtain ⟨ts, before, rest, rfl, hlaid, hresult⟩ :=
            ih later.length hshorter later (front ++ c :: word) rfl
          refine ⟨_, c :: (word ++ before), rest, by simp, .token hword hlaid, ?_⟩
          have hbehind :
              tokensFrom word.length (.behind (front ++ [c])) (word ++ (before ++ rest)) =
                tokensFrom 0 (.behind (front ++ c :: word)) (before ++ rest) := by
            rw [tokensFrom_behind _ _ _ (by simp)]
            simp
          rw [tokensFrom, if_neg hblank, hscan, Cursor.past_behind]
          simp only [hbehind, List.take_left]
          rcases hresult with ⟨rfl, htokens⟩ | ⟨d, later, fault, rfl, hfault, htokens⟩
          · exact .inl ⟨rfl, by rw [htokens]; simp [Except.map]⟩
          · exact .inr ⟨d, later, fault, rfl, hfault, by rw [htokens]; simp [Except.map]⟩

/-! ## Texts with tokens -/

/-- The token at the end of a text. -/
def Token.last (text : List Char) : Token := ⟨.finish, "", .behind text⟩

namespace Laid

variable {front cs rest : List Char} {ts : List Token}

/-- Each token stands where its place says. -/
lemma exists_split (h : Laid front cs ts rest) {t : Token} (ht : t ∈ ts) :
    ∃ before later, front ++ cs = before ++ (t.lexeme.toList ++ later) ∧
      t.place = .behind before := by
  induction h with
  | done => cases ht
  | blank hc _ ih =>
    obtain ⟨before, later, hsplit, hplace⟩ := ih ht
    exact ⟨before, later, by simpa using hsplit, hplace⟩
  | @token front word later rest c kind ts hword _ ih =>
    rcases List.mem_cons.mp ht with rfl | ht
    · exact ⟨front, later, by rw [String.toList_ofList, List.cons_append], rfl⟩
    · obtain ⟨before, later', hsplit, hplace⟩ := ih ht
      exact ⟨before, later', by simpa using hsplit, hplace⟩

/-- The tokens stand behind what has been passed, one behind the other. -/
lemma increasing (h : Laid front cs ts rest) : (∀ t ∈ ts, front.length ≤ t.place.offset) ∧
    ts.Pairwise fun t u => t.place.offset < u.place.offset := by
  induction h with
  | done => simp
  | blank hc _ ih =>
    obtain ⟨hall, hpairs⟩ := ih
    exact ⟨fun t ht => (by simp : _ ≤ _).trans (hall t ht), hpairs⟩
  | @token front word later rest c kind ts hword _ ih =>
    obtain ⟨hall, hpairs⟩ := ih
    simp only [List.length_append, List.length_cons] at hall
    refine ⟨List.forall_mem_cons.mpr ⟨le_rfl, fun t ht => ?_⟩, List.pairwise_cons.mpr
      ⟨fun u hu => ?_, hpairs⟩⟩
    · have := hall t ht
      omega
    · show front.length < u.place.offset
      have := hall u hu
      omega

/-- Nothing but blanks stands in front of the first token, and between a token and the next. -/
lemma gaps (h : Laid front cs ts []) {text : List Char} (htext : front ++ cs = text) :
    (∀ t ∈ (ts ++ [Token.last text]).head?, BlankBetween text front.length t.place.offset) ∧
      (ts ++ [Token.last text]).IsChain fun t u => BlankBetween text t.stop u.place.offset := by
  generalize hrest : ([] : List Char) = rest at h
  induction h with
  | @done front rest =>
    subst hrest htext
    rw [List.append_nil]
    simpa [Token.last, Cursor.behind] using blankBetween_self front front.length
  | @blank front cs rest c ts hc _ ih =>
    obtain ⟨hfirst, hchain⟩ := ih (by rw [← htext]; simp) hrest
    refine ⟨fun t ht => ?_, hchain⟩
    have hlater := hfirst t ht
    rw [List.length_append, ← htext] at hlater
    rw [← htext]
    exact hlater.cons hc
  | @token front word later rest c kind ts hword _ ih =>
    obtain ⟨hfirst, hchain⟩ := ih (by rw [← htext]; simp) hrest
    rw [List.cons_append]
    refine ⟨fun t ht => ?_, List.isChain_cons.mpr ⟨fun u hu => ?_, hchain⟩⟩
    · obtain rfl := Option.some.inj ht
      exact blankBetween_self _ _
    · have hstop : (⟨kind, String.ofList (c :: word), .behind front⟩ : Token).stop =
          (front ++ c :: word).length := by
        simp [Token.stop, Cursor.behind, Nat.add_comm]
      rw [hstop]
      exact hfirst u hu

end Laid

/-- What the tokens of a text and their places say of the text. The last of them, and no other,
stands for the end of the text. They stand one behind the other; each of them is written where its
place says, and its place counts the lines and columns of the text in front of it; and nothing but
blanks stands in front of the first one and between any two. -/
structure Lossless (text : List Char) (tokens : List Token) : Prop where
  ending : ∃ body, tokens = body ++ [Token.last text] ∧ ∀ t ∈ body, t.kind ≠ .finish
  increasing : tokens.Pairwise fun t u => t.place.offset < u.place.offset
  lexeme : ∀ t ∈ tokens, t.lexeme.toList = (text.drop t.place.offset).take t.lexeme.length
  place : ∀ t ∈ tokens, t.place = .behind (text.take t.place.offset)
  opening : ∀ t ∈ tokens.head?, BlankBetween text 0 t.place.offset
  gaps : tokens.IsChain fun t u => BlankBetween text t.stop u.place.offset

/-- Laid tokens up to the end of a text, and the end, leave out nothing but blanks. -/
lemma Laid.lossless {text : List Char} {ts : List Token} (h : Laid [] text ts []) :
    Lossless text (ts ++ [Token.last text]) := by
  have hends : ∀ t ∈ ts ++ [Token.last text], ∃ before later,
      text = before ++ (t.lexeme.toList ++ later) ∧ t.place = .behind before := by
    intro t ht
    rcases List.mem_append.mp ht with ht | ht
    · exact h.exists_split ht
    · obtain rfl := List.mem_singleton.mp ht
      exact ⟨text, [], by simp [Token.last], rfl⟩
  obtain ⟨before, hbefore, hlexed⟩ := h.exists_lexed
  refine ⟨⟨ts, rfl, fun t ht => ?_⟩, ?_, fun t ht => ?_, fun t ht => ?_, (h.gaps rfl).1,
    (h.gaps rfl).2⟩
  · obtain ⟨c, word, rest, hlexeme, -⟩ := hlexed.exists_lexeme (List.mem_map_of_mem ht)
    exact hlexeme.ne_finish
  · refine List.pairwise_append.mpr ⟨h.increasing.2, List.pairwise_singleton _ _, ?_⟩
    intro t ht u hu
    obtain rfl := List.mem_singleton.mp hu
    obtain ⟨c, word, rest, -, hlexeme⟩ := hlexed.exists_lexeme (List.mem_map_of_mem ht)
    obtain ⟨before, later, rfl, hplace⟩ := h.exists_split ht
    have hnonempty : 0 < t.lexeme.toList.length := by
      rw [show t.lexeme = _ from hlexeme]
      simp
    simp only [hplace, Token.last, Cursor.behind, List.length_append]
    omega
  · obtain ⟨before, later, rfl, hplace⟩ := hends t ht
    have hoffset : t.place.offset = before.length := by rw [hplace]; rfl
    rw [hoffset, List.drop_left, ← String.length_toList, List.take_left]
  · obtain ⟨before, later, rfl, hplace⟩ := hends t ht
    have hoffset : t.place.offset = before.length := by rw [hplace]; rfl
    rw [hoffset, List.take_left, hplace]

/-! ## Texts without tokens -/

/-- A quoted text that is never closed goes on to the end of the text: every quote in it is
doubled. -/
lemma eq_doubled_of_scanQuoted {quote : Char} : ∀ {cs : List Char}, scanQuoted quote cs = none →
    ∃ content, cs = doubled quote content := by
  intro cs
  fun_induction scanQuoted quote cs with
  | case1 => exact fun _ => ⟨[], rfl⟩
  | case2 => simp
  | case3 c hc => exact fun _ => ⟨[c], by simp [doubled_cons hc]⟩
  | case4 rest ih =>
    intro h
    obtain ⟨content, rfl⟩ := ih (Option.map_eq_none_iff.mp h)
    exact ⟨quote :: content, by simp⟩
  | case5 => simp
  | case6 c d rest hc ih =>
    intro h
    obtain ⟨content, hcontent⟩ := ih (Option.map_eq_none_iff.mp h)
    exact ⟨c :: content, by rw [doubled_cons hc, hcontent]⟩

/-- A number that cannot be read is an integer with too many digits. -/
lemma exists_of_scanNumber_error {c : Char} {cs : List Char} {fault : ScanFault}
    (h : scanNumber c cs = .error fault) : ∃ word rest, cs = word ++ rest ∧
      (∀ d ∈ word, isDigit d = true) ∧ Stops isDigit rest ∧
      (∀ d more, rest = '.' :: d :: more → isDigit d = false) ∧
      integerDigitLimit < (c :: word).length ∧ fault = .tooManyDigits (c :: word).length := by
  have hinteger : (∀ d more, cs.dropWhile isDigit = '.' :: d :: more → isDigit d = false) →
      scanNumber.integer (c :: cs.takeWhile isDigit) = .error fault → ∃ word rest,
        cs = word ++ rest ∧ (∀ d ∈ word, isDigit d = true) ∧ Stops isDigit rest ∧
        (∀ d more, rest = '.' :: d :: more → isDigit d = false) ∧
        integerDigitLimit < (c :: word).length ∧ fault = .tooManyDigits (c :: word).length := by
    intro hpoint h
    rw [scanNumber.integer] at h
    split at h
    · next hlong =>
      exact ⟨_, _, List.takeWhile_append_dropWhile.symm, fun d hd => mem_takeWhile hd,
        stops_dropWhile _ _, hpoint, hlong, (Except.error.inj h).symm⟩
    · cases h
  rw [scanNumber] at h
  split at h
  · next d more hrest =>
    split at h
    · cases h
    · next hd =>
      refine hinteger (fun e more' heq => ?_) h
      obtain ⟨rfl, -⟩ : d = e ∧ more = more' := by simpa [hrest] using heq
      simpa using hd
  · next hrest => exact hinteger (fun d more heq => absurd heq (hrest d more)) h

/-- A comparison sign is read wherever one of these characters stands. -/
lemma isSome_scanRelation {c : Char} (hc : c = '=' ∨ c = '<' ∨ c = '>') (cs : List Char) :
    (scanRelation c cs).isSome = true := by
  rcases hc with rfl | rfl | rfl <;> rw [scanRelation.eq_def] <;> split <;> simp_all

/-- Where no comparison sign is read, none begins but perhaps `!=`, which does not stand there. -/
lemma not_prefix_of_scanRelation {c : Char} {cs word : List Char} {r : Relation}
    (h : scanRelation c cs = none) (htext : r.text.toList = c :: word) :
    c = '!' ∧ word = ['='] ∧ ¬ word <+: cs := by
  have hsigns : ¬ (c = '=' ∨ c = '<' ∨ c = '>') := fun hc => by
    simpa [h] using isSome_scanRelation hc cs
  cases r with
  | differs =>
    simp only [Relation.text, String.reduceToList, List.cons.injEq] at htext
    obtain ⟨rfl, rfl⟩ := htext
    refine ⟨rfl, rfl, ?_⟩
    rintro ⟨more, rfl⟩
    simp [scanRelation] at h
  | equal | unequal | less | greater | atMost | atLeast =>
    refine absurd ?_ hsigns
    simp only [Relation.text, String.reduceToList, List.cons.injEq] at htext
    simp [← htext.1]

/-- **Why no token is read at a character.** It opens a quoted text that is never closed; no token
can begin with it, unless it is `!` in front of `=`, which does not follow; or it begins an integer
with too many digits. -/
lemma scan_eq_error {c : Char} {cs : List Char} {fault : ScanFault}
    (h : TokenKind.scan c cs = .error fault) :
    (fault = .unterminated ∧ (c = '\x27' ∨ c = '\x22') ∧ ∃ content, cs = doubled c content) ∨
    (fault = .unexpected c ∧ ∀ word kind rest, Lexeme c word kind rest →
      c = '!' ∧ word = ['='] ∧ ¬ word <+: cs) ∨
    ∃ word rest, cs = word ++ rest ∧ (∀ d ∈ c :: word, isDigit d = true) ∧ Stops isDigit rest ∧
      (∀ d more, rest = '.' :: d :: more → isDigit d = false) ∧
      integerDigitLimit < (c :: word).length ∧ fault = .tooManyDigits (c :: word).length := by
  rw [TokenKind.scan] at h
  split at h
  · cases h
  next hrelation =>
  split at h
  · cases h
  next hmark =>
  split at h
  · next hquote =>
    split at h
    · cases h
    · next hquoted =>
      exact .inl ⟨(Except.error.inj h).symm, hquote, eq_doubled_of_scanQuoted hquoted⟩
  next hquote =>
  split at h
  · next hdigit =>
    obtain ⟨word, rest, hcs, hword, hstops, hpoint, hlong, rfl⟩ := exists_of_scanNumber_error h
    exact .inr (.inr ⟨word, rest, hcs, List.forall_mem_cons.mpr ⟨hdigit, hword⟩, hstops, hpoint,
      hlong, rfl⟩)
  next hdigit =>
  split at h
  · cases h
  next hname =>
  refine .inr (.inl ⟨(Except.error.inj h).symm, fun word kind rest hlexeme => ?_⟩)
  -- a token of any class but the first begins with a character that has been seen not to be there
  cases hlexeme with
  | relation htext _ => exact not_prefix_of_scanRelation hrelation htext
  | mark hchar => simp [Mark.ofChar?_eq_some.mpr hchar] at hmark
  | quoted hquote' _ => exact absurd hquote' hquote
  | integer hc | decimal hc => exact absurd hc hdigit
  | word hc => exact absurd hc hname

/-- The ways in which a text has no tokens. In front of a place there are whole tokens and blanks;
at the place stands a quote that is never closed, or a character at which no token can begin, or an
integer with too many digits. -/
inductive Refusal (text : List Char) : ReadError → Prop
  | unterminated {front content : List Char} {quote : Char} {ws : List (TokenKind × String)}
    (htext : text = front ++ quote :: doubled quote content) (hfront : Lexed front ws)
    (hquote : quote = '\x27' ∨ quote = '\x22') :
    Refusal text (.malformed ⟨.unterminatedLiteral, some (Cursor.behind front).position,
      some (String.ofList (text.drop front.length)), none⟩)
  | unexpected {front rest : List Char} {c : Char} {ws : List (TokenKind × String)}
    (htext : text = front ++ c :: rest) (hfront : Lexed front ws)
    (hnone : ∀ word kind behind, Lexeme c word kind behind →
      c = '!' ∧ word = ['='] ∧ ¬ word <+: rest) :
    Refusal text (.malformed ⟨.unexpectedCharacter c, some (Cursor.behind front).position,
      none, none⟩)
  | tooManyDigits {front digits rest : List Char} {ws : List (TokenKind × String)}
    (htext : text = front ++ (digits ++ rest)) (hfront : Lexed front ws)
    (hdigits : ∀ d ∈ digits, isDigit d = true) (hstops : Stops isDigit rest)
    (hpoint : ∀ d more, rest = '.' :: d :: more → isDigit d = false)
    (hlong : integerDigitLimit < digits.length) : Refusal text (.tooManyDigits digits.length)

/-- **Every text has tokens that leave out nothing but blanks, or is refused where no token can be
read.** The tokens of a text stand one behind the other where their places say, up to the only one
that stands for the end; each is the piece of the text that stands there, with nothing but blanks in
front of the first one and between any two; and lines and columns are counted as in the text. A text
is refused only at a quote that is never closed, at a character at which no token can begin, or for
an integer with too many digits, always behind whole tokens. -/
theorem tokenize_lossless (text : String) :
    (∀ tokens, tokenize text = .ok tokens → Lossless text.toList tokens) ∧
      ∀ e, tokenize text = .error e → Refusal text.toList e := by
  obtain ⟨ts, front, rest, hsplit, hlaid, hresult⟩ := exists_laid text.toList []
  rw [List.nil_append] at hresult
  rcases hresult with ⟨rfl, htokens⟩ | ⟨c, later, fault, rfl, hscan, herror⟩
  · refine ⟨fun tokens h => ?_, fun e h => ?_⟩
    · obtain rfl := Except.ok.inj (htokens.symm.trans h)
      exact hlaid.lossless
    · cases htokens.symm.trans h
  · refine ⟨fun tokens h => ?_, fun e h => ?_⟩
    · cases herror.symm.trans h
    obtain rfl := Except.error.inj (herror.symm.trans h)
    obtain ⟨before, hbefore, hlexed⟩ := hlaid.exists_lexed
    obtain rfl : front = before := List.append_cancel_right (hsplit.symm.trans hbefore)
    rcases scan_eq_error hscan with ⟨rfl, hquote, content, rfl⟩ | ⟨rfl, hnone⟩ |
      ⟨word, rest, rfl, hdigits, hstops, hpoint, hlong, rfl⟩
    · have hrefusal : Refusal text.toList _ := .unterminated hsplit hlexed hquote
      rwa [hsplit, List.drop_left, ← hsplit] at hrefusal
    · exact .unexpected hsplit hlexed hnone
    · exact .tooManyDigits hsplit hlexed hdigits hstops hpoint hlong

/-- The places of tokens behind newlines, one of them inside a quoted text. -/
example : (tokenize "a\n <= 'x\ny' b").toOption.map (·.map fun t => (t.lexeme, t.place)) =
    some [("a", ⟨⟨1, 1⟩, 0⟩), ("<=", ⟨⟨2, 2⟩, 3⟩), ("'x\ny'", ⟨⟨2, 5⟩, 6⟩), ("b", ⟨⟨3, 4⟩, 12⟩),
      ("", ⟨⟨3, 5⟩, 13⟩)] := by
  decide +kernel

end StagedQuery
