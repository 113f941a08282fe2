import StagedQuery.Proofs.Sql.Splitting

set_option relaxedAutoImplicit false
set_option autoImplicit false

/-!
# Complete statements of a script

The statements of a script that a semicolon ends, and the text behind the last semicolon. A script
can be cut where a semicolon and blanks stand: the complete statements of the whole are those of its
parts. Which they are depends on the tokens of the script alone.

## Main definitions

* `completeTexts` — the statements that end in a semicolon.
* `openText` — the text behind the last semicolon.
* `SameTokens` — texts that have the same tokens.

## Main results

* `exists_pieces` — how the pieces of a text go on in a longer text.
* `statementTexts_eq` — the statements of a script are the complete ones and the open one.
* `completeTexts_append` — the complete statements of two scripts one behind the other.
* `SameTokens.completeTexts` — scripts of the same tokens have statements of the same tokens.
-/

namespace StagedQuery

/-! ## Blanks -/

/-- Nothing is left without the outer blanks if there are only blanks. -/
lemma stripBlanks_eq_nil_iff {cs : List Char} :
    stripBlanks cs = [] ↔ ∀ c ∈ cs, isBlank c = true := by
  constructor
  · intro h
    rw [stripBlanks, List.reverse_eq_nil_iff, List.dropWhile_eq_nil_iff] at h
    rw [← List.dropWhile_eq_nil_iff]
    by_contra hne
    have hhead := List.head_dropWhile_not isBlank hne
    rw [h _ (List.mem_reverse.mpr (List.head_mem hne))] at hhead
    cases hhead
  · intro h
    rw [stripBlanks, List.dropWhile_eq_nil_iff.mpr h]
    rfl

/-- Blanks in front of a text are outer blanks. -/
lemma stripBlanks_append {blanks : List Char} (h : ∀ c ∈ blanks, isBlank c = true)
    (cs : List Char) : stripBlanks (blanks ++ cs) = stripBlanks cs := by
  rw [stripBlanks, List.dropWhile_append_of_pos h, stripBlanks]

/-- Blanks open no quote. -/
lemma foldl_quoteAfter_blanks {blanks : List Char} (h : ∀ c ∈ blanks, isBlank c = true) :
    blanks.foldl quoteAfter none = none := by
  induction blanks with
  | nil => rfl
  | cons c blanks ih =>
    obtain ⟨hc, hblanks⟩ := List.forall_mem_cons.mp h
    have hnone : quoteAfter none c = none := (sealed_blank hc).2
    rw [List.foldl_cons, hnone, ih hblanks]

/-! ## Pieces of a longer text -/

/-- **How the pieces of a text go on in a longer text.** All but the last are pieces of the longer
one, and its other pieces begin with the last one. A text is complete if it has more than one piece,
and the quote that is open behind it was opened in the last piece, if it was not open before.

**Proof sketch.** Induction on the text. A semicolon outside quotes begins a new piece, where no
quote is open; every other character goes to the first piece. -/
lemma exists_pieces (quote : Option Char) (cs : List Char) :
    ∃ init last, piecesFrom quote cs = init ++ [last] ∧
      completeFrom quote cs = !init.isEmpty ∧
      cs.foldl quoteAfter quote = last.foldl quoteAfter (if init.isEmpty then quote else none) ∧
      ∀ ds, piecesFrom quote (cs ++ ds) =
        init ++ (piecesFrom (cs.foldl quoteAfter quote) ds).modifyHead (last ++ ·) := by
  induction cs generalizing quote with
  | nil => exact ⟨[], [], rfl, rfl, rfl, fun ds => by
      obtain ⟨piece, pieces, hpieces, -⟩ := exists_piecesFrom quote ds
      simp [hpieces]⟩
  | cons c cs ih =>
    by_cases hcut : quote.isNone ∧ c = ';'
    · obtain ⟨hquote, rfl⟩ := hcut
      obtain rfl := Option.isNone_iff_eq_none.mp hquote
      obtain ⟨init, last, hpieces, -, hopen, happend⟩ := ih none
      have hsemicolon : quoteAfter none ';' = none := by decide
      refine ⟨[] :: init, last, ?_, ?_, ?_, fun ds => ?_⟩
      · rw [piecesFrom, if_pos ⟨rfl, rfl⟩, hpieces, List.cons_append]
      · rw [completeFrom, if_pos ⟨rfl, rfl⟩]
        rfl
      · rw [List.foldl_cons, hsemicolon, hopen]
        simp
      · rw [List.cons_append, piecesFrom, if_pos ⟨rfl, rfl⟩, happend, List.foldl_cons, hsemicolon,
          List.cons_append]
    · obtain ⟨init, last, hpieces, hcomplete, hopen, happend⟩ := ih (quoteAfter quote c)
      cases init with
      | nil =>
        refine ⟨[], c :: last, ?_, ?_, ?_, fun ds => ?_⟩
        · rw [piecesFrom, if_neg hcut, hpieces]
          rfl
        · rw [completeFrom, if_neg hcut, hcomplete]
        · rw [List.foldl_cons, hopen]
          rfl
        · obtain ⟨piece, pieces, hbehind, -⟩ :=
            exists_piecesFrom (cs.foldl quoteAfter (quoteAfter quote c)) ds
          rw [List.cons_append, piecesFrom, if_neg hcut, happend, List.foldl_cons, hbehind]
          rfl
      | cons first init =>
        refine ⟨(c :: first) :: init, last, ?_, ?_, ?_, fun ds => ?_⟩
        · rw [piecesFrom, if_neg hcut, hpieces]
          rfl
        · rw [completeFrom, if_neg hcut, hcomplete]
          rfl
        · rw [List.foldl_cons, hopen]
          rfl
        · rw [List.cons_append, piecesFrom, if_neg hcut, happend, List.foldl_cons]
          rfl

/-! ## Complete statements -/

/-- The texts of some pieces without outer blanks; empty ones are left out. -/
def strippedTexts (pieces : List (List Char)) : List String :=
  ((pieces.map stripBlanks).filter (!·.isEmpty)).map String.ofList

/-- The statements of a script that end in a semicolon outside quotes. -/
def completeTexts (script : String) : List String :=
  strippedTexts (piecesFrom none script.toList).dropLast

/-- The text of a script behind the last semicolon outside quotes, without outer blanks. -/
def openText (script : String) : String :=
  strip (String.ofList ((piecesFrom none script.toList).getLastD []))

/-- The texts of pieces one behind the other. -/
lemma strippedTexts_append (xs ys : List (List Char)) :
    strippedTexts (xs ++ ys) = strippedTexts xs ++ strippedTexts ys := by
  simp [strippedTexts]

/-- Blanks in front of a piece do not change its text. -/
lemma strippedTexts_cons_append {blanks : List Char} (h : ∀ c ∈ blanks, isBlank c = true)
    (piece : List Char) (pieces : List (List Char)) :
    strippedTexts ((blanks ++ piece) :: pieces) = strippedTexts (piece :: pieces) := by
  rw [strippedTexts, strippedTexts, List.map_cons, stripBlanks_append h, List.map_cons]

/-- **The statements of a script** are the complete ones and, if it is not blank, the text behind
the last semicolon. -/
theorem statementTexts_eq (script : String) :
    statementTexts script =
      completeTexts script ++ if openText script = "" then [] else [openText script] := by
  obtain ⟨init, last, hpieces, -⟩ := exists_pieces none script.toList
  have hopen : openText script = String.ofList (stripBlanks last) := by
    rw [openText, hpieces, strip, String.toList_ofList]
    simp
  have hlast : strippedTexts [last] = if openText script = "" then [] else [openText script] := by
    rw [hopen]
    cases hstripped : stripBlanks last <;> simp [strippedTexts, hstripped]
  rw [← hlast, completeTexts, hpieces, List.dropLast_concat, ← strippedTexts_append, ← hpieces]
  rfl

/-- A text that is not complete has no complete statement. -/
lemma completeTexts_of_incomplete {script : String} (h : isComplete script = false) :
    completeTexts script = [] := by
  obtain ⟨init, last, hpieces, hcomplete, -⟩ := exists_pieces none script.toList
  rw [isComplete, hcomplete, Bool.not_eq_false', List.isEmpty_iff] at h
  rw [completeTexts, hpieces, h]
  rfl

/-- **Behind a semicolon and blanks a script can be cut:** the complete statements of the whole are
those of the two parts. -/
theorem completeTexts_append {script : String} (h : openText script = "") (more : String) :
    completeTexts (script ++ more) = completeTexts script ++ completeTexts more := by
  obtain ⟨init, last, hpieces, -, hquote, happend⟩ := exists_pieces none script.toList
  have hblank : ∀ c ∈ last, isBlank c = true := by
    rw [← stripBlanks_eq_nil_iff, ← String.ofList_eq_empty_iff, ← h, openText, hpieces, strip,
      String.toList_ofList]
    simp
  have hclosed : script.toList.foldl quoteAfter none = none := by
    rw [hquote, ite_self, foldl_quoteAfter_blanks hblank]
  obtain ⟨piece, pieces, hmore, -⟩ := exists_piecesFrom none more.toList
  rw [completeTexts, String.toList_append, happend, hclosed, completeTexts, completeTexts, hpieces,
    hmore, List.modifyHead_cons, List.dropLast_append_cons, strippedTexts_append,
    List.dropLast_concat]
  cases pieces with
  | nil => rfl
  | cons second pieces =>
    rw [List.dropLast_cons_cons, List.dropLast_cons_cons, strippedTexts_cons_append hblank]

/-! ## Tokens -/

/-- Two texts that have the same tokens, whatever stands between them. -/
def SameTokens (text text' : String) : Prop :=
  ∃ ts ts', tokenize text = .ok ts ∧ tokenize text' = .ok ts' ∧
    ts.map Token.content = ts'.map Token.content

/-- The texts of pieces have the tokens of the pieces; a piece without tokens has no text. -/
lemma tokenize_strippedTexts {pieces : List (List Char)} {parts : List (List (TokenKind × String))}
    (h : List.Forall₂ Lexed pieces parts) :
    List.Forall₂ (fun text part => ∃ ts, tokenize text = .ok ts ∧
        ts.map Token.content = part ++ [endContent])
      (strippedTexts pieces) (parts.filter (!·.isEmpty)) := by
  rw [strippedTexts, List.forall₂_map_left_iff]
  refine List.Forall₂.imp (fun piece part hpiece => ?_) (List.rel_filter
    (R := fun piece part => Lexed piece part ∧ (piece = [] ↔ part = [])) ?_ ?_)
  · exact tokenize_of_lexed (by rw [String.toList_ofList]; exact hpiece.1)
  · rintro piece part ⟨-, hempty⟩
    simp [hempty]
  · rw [List.forall₂_map_left_iff]
    exact h.imp fun piece part hpiece => ⟨hpiece.strip, hpiece.stripBlanks_eq_nil⟩

/-- The complete statements of a script have its tokens, cut at the semicolons. -/
lemma Lexed.completeTexts {script : String} {ws : List (TokenKind × String)}
    (h : Lexed script.toList ws) :
    List.Forall₂ (fun text part => ∃ ts, tokenize text = .ok ts ∧
        ts.map Token.content = part ++ [endContent])
      (completeTexts script) ((ws.splitOnP isSeparator).dropLast.filter (!·.isEmpty)) := by
  refine tokenize_strippedTexts ?_
  rw [List.dropLast_eq_take, List.dropLast_eq_take, h.pieces.length_eq]
  exact List.forall₂_take _ h.pieces

/-- Lists that are each related to a third one, item by item, are related through its items. -/
private lemma forall₂_of_common {α β γ : Type} {R : α → γ → Prop} {S : β → γ → Prop} {xs : List α}
    {ys : List β} {zs : List γ} (h : List.Forall₂ R xs zs) (h' : List.Forall₂ S ys zs) :
    List.Forall₂ (fun x y => ∃ z, R x z ∧ S y z) xs ys := by
  induction h generalizing ys with
  | nil =>
    cases h'
    exact .nil
  | cons hx _ ih =>
    cases h' with
    | cons hy hrest => exact .cons ⟨_, hx, hy⟩ (ih hrest)

/-- **Scripts of the same tokens have complete statements of the same tokens**, one by one. -/
theorem SameTokens.completeTexts {script script' : String} (h : SameTokens script script') :
    List.Forall₂ SameTokens (completeTexts script) (completeTexts script') := by
  obtain ⟨tokens, tokens', htokens, htokens', hsame⟩ := h
  obtain ⟨body, last, rfl, hlast, hlexed⟩ := lexed_of_tokenize htokens
  obtain ⟨body', last', rfl, hlast', hlexed'⟩ := lexed_of_tokenize htokens'
  have hbody : body.map Token.content = body'.map Token.content := by
    simpa [hlast, hlast'] using hsame
  rw [← hbody] at hlexed'
  refine (forall₂_of_common hlexed.completeTexts hlexed'.completeTexts).imp ?_
  rintro text text' ⟨part, ⟨ts, hts, hpart⟩, ts', hts', hpart'⟩
  exact ⟨ts, ts', hts, hts', hpart.trans hpart'.symm⟩

end StagedQuery
