import Mathlib.Data.List.Forall2
import StagedQuery.Predicate.Evaluate

set_option relaxedAutoImplicit false
set_option autoImplicit false

/-!
# What patterns with wildcards match

A pattern matches a text just if the text can be cut into pieces, one for each character of the
pattern: any piece for `%`, one character for `_`, and one character that is the same letter for
every other one. Several `%` leave many cuts open, and the matcher never searches for one. Instead
it keeps, for each suffix of the pattern, whether the rest of the text can be cut along it.

## Main definitions

* `Wildcard.Takes` — the pieces that a character of a pattern takes.
* `Wildcard.Cuts` — the texts that can be cut along a pattern.

## Main results

* `Wildcard.cuts_any_cons`, `Wildcard.cuts_one_cons` — the first piece of a cut.
* `Wildcard.tells_nextRow` — one more character in front of the text.
* `Wildcard.tells_row` — what the matcher knows of all suffixes of a pattern.
* `Wildcard.holds_like_iff` — when a test with a pattern holds.
-/

namespace StagedQuery.Wildcard

/-! ## Cuts -/

/-- Whether a character of a pattern takes a piece of a text: `%` takes any piece, `_` takes any one
character, and every other character takes one that is the same letter but for case. -/
def Takes (p : Char) (piece : List Char) : Prop :=
  if p = '%' then True
  else if p = '_' then ∃ c, piece = [c]
  else ∃ c, piece = [c] ∧ sameLetter p c = true

/-- A text that can be cut into consecutive pieces, of which each character of a pattern takes one,
in order. -/
def Cuts (pattern text : List Char) : Prop :=
  ∃ pieces : List (List Char), List.Forall₂ Takes pattern pieces ∧ pieces.flatten = text

variable {p c : Char} {pattern text : List Char}

/-- The empty pattern cuts the empty text only. -/
lemma cuts_nil : Cuts [] text ↔ text = [] := by
  constructor
  · rintro ⟨pieces, hpieces, rfl⟩
    rw [List.forall₂_nil_left_iff.mp hpieces]
    rfl
  · rintro rfl
    exact ⟨[], .nil, rfl⟩

/-- A cut begins with the piece of the first character. -/
lemma cuts_cons : Cuts (p :: pattern) text ↔
    ∃ piece rest, text = piece ++ rest ∧ Takes p piece ∧ Cuts pattern rest := by
  constructor
  · rintro ⟨pieces, hpieces, rfl⟩
    obtain ⟨piece, more, hpiece, hmore, rfl⟩ := List.forall₂_cons_left_iff.mp hpieces
    exact ⟨piece, more.flatten, rfl, hpiece, more, hmore, rfl⟩
  · rintro ⟨piece, rest, rfl, hpiece, more, hmore, rfl⟩
    exact ⟨piece :: more, .cons hpiece hmore, rfl⟩

/-- Any sequence takes nothing of the empty text. -/
lemma cuts_any_nil : Cuts ('%' :: pattern) [] ↔ Cuts pattern [] := by
  rw [cuts_cons]
  constructor
  · rintro ⟨piece, rest, htext, -, hrest⟩
    rwa [(List.append_eq_nil_iff.mp htext.symm).2] at hrest
  · intro h
    exact ⟨[], [], rfl, by simp [Takes], h⟩

/-- **Any sequence takes nothing, or it takes the first character** and may take more. -/
lemma cuts_any_cons :
    Cuts ('%' :: pattern) (c :: text) ↔ Cuts pattern (c :: text) ∨ Cuts ('%' :: pattern) text := by
  have hany : ∀ piece, Takes '%' piece := by simp [Takes]
  rw [cuts_cons, cuts_cons]
  constructor
  · rintro ⟨piece, rest, htext, -, hrest⟩
    cases piece with
    | nil =>
      left
      rwa [htext]
    | cons d piece =>
      obtain ⟨rfl, hbehind⟩ := List.cons.inj htext
      exact .inr ⟨piece, rest, hbehind, hany piece, hrest⟩
  · rintro (h | ⟨piece, rest, rfl, -, hrest⟩)
    · exact ⟨[], c :: text, rfl, hany [], h⟩
    · exact ⟨c :: piece, rest, rfl, hany _, hrest⟩

/-- Every other character takes one character, so it cuts no empty text. -/
lemma not_cuts_one_nil (hp : p ≠ '%') : ¬ Cuts (p :: pattern) [] := by
  rw [cuts_cons]
  rintro ⟨piece, rest, htext, hpiece, -⟩
  rw [(List.append_eq_nil_iff.mp htext.symm).1] at hpiece
  simp [Takes, hp] at hpiece

/-- **Every other character takes the first character** of the text, if it can. -/
lemma cuts_one_cons (hp : p ≠ '%') :
    Cuts (p :: pattern) (c :: text) ↔ Takes p [c] ∧ Cuts pattern text := by
  rw [cuts_cons]
  constructor
  · rintro ⟨piece, rest, htext, hpiece, hrest⟩
    have hone : ∃ d, piece = [d] := by
      rw [Takes, if_neg hp] at hpiece
      split at hpiece
      · exact hpiece
      · obtain ⟨d, hd, -⟩ := hpiece
        exact ⟨d, hd⟩
    obtain ⟨d, rfl⟩ := hone
    obtain ⟨rfl, rfl⟩ := List.cons.inj htext
    exact ⟨hpiece, hrest⟩
  · rintro ⟨hpiece, hrest⟩
    exact ⟨[c], text, rfl, hpiece, hrest⟩

/-- What a character other than `%` takes as its one character. -/
lemma takes_singleton (hp : p ≠ '%') : Takes p [c] ↔ p = '_' ∨ sameLetter p c = true := by
  rw [Takes, if_neg hp]
  split
  · next h => simp [h]
  · next h => simp [h]

/-! ## The matcher -/

/-- Truth values that tell, for each suffix of a pattern, whether it cuts a text. -/
def Tells (pattern text : List Char) (known : List Bool) : Prop :=
  List.Forall₂ (fun suffix b => b = true ↔ Cuts suffix text) pattern.tails known

/-- The first truth value is about the whole pattern. -/
lemma Tells.headD {known : List Bool} (h : Tells pattern text known) :
    known.headD false = true ↔ Cuts pattern text := by
  cases pattern with
  | nil =>
    obtain ⟨b, rest, hb, -, rfl⟩ := List.forall₂_cons_left_iff.mp h
    exact hb
  | cons p pattern =>
    obtain ⟨b, rest, hb, -, rfl⟩ := List.forall₂_cons_left_iff.mp h
    exact hb

/-- The others are about the pattern without its first character. -/
lemma Tells.tail {known : List Bool} (h : Tells (p :: pattern) text known) :
    Tells pattern text known.tail := by
  obtain ⟨b, rest, -, hrest, rfl⟩ := List.forall₂_cons_left_iff.mp h
  exact hrest

/-- One more truth value for one more character in front of the pattern. -/
lemma Tells.cons {known : List Bool} {b : Bool} (hb : b = true ↔ Cuts (p :: pattern) text)
    (h : Tells pattern text known) : Tells (p :: pattern) text (b :: known) :=
  List.Forall₂.cons hb h

/-- The empty pattern has no other suffix than itself. -/
lemma tells_single {b : Bool} (hb : b = true ↔ text = []) : Tells [] text [b] := by
  apply List.Forall₂.cons _ .nil
  rw [hb, cuts_nil]

/-- The matcher begins with the suffixes that cut the empty text. -/
lemma tells_emptyRow (pattern : List Char) : Tells pattern [] (emptyRow pattern) := by
  induction pattern with
  | nil => exact tells_single (by simp)
  | cons p pattern ih =>
    apply Tells.cons _ ih
    by_cases hp : p = '%'
    · subst hp
      rw [cuts_any_nil, ← ih.headD]
      simp
    · simp [hp, not_cuts_one_nil hp]

/-- **One more character in front of the text.** What is known of the text without it decides what
holds with it.

**Proof sketch.** Induction on the pattern, from its end. The suffix `%…` cuts the longer text if
the suffix behind it does, which is known already, or if it cuts the shorter text itself. Every
other suffix cuts the longer text if its first character takes the first one of the text and the
suffix behind it cuts the shorter text. -/
lemma tells_nextRow (c : Char) (pattern : List Char) : ∀ known : List Bool,
    Tells pattern text known → Tells pattern (c :: text) (nextRow c pattern known) := by
  induction pattern with
  | nil => exact fun _ _ => tells_single (by simp)
  | cons p pattern ih =>
    intro known h
    have hshorter := ih known.tail h.tail
    apply Tells.cons _ hshorter
    by_cases hp : p = '%'
    · subst hp
      rw [if_pos rfl, Bool.or_eq_true, hshorter.headD, h.headD, cuts_any_cons]
    · rw [if_neg hp, cuts_one_cons hp, takes_singleton hp, ← h.tail.headD]
      split
      · next hone => simp [hone]
      · next hone => simp [hone]

/-- **What the matcher knows of a text**: which suffixes of the pattern cut it. -/
lemma tells_row (pattern text : List Char) : Tells pattern text (row pattern text) := by
  induction text with
  | nil => exact tells_emptyRow pattern
  | cons c text ih => exact tells_nextRow c pattern _ ih

/-- **A pattern covers a text** just if it cuts it. -/
theorem covers_iff (pattern text : String) :
    covers pattern text = true ↔ Cuts pattern.toList text.toList := (tells_row _ _).headD

/-- **When a test with a pattern holds of a row.** The column and the pattern must have values. Then
the test holds just if the whole text of the value can be cut into consecutive pieces, one for each
character of the pattern, in order: any piece for `%`, empty or with line breaks as well, any one
character for `_`, and for every other character one that is the same letter but for case. -/
theorem holds_like_iff (column : String) (pattern : Value) (row : Row) :
    (Predicate.leaf column (.like pattern)).holds row = true ↔
      (row.get (.text column)).isNull = false ∧ pattern.isNull = false ∧
        ∃ pieces : List (List Char),
          List.Forall₂ Takes pattern.display.toList pieces ∧
          pieces.flatten = (row.get (.text column)).display.toList := by
  rw [Predicate.holds, Test.holds, Bool.and_eq_true, Bool.and_eq_true, covers_iff, and_assoc]
  simp only [Bool.not_eq_true', Cuts]

end StagedQuery.Wildcard
