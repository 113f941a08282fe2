import Mathlib.Data.List.Forall2
import StagedQuery.Proofs.Document.Numbers
import StagedQuery.Proofs.Document.Text

set_option relaxedAutoImplicit false
set_option autoImplicit false

/-!
# Documents, written and read

A document that was written is read back, in whichever layout. The reader recurses on a bound on its
steps, so what is followed through is that each part of a text is read within twice its length.

## Main definitions

* `Document.IsReadable` — the documents that can be read back: integers are not too long, and no key
  occurs twice in an object.
* `Document.Reads` — that a document is read from the front of a text.

## Main results

* `Document.reads_write` — a document is read from its text.
* `Document.read_write` — a written document is read back.
-/

namespace StagedQuery.Document

/-! ## Documents that can be read back -/

mutual

/-- A document whose integers are not too long and in whose objects no key occurs twice. -/
def IsReadable : Document → Prop
  | null => True
  | bool _ => True
  | int n => (digitsOf n.natAbs).length ≤ integerDigitLimit
  | float _ => True
  | text _ => True
  | list items => AreReadable items
  | object fields => (fields.map Prod.fst).Nodup ∧ FieldsReadable fields

/-- Documents that can be read back. -/
def AreReadable : List Document → Prop
  | [] => True
  | d :: ds => d.IsReadable ∧ AreReadable ds

/-- Fields that can be read back. -/
def FieldsReadable : List (String × Document) → Prop
  | [] => True
  | (_, d) :: fields => d.IsReadable ∧ FieldsReadable fields

end

/-- A document is read from the front of a text, within twice its length and whatever follows that
cannot go on with a number. The text begins neither with a space nor with a closing bracket. -/
structure Reads (t : List Char) (d : Document) : Prop where
  begins : ∃ c cs, t = c :: cs ∧ isSpace c = false ∧ c ≠ ']'
  reads : ∀ fuel rest, 2 * t.length ≤ fuel → Delimited rest → scan fuel (t ++ rest) = some (d, rest)

/-- A field is read from a text: its key between quotes, a colon, a space and its document. -/
def ReadsField (t : List Char) (field : String × Document) : Prop :=
  ∃ content, t = '\x22' :: (field.1.toList.flatMap escapeChar ++ '\x22' :: ':' :: ' ' :: content) ∧
    Reads content field.2

/-! ## Spaces -/

/-- Spaces at the front of a text are skipped. -/
lemma skipSpace_spaces {ws : List Char} (h : ∀ c ∈ ws, isSpace c = true) (cs : List Char) :
    skipSpace (ws ++ cs) = skipSpace cs :=
  List.dropWhile_append_of_pos h

/-- Nothing is skipped in front of what is no space. -/
lemma skipSpace_cons {c : Char} (h : isSpace c = false) (cs : List Char) :
    skipSpace (c :: cs) = c :: cs := by
  rw [skipSpace, List.dropWhile_cons, h]
  simp

/-- No space can go on with a number. -/
lemma delimited_of_isSpace {c : Char} (h : isSpace c = true) (rest : List Char) :
    Delimited (c :: rest) := by
  rintro _ ⟨⟩
  simp only [isSpace, Bool.or_eq_true, beq_iff_eq] at h
  rcases h with ((rfl | rfl) | rfl) | rfl <;> decide

/-- Spaces keep a number apart from what follows. -/
lemma delimited_spaces {ws rest : List Char} (h : ∀ c ∈ ws, isSpace c = true)
    (hrest : Delimited rest) : Delimited (ws ++ rest) := by
  cases ws with
  | nil => exact hrest
  | cons c ws => exact delimited_of_isSpace (h c (by simp)) _

/-- What stands around items is made of spaces. -/
lemma isSpace_newLine (layout : Layout) (level : ℕ) :
    ∀ c ∈ (layout.newLine level).toList, isSpace c = true := by
  intro c hc
  cases layout with
  | oneLine => simp [Layout.newLine] at hc
  | indented width =>
    rw [Layout.newLine, String.toList_ofList, List.mem_cons] at hc
    rcases hc with rfl | hc
    · decide
    · rw [List.eq_of_mem_replicate hc]
      decide

/-- A single blank is white space. -/
lemma isSpace_blank : ∀ c ∈ [' '], isSpace c = true := by
  intro c hc
  rw [List.mem_singleton.mp hc]
  rfl

/-- A comma and spaces stand between two items. -/
lemma toList_separator (layout : Layout) (level : ℕ) :
    ∃ ws, (layout.separator level).toList = ',' :: ws ∧ ∀ c ∈ ws, isSpace c = true := by
  cases layout with
  | oneLine => exact ⟨[' '], by simp [Layout.separator], isSpace_blank⟩
  | indented width =>
    refine ⟨((Layout.indented width).newLine level).toList, ?_, isSpace_newLine _ _⟩
    rw [Layout.separator, String.toList_append]
    rfl

/-! ## Constants, numbers and text -/

/-- A constant or a number is read from a text if it begins like one. -/
lemma reads_atom {t : List Char} {d : Document}
    (hbegins : ∃ c cs, t = c :: cs ∧ isSpace c = false ∧ c ≠ ']' ∧ c ≠ '\x22' ∧ c ≠ '[' ∧
      c ≠ '\x7b')
    (h : ∀ rest, Delimited rest → scanAtom (t ++ rest) = some (d, rest)) : Reads t d := by
  obtain ⟨c, cs, rfl, hspace, hclose, hquote, hlist, hobject⟩ := hbegins
  refine ⟨⟨c, cs, rfl, hspace, hclose⟩, fun fuel rest hfuel hrest => ?_⟩
  obtain ⟨fuel, rfl⟩ : ∃ n, fuel = n + 1 := ⟨fuel - 1, by rw [List.length_cons] at hfuel; omega⟩
  rw [← h rest hrest, List.cons_append, scan]
  · rintro r heq
    exact hquote (List.cons.inj heq).1
  · rintro r heq
    exact hlist (List.cons.inj heq).1
  · rintro r heq
    exact hobject (List.cons.inj heq).1

/-- The word for nothing is read. -/
lemma reads_null : Reads "null".toList .null :=
  reads_atom ⟨'n', "ull".toList, rfl, by decide⟩ fun _ _ => rfl

/-- A truth value is read from its text. -/
lemma reads_bool (b : Bool) : Reads (boolText b).toList (.bool b) := by
  cases b with
  | true => exact reads_atom ⟨'t', "rue".toList, rfl, by decide⟩ fun _ _ => rfl
  | false =>
    rw [show boolText false = "false" by decide]
    exact reads_atom ⟨'f', "alse".toList, rfl, by decide⟩ fun _ _ => rfl

/-- A number with or without a minus begins like a number. -/
lemma begins_signed {n : Notation} (h : n.Canonical) (negative : Bool) :
    ∃ c cs, (if negative then '-' :: n.text else n.text) = c :: cs ∧ isSpace c = false ∧ c ≠ ']' ∧
      c ≠ '\x22' ∧ c ≠ '[' ∧ c ≠ '\x7b' := by
  obtain ⟨c, cs, htext, hc⟩ := exists_text_eq_cons h
  cases negative with
  | true => exact ⟨'-', n.text, rfl, by decide⟩
  | false =>
    have hne := fun d hd => ne_of_isDigit (d := d) hc hd
    refine ⟨c, cs, htext, ?_, hne _ (by decide), hne _ (by decide), hne _ (by decide),
      hne _ (by decide)⟩
    simp [isSpace, hne ' ' (by decide), hne '\t' (by decide), hne '\n' (by decide),
      hne '\r' (by decide)]

/-- An integer is read from its text. -/
lemma reads_int {n : ℤ} (h : (digitsOf n.natAbs).length ≤ integerDigitLimit) :
    Reads (intText n).toList (.int n) := by
  refine reads_atom ?_ fun rest => scanAtom_intText h
  rw [toList_intText]
  exact begins_signed (canonical_wholeParts n) _

/-- A floating-point number is read from its text. -/
lemma reads_float (x : Binary64) : Reads (floatText x).toList (.float x) := by
  refine reads_atom ?_ fun rest => scanAtom_floatText x
  cases x with
  | nan => exact ⟨'N', ['a', 'N'], rfl, by decide⟩
  | infinite negative =>
    cases negative with
    | true => exact ⟨'-', "Infinity".toList, rfl, by decide⟩
    | false => exact ⟨'I', "nfinity".toList, rfl, by decide⟩
  | finite negative rank =>
    obtain ⟨n, hcanonical, -, -, htext⟩ := exists_notation_text negative rank
    rw [floatText, htext]
    · exact begins_signed hcanonical negative
    all_goals simp

/-- Text is read from its quoted form. -/
lemma reads_text (s : String) : Reads (quoted s).toList (.text s) := by
  refine ⟨⟨'\x22', _, toList_quoted s, by decide⟩, fun fuel rest hfuel _ => ?_⟩
  obtain ⟨fuel, rfl⟩ : ∃ n, fuel = n + 1 :=
    ⟨fuel - 1, by rw [toList_quoted, List.length_cons] at hfuel; omega⟩
  rw [toList_quoted, List.cons_append, List.append_assoc, List.singleton_append, scan,
    scanText_quoted]
  rfl

/-! ## Lists and objects -/

/-- Items that are joined begin like the first of them. -/
lemma exists_intercalate_eq_cons (sep : List Char) (c : Char) (cs : List Char)
    (texts : List (List Char)) : ∃ cs', sep.intercalate ((c :: cs) :: texts) = c :: cs' := by
  cases texts with
  | nil => exact ⟨cs, List.intercalate_singleton⟩
  | cons t texts => exact ⟨cs ++ sep ++ sep.intercalate (t :: texts), List.intercalate_cons_cons⟩

/-- Neither a comma nor a closing bracket can go on with a number. -/
lemma delimited_mark {c : Char} (h : c = ',' ∨ c = ']' ∨ c = '\x7d') (rest : List Char) :
    Delimited (c :: rest) := by
  rintro _ ⟨⟩
  rcases h with rfl | rfl | rfl <;> decide

/-- Spaces in front of joined items are skipped. -/
lemma skipSpace_joined {ws : List Char} (hws : ∀ c ∈ ws, isSpace c = true) {c : Char}
    (hspace : isSpace c = false) (sep cs : List Char) (texts : List (List Char))
    (tail : List Char) :
    skipSpace (ws ++ (sep.intercalate ((c :: cs) :: texts) ++ tail)) =
      sep.intercalate ((c :: cs) :: texts) ++ tail := by
  obtain ⟨cs', hjoined⟩ := exists_intercalate_eq_cons sep c cs texts
  rw [skipSpace_spaces hws, hjoined, List.cons_append, skipSpace_cons hspace]

variable {ws after : List Char}

/-- The items of a list are read through the closing bracket.

**Proof sketch.** Induction on the items. Behind an item stands a comma, and the items behind it are
those of the induction, or spaces and the bracket. -/
lemma scanItems_joined (hws : ∀ c ∈ ws, isSpace c = true) (hafter : ∀ c ∈ after, isSpace c = true)
    {texts : List (List Char)} {ds : List Document} (h : List.Forall₂ Reads texts ds) :
    ds ≠ [] → ∀ fuel rest, 2 * ((',' :: ws).intercalate texts).length + 1 ≤ fuel →
      scanItems fuel ((',' :: ws).intercalate texts ++ (after ++ ']' :: rest)) =
        some (ds, rest) := by
  induction h with
  | nil => exact fun hne => absurd rfl hne
  | @cons t d texts ds hitem hitems ih =>
    intro _ fuel rest hfuel
    obtain ⟨fuel, rfl⟩ : ∃ n, fuel = n + 1 := ⟨fuel - 1, by omega⟩
    cases hitems with
    | nil =>
      rw [List.intercalate_singleton] at hfuel ⊢
      have hend : Delimited (after ++ ']' :: rest) :=
        delimited_spaces hafter (delimited_mark (by simp) _)
      rw [scanItems, hitem.reads fuel _ (by omega) hend]
      dsimp only
      rw [skipSpace_spaces hafter, skipSpace_cons (by decide)]
      rfl
    | @cons t' d' texts ds hitem' hitems =>
      rw [List.intercalate_cons_cons, List.length_append, List.length_append,
        List.length_cons] at hfuel
      obtain ⟨c, cs, rfl, hspace, -⟩ := hitem'.begins
      rw [List.intercalate_cons_cons, List.append_assoc, List.append_assoc, List.cons_append,
        scanItems, hitem.reads fuel _ (by omega) (delimited_mark (by simp) _)]
      dsimp only
      rw [skipSpace_cons (by decide)]
      show (scanItems fuel (skipSpace (ws ++ _))).map _ = _
      rw [skipSpace_joined hws hspace, ih (by simp) fuel rest (by omega)]
      rfl

/-- Setting a field that is not there puts it at the end. -/
lemma putField_of_not_mem {fields : List (String × Document)} {key : String}
    (h : key ∉ fields.map Prod.fst) (d : Document) :
    putField fields key d = fields ++ [(key, d)] := by
  induction fields with
  | nil => rfl
  | cons field fields ih =>
    obtain ⟨k, old⟩ := field
    rw [List.map_cons, List.mem_cons, not_or] at h
    rw [putField, if_neg (Ne.symm h.1), ih h.2, List.cons_append]

/-- What is read behind the document of a field: further fields, or the closing brace. -/
def afterField (fuel : ℕ) (before : List (String × Document)) (key : String)
    (r : Document × List Char) : Option (List (String × Document) × List Char) :=
  match skipSpace r.2 with
  | ',' :: rest => scanFields fuel (putField before key r.1) (skipSpace rest)
  | '\x7d' :: rest => some (putField before key r.1, rest)
  | _ => none

/-- The key, the colon and the space before the document of a field are passed. -/
lemma scanFields_field {t : List Char} {field : String × Document} {content : List Char}
    (ht : t = '\x22' :: (field.1.toList.flatMap escapeChar ++ '\x22' :: ':' :: ' ' :: content))
    (hcontent : Reads content field.2) (fuel : ℕ) (before : List (String × Document))
    (tail : List Char) :
    scanFields (fuel + 1) before (t ++ tail) =
      (scan fuel (content ++ tail)).bind (afterField fuel before field.1) := by
  obtain ⟨c, cs, hc, hspace, -⟩ := hcontent.begins
  have hskip : skipSpace (' ' :: (content ++ tail)) = content ++ tail := by
    rw [show ' ' :: (content ++ tail) = [' '] ++ (content ++ tail) from rfl,
      skipSpace_spaces isSpace_blank, hc, List.cons_append, skipSpace_cons hspace]
  rw [ht, List.cons_append, List.append_assoc, List.cons_append, List.cons_append,
    List.cons_append, scanFields, scanText_quoted]
  dsimp only
  rw [skipSpace_cons (by decide)]
  split
  · next rest heq =>
    obtain rfl := (List.cons.inj heq).2
    rw [hskip]
    cases scan fuel (content ++ tail) <;> rfl
  · next hne => exact absurd rfl (hne _)

/-- The fields of an object are read through the closing brace.

**Proof sketch.** Induction on the fields, for whichever fields were read before. The key of a field
is not among those before it, so it is put behind them. -/
lemma scanFields_joined (hws : ∀ c ∈ ws, isSpace c = true) (hafter : ∀ c ∈ after, isSpace c = true)
    {texts : List (List Char)} {fields : List (String × Document)}
    (h : List.Forall₂ ReadsField texts fields) :
    fields ≠ [] → ∀ before : List (String × Document), ((before ++ fields).map Prod.fst).Nodup →
      ∀ fuel rest, 2 * ((',' :: ws).intercalate texts).length + 1 ≤ fuel →
        scanFields fuel before ((',' :: ws).intercalate texts ++ (after ++ '\x7d' :: rest)) =
          some (before ++ fields, rest) := by
  induction h with
  | nil => exact fun hne => absurd rfl hne
  | @cons t field texts fields hfield hfields ih =>
    intro _ before hnodup fuel rest hfuel
    obtain ⟨content, ht, hcontent⟩ := hfield
    obtain ⟨fuel, rfl⟩ : ∃ n, fuel = n + 1 := ⟨fuel - 1, by omega⟩
    have hlen : content.length < t.length := by
      rw [ht]
      simp only [List.length_cons, List.length_append]
      omega
    have hput : putField before field.1 field.2 = before ++ [field] := by
      refine putField_of_not_mem (fun hmem => ?_) field.2
      rw [List.map_append, List.map_cons] at hnodup
      exact (List.nodup_append.mp hnodup).2.2 field.1 hmem field.1 (by simp) rfl
    cases hfields with
    | nil =>
      rw [List.intercalate_singleton] at hfuel ⊢
      have hend : Delimited (after ++ '\x7d' :: rest) :=
        delimited_spaces hafter (delimited_mark (by simp) _)
      rw [scanFields_field ht hcontent, hcontent.reads fuel _ (by omega) hend, Option.bind_some,
        afterField]
      dsimp only
      rw [skipSpace_spaces hafter, skipSpace_cons (by decide), hput]
      rfl
    | @cons t' field' texts fields hfield' hfields =>
      rw [List.intercalate_cons_cons, List.length_append, List.length_append,
        List.length_cons] at hfuel
      obtain ⟨content', rfl, -⟩ := hfield'
      rw [List.intercalate_cons_cons, List.append_assoc, List.append_assoc, List.cons_append,
        scanFields_field ht hcontent,
        hcontent.reads fuel _ (by omega) (delimited_mark (by simp) _), Option.bind_some, afterField]
      dsimp only
      rw [skipSpace_cons (by decide)]
      show scanFields fuel (putField before field.1 field.2) (skipSpace (ws ++ _)) = _
      rw [skipSpace_joined hws (by decide), hput,
        ih (by simp) (before ++ [field]) (by simpa using hnodup) fuel rest (by omega),
        List.append_assoc, List.singleton_append]

/-! ## Brackets -/

/-- Brackets without items stay together. -/
lemma toList_bracket_nil (layout : Layout) (level : ℕ) (left right : String) :
    (layout.bracket level left right []).toList = left.toList ++ right.toList :=
  String.toList_append

/-- Items between brackets are joined by commas and spaces, with spaces around them. -/
lemma exists_bracket (layout : Layout) (level : ℕ) (left right text : String)
    (texts : List String) : ∃ inner ws outer : List Char,
      (∀ c ∈ inner, isSpace c = true) ∧ (∀ c ∈ ws, isSpace c = true) ∧
        (∀ c ∈ outer, isSpace c = true) ∧
      (layout.bracket level left right (text :: texts)).toList = left.toList ++ (inner ++
        ((',' :: ws).intercalate (text.toList :: texts.map String.toList) ++
          (outer ++ right.toList))) := by
  obtain ⟨ws, hsep, hws⟩ := toList_separator layout (level + 1)
  refine ⟨_, ws, _, isSpace_newLine layout (level + 1), hws, isSpace_newLine layout level, ?_⟩
  rw [Layout.bracket, List.isEmpty_cons, ← hsep, ← List.map_cons]
  simp only [Bool.false_eq_true, if_false, String.toList_append, String.toList_intercalate,
    List.append_assoc]

/-- A list is read from its items between brackets. -/
lemma reads_list (layout : Layout) (level : ℕ) {texts : List String} {ds : List Document}
    (h : List.Forall₂ Reads (texts.map String.toList) ds) :
    Reads (layout.bracket level "[" "]" texts).toList (.list ds) := by
  cases texts with
  | nil =>
    obtain rfl := List.forall₂_nil_left_iff.mp h
    rw [toList_bracket_nil]
    refine ⟨⟨'[', [']'], rfl, by decide⟩, fun fuel rest hfuel _ => ?_⟩
    change 2 * 2 ≤ fuel at hfuel
    obtain ⟨fuel, rfl⟩ : ∃ n, fuel = n + 2 := ⟨fuel - 2, by omega⟩
    rfl
  | cons t texts =>
    obtain ⟨inner, ws, outer, hinner, hws, houter, htext⟩ :=
      exists_bracket layout level "[" "]" t texts
    obtain ⟨d, ds, hitem, -, rfl⟩ := List.forall₂_cons_left_iff.mp h
    obtain ⟨c, cs, ht, hspace, hclose⟩ := hitem.begins
    have hitems := scanItems_joined hws houter h (by simp)
    rw [List.map_cons, ht] at hitems
    rw [htext, ht]
    refine ⟨⟨'[', _, rfl, by decide⟩, fun fuel rest hfuel _ => ?_⟩
    obtain ⟨cs', hjoined⟩ :=
      exists_intercalate_eq_cons (',' :: ws) c cs (texts.map String.toList)
    simp only [List.length_append] at hfuel
    change 2 * (1 + (_ + (_ + (_ + 1)))) ≤ fuel at hfuel
    obtain ⟨fuel, rfl⟩ : ∃ n, fuel = n + 1 := ⟨fuel - 1, by omega⟩
    show scan (fuel + 1) ('[' :: ((inner ++ (_ ++ (outer ++ [']']))) ++ rest)) = _
    rw [List.append_assoc, List.append_assoc, List.append_assoc, List.singleton_append, scan,
      skipSpace_joined hinner hspace]
    have hscan := hitems fuel rest (by omega)
    rw [hjoined, List.cons_append] at hscan ⊢
    split
    · next heq => exact absurd (List.cons.inj heq).1 hclose
    · rw [hscan]
      rfl

/-- An object is read from its fields between braces, if no key occurs twice. -/
lemma reads_object (layout : Layout) (level : ℕ) {texts : List String}
    {fields : List (String × Document)}
    (h : List.Forall₂ ReadsField (texts.map String.toList) fields)
    (hnodup : (fields.map Prod.fst).Nodup) :
    Reads (layout.bracket level "\x7b" "\x7d" texts).toList (.object fields) := by
  cases texts with
  | nil =>
    obtain rfl := List.forall₂_nil_left_iff.mp h
    rw [toList_bracket_nil]
    refine ⟨⟨'\x7b', ['\x7d'], rfl, by decide⟩, fun fuel rest hfuel _ => ?_⟩
    change 2 * 2 ≤ fuel at hfuel
    obtain ⟨fuel, rfl⟩ : ∃ n, fuel = n + 2 := ⟨fuel - 2, by omega⟩
    rfl
  | cons t texts =>
    obtain ⟨inner, ws, outer, hinner, hws, houter, htext⟩ :=
      exists_bracket layout level "\x7b" "\x7d" t texts
    obtain ⟨field, fields, ⟨content, ht, -⟩, -, rfl⟩ := List.forall₂_cons_left_iff.mp h
    have hfields := scanFields_joined hws houter h (by simp) [] hnodup
    rw [List.map_cons, ht] at hfields
    rw [htext, ht]
    refine ⟨⟨'\x7b', _, rfl, by decide⟩, fun fuel rest hfuel _ => ?_⟩
    obtain ⟨cs', hjoined⟩ := exists_intercalate_eq_cons (',' :: ws) '\x22'
      (field.1.toList.flatMap escapeChar ++ '\x22' :: ':' :: ' ' :: content)
      (texts.map String.toList)
    simp only [List.length_append] at hfuel
    change 2 * (1 + (_ + (_ + (_ + 1)))) ≤ fuel at hfuel
    obtain ⟨fuel, rfl⟩ : ∃ n, fuel = n + 1 := ⟨fuel - 1, by omega⟩
    show scan (fuel + 1) ('\x7b' :: ((inner ++ (_ ++ (outer ++ ['\x7d']))) ++ rest)) = _
    rw [List.append_assoc, List.append_assoc, List.append_assoc, List.singleton_append, scan,
      skipSpace_joined hinner (by decide)]
    have hscan := hfields fuel rest (by omega)
    rw [hjoined, List.cons_append] at hscan ⊢
    show (scanFields fuel [] ('\x22' :: _)).map _ = _
    rw [hscan]
    rfl

/-! ## Documents -/

mutual

/-- **A document is read from its text**, in whichever layout and at whichever level.

**Proof sketch.** Induction on the document, together with the items of a list and the fields of an
object. -/
theorem reads_write (layout : Layout) :
    ∀ (d : Document) (level : ℕ), d.IsReadable → Reads (writeAt layout level d).toList d
  | .null, _, _ => reads_null
  | .bool b, _, _ => reads_bool b
  | .int _, _, h => reads_int h
  | .float x, _, _ => reads_float x
  | .text s, _, _ => reads_text s
  | .list items, level, h => reads_list layout level (reads_writeItems layout items (level + 1) h)
  | .object fields, level, h =>
    reads_object layout level (reads_writeFields layout fields (level + 1) h.2) h.1

/-- The items of a list are read from their texts. -/
theorem reads_writeItems (layout : Layout) :
    ∀ (ds : List Document) (level : ℕ), AreReadable ds →
      List.Forall₂ Reads ((writeItems layout level ds).map String.toList) ds
  | [], _, _ => List.Forall₂.nil
  | d :: ds, level, h =>
    List.Forall₂.cons (reads_write layout d level h.1) (reads_writeItems layout ds level h.2)

/-- The fields of an object are read from their texts. -/
theorem reads_writeFields (layout : Layout) :
    ∀ (fields : List (String × Document)) (level : ℕ), FieldsReadable fields →
      List.Forall₂ ReadsField ((writeFields layout level fields).map String.toList) fields
  | [], _, _ => List.Forall₂.nil
  | (key, d) :: fields, level, h => by
    refine List.Forall₂.cons ⟨(writeAt layout level d).toList, ?_, reads_write layout d level h.1⟩
      (reads_writeFields layout fields level h.2)
    rw [String.toList_append, String.toList_append, toList_quoted]
    simp

end

/-- **A written document is read back**, in whichever layout. -/
theorem read_write (layout : Layout) {d : Document} (h : d.IsReadable) :
    read? (d.write layout) = some d := by
  have hreads := reads_write layout d 0 h
  rw [write, read?]
  obtain ⟨c, cs, ht, hspace, -⟩ := hreads.begins
  have hskip : skipSpace (writeAt layout 0 d).toList = (writeAt layout 0 d).toList ++ [] := by
    rw [ht, skipSpace_cons hspace, List.append_nil]
  rw [hskip, hreads.reads _ [] (by omega) (by rintro _ ⟨⟩)]
  rfl

end StagedQuery.Document
