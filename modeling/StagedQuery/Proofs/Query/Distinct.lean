import Mathlib.Data.List.FinRange
import Mathlib.Data.List.Pairwise
import Mathlib.Data.List.Sublists
import StagedQuery.Proofs.Value.Keys
import StagedQuery.Query.Selection

set_option relaxedAutoImplicit false
set_option autoImplicit false

/-!
# The first row of each signature

`DISTINCT` goes through the rows once and keeps those whose signature it has not seen. The
signatures that it has seen are compared with the new one as keys, across kinds: a truth value, an
integer and a floating-point number are the same key if they are exactly the same number.

This file says which rows are kept without the signatures that were seen. Every scalar stands for a
key, and two scalars are the same exactly if their keys are equal. A row is kept exactly if no
earlier row has the same keys in the columns to show.

## Main definitions

* `Value.Key`, `Value.key?` — what a scalar is compared by.
* `rowKeys` — what a row is compared by.
* `ScalarRows` — rows of scalars.
* `newPlaces` — the places of the rows that have the keys of no earlier row.

## Main results

* `Value.same_iff_key` — two scalars are the same exactly if their keys are equal.
* `distinctFrom_eq` — the rows that are kept behind signatures that were seen.
* `Operator.apply_distinct` — what `DISTINCT` makes of a selection, and that it does no more when it
  is applied again.
-/

namespace StagedQuery

/-! ## Keys of scalars -/

namespace Value

/-- What a scalar is compared by: an exact number, an infinity, a text, or `null`. -/
inductive Key where
  | null
  | number (q : Rat)
  | infinite (negative : Bool)
  | text (s : String)
deriving DecidableEq

/-- The key of a scalar. Truth values count as 1 and 0, and integers and finite floating-point
numbers as their exact values. The floating-point value that is no number has no key, and nor have
lists, objects, ranges and tuples. -/
def key? : Value → Option Key
  | null => some .null
  | bool b => some (.number (if b then 1 else 0))
  | int n => some (.number n)
  | float .nan => none
  | float (.infinite negative) => some (.infinite negative)
  | float (.finite negative rank) => (Binary64.finite negative rank).toRat?.map .number
  | text s => some (.text s)
  | list _ | object _ | range _ _ | tuple _ => none

variable {a b v : Value}

/-- The scalars with a number as their key are the numerals of that exact value. -/
lemma key?_eq_number {q : Rat} : v.key? = some (.number q) ↔ v.keyNumber? = some q := by
  cases v with
  | float x => cases x <;> simp [key?, keyNumber?, Binary64.toRat?]
  | _ => simp [key?, keyNumber?]

/-- The infinities alone have infinite keys. -/
lemma key?_eq_infinite {negative : Bool} :
    v.key? = some (.infinite negative) ↔ v = float (.infinite negative) := by
  cases v with
  | float x => cases x <;> simp [key?, Binary64.toRat?]
  | _ => simp [key?]

/-- Only a text has it as its key. -/
lemma key?_eq_text {s : String} : v.key? = some (.text s) ↔ v = text s := by
  cases v with
  | float x => cases x <;> simp [key?, Binary64.toRat?]
  | _ => simp [key?]

/-- Only `null` has the key of `null`. -/
lemma key?_eq_null : v.key? = some .null ↔ v = null := by
  cases v with
  | float x => cases x <;> simp [key?, Binary64.toRat?]
  | _ => simp [key?]

/-- What has an exact value is a numeral. -/
lemma isNumeral_of_keyNumber? {q : Rat} (h : v.keyNumber? = some q) : v.isNumeral = true := by
  cases v with
  | bool | int | float => rfl
  | null | text | list | object | range | tuple => cases h

/-- **Two scalars are the same exactly if their keys are equal.** -/
theorem same_iff_key (ha : a.key?.isSome = true) : a.same b = true ↔ a.key? = b.key? := by
  obtain ⟨key, hkey⟩ := Option.isSome_iff_exists.mp ha
  rw [hkey, @eq_comm _ (some key)]
  cases key with
  | null => rw [key?_eq_null.mp hkey, same_null, key?_eq_null]
  | text s => rw [key?_eq_text.mp hkey, same_text, key?_eq_text]
  | infinite negative =>
    rw [key?_eq_infinite.mp hkey, same_numeral (show (float _).isNumeral = true from rfl),
      key?_eq_infinite]
    refine ⟨fun h => (h.2.2 rfl).symm, ?_⟩
    rintro rfl
    exact ⟨rfl, rfl, fun _ => rfl⟩
  | number q =>
    have hq := key?_eq_number.mp hkey
    rw [same_numeral (isNumeral_of_keyNumber? hq), hq, key?_eq_number]
    exact ⟨fun h => h.2.1.symm, fun h => ⟨isNumeral_of_keyNumber? h, h.symm, by simp⟩⟩

/-- A scalar can be a key. -/
lemma unhashable?_of_key? (h : v.key?.isSome = true) : v.unhashable? = none := by
  cases v with
  | list | object | range | tuple => cases h
  | _ => rfl

/-- Sequences of scalars are the same exactly if their keys are equal. -/
lemma sameAll_iff_key {xs ys : List Value} (hxs : ∀ x ∈ xs, x.key?.isSome = true) :
    sameAll xs ys = true ↔ xs.map key? = ys.map key? := by
  induction xs generalizing ys with
  | nil => cases ys <;> simp [sameAll]
  | cons x xs ih =>
    cases ys with
    | nil => simp [sameAll]
    | cons y ys =>
      rw [sameAll, Bool.and_eq_true, same_iff_key (hxs x (by simp)),
        ih fun z hz => hxs z (by simp [hz]), List.map_cons, List.map_cons, List.cons.injEq]

end Value

/-! ## Keys of rows -/

/-- What a row is compared by: the keys of its values in some columns. -/
def rowKeys (labels : List Value) (row : Row) : List (Option Value.Key) :=
  (signature labels row).map Value.key?

/-- Rows of scalars: in the columns to show, every value has a key. -/
def ScalarRows (labels : List Value) (rows : List Row) : Prop :=
  ∀ row ∈ rows, ∀ label ∈ labels, (row.get label).key?.isSome = true

section

variable {labels : List Value} {rows : List Row} {row : Row}

/-- The values of a row of scalars have keys. -/
lemma ScalarRows.of_mem_signature (h : ScalarRows labels rows) (hrow : row ∈ rows) :
    ∀ v ∈ signature labels row, v.key?.isSome = true := by
  intro v hv
  obtain ⟨label, hlabel, rfl⟩ := List.mem_map.mp hv
  exact h row hrow label hlabel

/-- Rows of scalars can all be compared. -/
lemma ScalarRows.distinctRows (h : ScalarRows labels rows) :
    distinctRows labels rows = .ok (distinctFrom labels [] rows) := by
  have hnone : (rows.findSome? fun row => (signature labels row).findSome? Value.unhashable?) =
      none := by
    refine List.findSome?_eq_none_iff.mpr fun row hrow => ?_
    exact List.findSome?_eq_none_iff.mpr fun v hv =>
      Value.unhashable?_of_key? (h.of_mem_signature hrow v hv)
  rw [StagedQuery.distinctRows, hnone]

/-- A signature was seen exactly if its keys are those of a signature that was seen. -/
lemma any_sameAll {seen : List (List Value)}
    (hseen : ∀ values ∈ seen, ∀ v ∈ values, v.key?.isSome = true) :
    seen.any (Value.sameAll · (signature labels row)) = true ↔
      rowKeys labels row ∈ seen.map (List.map Value.key?) := by
  rw [List.any_eq_true, List.mem_map]
  refine exists_congr fun values => and_congr_right fun hvalues => ?_
  rw [Value.sameAll_iff_key (hseen values hvalues), rowKeys]

/-! ## The rows that are kept -/

/-- A row has new keys: none that were seen, and those of no earlier row. -/
def NewAt (labels : List Value) (seen : List (List (Option Value.Key))) (rows : List Row)
    (i : Fin rows.length) : Prop :=
  rowKeys labels (rows.get i) ∉ seen ∧
    ∀ j < i, rowKeys labels (rows.get j) ≠ rowKeys labels (rows.get i)

instance (labels : List Value) (seen : List (List (Option Value.Key))) (rows : List Row)
    (i : Fin rows.length) : Decidable (NewAt labels seen rows i) :=
  inferInstanceAs (Decidable (_ ∧ _))

/-- The places of the rows with new keys, in order. -/
def newPlaces (labels : List Value) (seen : List (List (Option Value.Key))) (rows : List Row) :
    List (Fin rows.length) :=
  (List.finRange rows.length).filter fun i => decide (NewAt labels seen rows i)

/-- Whether keys are new depends on which were seen, but not on their order. -/
lemma newPlaces_congr {seen seen' : List (List (Option Value.Key))}
    (h : ∀ keys, keys ∈ seen ↔ keys ∈ seen') :
    newPlaces labels seen rows = newPlaces labels seen' rows := by
  refine List.filter_congr fun i _ => ?_
  rw [decide_eq_decide, NewAt, NewAt, h]

/-- The first row has new keys if they were not seen. -/
lemma newAt_zero {seen : List (List (Option Value.Key))} :
    NewAt labels seen (row :: rows) 0 ↔ rowKeys labels row ∉ seen :=
  and_iff_left fun _ hj => absurd hj (Fin.not_lt_zero _)

/-- A later row has new keys if they are new behind those of the first row. -/
lemma newAt_succ {seen : List (List (Option Value.Key))} {i : Fin rows.length} :
    NewAt labels seen (row :: rows) i.succ ↔ NewAt labels (rowKeys labels row :: seen) rows i := by
  constructor
  · rintro ⟨hnew, hfirst⟩
    refine ⟨?_, fun j hj => hfirst j.succ (Fin.succ_lt_succ_iff.mpr hj)⟩
    rw [List.mem_cons, not_or]
    exact ⟨(hfirst 0 (Fin.succ_pos i)).symm, hnew⟩
  · rintro ⟨hnew, hfirst⟩
    rw [List.mem_cons, not_or] at hnew
    refine ⟨hnew.2, Fin.cases (fun _ => Ne.symm hnew.1) fun j hj => ?_⟩
    exact hfirst j (Fin.succ_lt_succ_iff.mp hj)

/-- **The places behind a first row**: its own if its keys were not seen, and those that are left
once they were. -/
lemma newPlaces_cons (seen : List (List (Option Value.Key))) :
    newPlaces labels seen (row :: rows) =
      (if rowKeys labels row ∈ seen then [] else [0]) ++
        (newPlaces labels (rowKeys labels row :: seen) rows).map Fin.succ := by
  have hrest : (List.finRange rows.length).filter
      ((fun i => decide (NewAt labels seen (row :: rows) i)) ∘ Fin.succ) =
        newPlaces labels (rowKeys labels row :: seen) rows :=
    List.filter_congr fun i _ => decide_eq_decide.mpr newAt_succ
  show (List.finRange (rows.length + 1)).filter _ = _
  rw [List.finRange_succ, List.filter_cons, List.filter_map, hrest]
  simp only [decide_eq_true_iff, newAt_zero, ite_not]
  split <;> rfl

/-- **The rows that are kept** behind signatures that were seen stand at the first places of their
keys.

**Proof sketch.** Induction on the rows. If the keys of the first row were seen, it has no place,
and seeing them again changes nothing for the rows behind it. -/
theorem distinctFrom_eq (h : ScalarRows labels rows) :
    ∀ seen : List (List Value), (∀ values ∈ seen, ∀ v ∈ values, v.key?.isSome = true) →
      distinctFrom labels seen rows =
        (newPlaces labels (seen.map (List.map Value.key?)) rows).map rows.get := by
  induction rows with
  | nil => exact fun _ _ => rfl
  | cons row rows ih =>
    intro seen hseen
    have hrest := ih fun r hr => h r (by simp [hr])
    have hsignature : ∀ v ∈ signature labels row, v.key?.isSome = true :=
      h.of_mem_signature (by simp)
    have hget : (row :: rows).get ∘ Fin.succ = rows.get := rfl
    rw [distinctFrom, newPlaces_cons, List.map_append, List.map_map, hget]
    simp only [any_sameAll hseen]
    split
    · rename_i hmem
      rw [List.map_nil, List.nil_append, hrest seen hseen]
      refine congrArg _ (newPlaces_congr fun keys => ?_)
      rw [List.mem_cons]
      exact ⟨.inr, fun hkeys => hkeys.elim (fun heq => heq ▸ hmem) id⟩
    · rw [hrest (signature labels row :: seen) (List.forall_mem_cons.mpr ⟨hsignature, hseen⟩)]
      rfl

/-- The places of new keys are in order. -/
lemma pairwise_newPlaces (seen : List (List (Option Value.Key))) :
    (newPlaces labels seen rows).Pairwise (· < ·) :=
  (List.pairwise_lt_finRange rows.length).filter _

/-- No two rows that are kept have the same keys. -/
lemma pairwise_ne_newPlaces (seen : List (List (Option Value.Key))) :
    (newPlaces labels seen rows).Pairwise fun i j =>
      rowKeys labels (rows.get i) ≠ rowKeys labels (rows.get j) := by
  refine (pairwise_newPlaces seen).imp_of_mem fun {i j} _ hj hij => ?_
  exact (decide_eq_true_iff.mp (List.mem_filter.mp hj).2).2 i hij

/-- **No keys are lost**: they are kept at the same place or at an earlier one.

**Proof sketch.** Strong induction on the place. If an earlier row has the same keys, they are kept
at or before that one; else they are new. -/
lemma exists_newPlaces (i : Fin rows.length) : ∃ j ∈ newPlaces labels [] rows,
    j ≤ i ∧ rowKeys labels (rows.get j) = rowKeys labels (rows.get i) := by
  induction i using WellFoundedLT.induction with
  | ind i ih =>
    by_cases hnew : NewAt labels [] rows i
    · exact ⟨i, List.mem_filter.mpr ⟨List.mem_finRange i, decide_eq_true hnew⟩, le_rfl, rfl⟩
    · obtain ⟨j, hij, hkeys⟩ : ∃ j < i,
          rowKeys labels (rows.get j) = rowKeys labels (rows.get i) := by
        by_contra hnone
        push Not at hnone
        exact hnew ⟨List.not_mem_nil, hnone⟩
      obtain ⟨first, hfirst, hle, heq⟩ := ih j hij
      exact ⟨first, hfirst, hle.trans hij.le, heq.trans hkeys⟩

/-- Rows of which no two have the same keys are all kept. -/
lemma newPlaces_of_pairwise (h : rows.Pairwise fun a b => rowKeys labels a ≠ rowKeys labels b) :
    newPlaces labels [] rows = List.finRange rows.length := by
  refine List.filter_eq_self.mpr fun i _ => decide_eq_true ⟨List.not_mem_nil, fun j hj => ?_⟩
  exact List.pairwise_iff_get.mp h j i hj

end

/-! ## `DISTINCT` -/

/-- **`DISTINCT` keeps the first row of each signature.** Let the values of the rows in the columns
to show be scalars other than the floating-point value that is no number. The rows that `DISTINCT`
keeps are those at some places, in order: no two of them have the same keys in the columns to show,
every row has a kept row of the same keys at its place or an earlier one, and a second `DISTINCT`
changes nothing. Rows are compared by the exact values of their numbers, whether these are integers,
floating-point numbers or truth values, and `null` is compared as equal to `null`. -/
theorem Operator.apply_distinct (s : Selection) (h : ScalarRows s.labels s.rows) :
    ∃ places : List (Fin s.rows.length),
      Operator.distinct.apply s =
        .ok ⟨places.map s.rows.get, s.labels, s.select, .distinct⟩ ∧
      places.Pairwise (· < ·) ∧
      (places.Pairwise fun i j =>
        rowKeys s.labels (s.rows.get i) ≠ rowKeys s.labels (s.rows.get j)) ∧
      (∀ i, ∃ j ∈ places, j ≤ i ∧
        rowKeys s.labels (s.rows.get j) = rowKeys s.labels (s.rows.get i)) ∧
      Operator.distinct.apply ⟨places.map s.rows.get, s.labels, s.select, .distinct⟩ =
        .ok ⟨places.map s.rows.get, s.labels, s.select, .distinct⟩ := by
  have hkept : ScalarRows s.labels ((newPlaces s.labels [] s.rows).map s.rows.get) := by
    intro row hrow
    obtain ⟨i, -, rfl⟩ := List.mem_map.mp hrow
    exact h _ (List.get_mem s.rows i)
  have hdifferent : ((newPlaces s.labels [] s.rows).map s.rows.get).Pairwise fun a b =>
      rowKeys s.labels a ≠ rowKeys s.labels b :=
    List.pairwise_map.mpr (pairwise_ne_newPlaces [])
  refine ⟨newPlaces s.labels [] s.rows, ?_, pairwise_newPlaces [], pairwise_ne_newPlaces [],
    exists_newPlaces, ?_⟩
  · rw [apply, rowsOf, h.distinctRows, distinctFrom_eq h [] (by simp)]
    rfl
  · rw [apply, rowsOf, hkept.distinctRows, distinctFrom_eq hkept [] (by simp), List.map_nil,
      newPlaces_of_pairwise hdifferent, List.map_get_finRange]
    rfl

/-- Seven rows of one column. The first three are one number in three kinds, then `null` stands
twice, and the last two numbers differ by one where floating-point numbers of their size do not. -/
def mixedRows : Selection :=
  ⟨[.int 1, .float (.ofQuotient false 1 1), .bool true, .null, .null, .int 9007199254740993,
      .float (.ofQuotient false 9007199254740992 1)].map fun v => [(.text "a", v)],
    [.text "a"], ⟨"t", [], none, none, none, none, true⟩, .projected⟩

/-- Four of the seven rows are kept. -/
theorem apply_distinct_mixedRows :
    ∃ places : List (Fin mixedRows.rows.length), places.length = 4 ∧
      (places.Pairwise fun i j => rowKeys mixedRows.labels (mixedRows.rows.get i) ≠
        rowKeys mixedRows.labels (mixedRows.rows.get j)) ∧
      ∀ i, ∃ j ∈ places, j ≤ i ∧ rowKeys mixedRows.labels (mixedRows.rows.get j) =
        rowKeys mixedRows.labels (mixedRows.rows.get i) := by
  have hscalar : ScalarRows mixedRows.labels mixedRows.rows := by
    unfold ScalarRows
    decide +kernel
  have hcount : (Operator.distinct.apply mixedRows).toOption.map (·.rows.length) = some 4 := by
    decide +kernel
  obtain ⟨places, happly, -, hdifferent, hnone, -⟩ := Operator.apply_distinct mixedRows hscalar
  rw [happly] at hcount
  refine ⟨places, ?_, hdifferent, hnone⟩
  rw [← List.length_map mixedRows.rows.get]
  exact Option.some.inj hcount

end StagedQuery
