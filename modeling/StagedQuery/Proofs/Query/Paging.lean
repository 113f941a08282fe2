import Mathlib.Data.List.Basic
import StagedQuery.Proofs.Query.Answer

set_option relaxedAutoImplicit false
set_option autoImplicit false

/-!
# Pages of an answer

A `SELECT` with `LIMIT n OFFSET i * n` shows the page with the number `i` of the rows that it shows
without the two, since the page is taken last, behind the projection and behind `DISTINCT`. So the
pages one after the other are all rows in their order.

## Main definitions

* `pageOf`, `pageCount` — a page of rows, and the number of pages that hold rows.
* `Select.page` — the statement that asks for one page.
* `Select.Gives` — the rows that a statement comes to.

## Main results

* `flatMap_pageOf_eq_self`, `pageOf_eq_nil`, `length_pageOf` — the pages one after the other, and
  how many rows a page holds.
* `Select.answer_page` — the answer to the statement for a page.
* `Select.gives_answer` — a statement that is not refused comes to its answer.
-/

namespace StagedQuery

/-! ## Pages -/

section

variable {α : Type} {size : ℕ}

/-- A page of rows, by its number from zero. -/
def pageOf (size : ℕ) (rows : List α) (number : ℕ) : List α :=
  (rows.drop (number * size)).take size

/-- The number of pages that hold rows. -/
def pageCount (size : ℕ) (rows : List α) : ℕ := (rows.length + size - 1) / size

/-- So many pages hold rows as are needed to hold all of them. -/
lemma pageCount_le (hsize : 0 < size) {rows : List α} {count : ℕ} :
    pageCount size rows ≤ count ↔ rows.length ≤ count * size := by
  rw [pageCount, Nat.div_le_iff_le_mul hsize]
  omega

/-- **The first pages one after the other** are the first rows.

**Proof sketch.** Induction on the number of pages. The next page holds the rows behind those of the
pages before it. -/
lemma flatMap_pageOf (rows : List α) (count : ℕ) :
    (List.range count).flatMap (pageOf size rows) = rows.take (count * size) := by
  induction count with
  | zero => rw [Nat.zero_mul, List.take_zero]; rfl
  | succ count ih =>
    rw [List.range_succ, List.flatMap_append, ih, List.flatMap_singleton, Nat.succ_mul,
      List.take_add]
    rfl

/-- **The pages that hold rows**, one after the other, are all rows. -/
lemma flatMap_pageOf_eq_self (hsize : 0 < size) {rows : List α} {count : ℕ}
    (h : pageCount size rows ≤ count) : (List.range count).flatMap (pageOf size rows) = rows := by
  rw [flatMap_pageOf, List.take_of_length_le ((pageCount_le hsize).mp h)]

/-- The pages behind those that hold rows are empty. -/
lemma pageOf_eq_nil (hsize : 0 < size) (rows : List α) (number : ℕ) :
    pageOf size rows number = [] ↔ pageCount size rows ≤ number := by
  rw [pageOf, List.take_eq_nil_iff, List.drop_eq_nil_iff, pageCount_le hsize]
  exact or_iff_right (Nat.ne_of_gt hsize)

/-- **Every page but the last one** that holds rows is full. -/
lemma length_pageOf (hsize : 0 < size) (rows : List α) {number : ℕ}
    (h : number + 1 < pageCount size rows) : (pageOf size rows number).length = size := by
  rw [← Nat.not_le, pageCount_le hsize, Nat.succ_mul] at h
  rw [pageOf, List.length_take, List.length_drop]
  omega

end

/-! ## Statements for pages -/

namespace Select

/-- The statement that asks for one page, by its number from zero, of what a statement shows. -/
def page (s : Select) (size number : ℕ) : Select :=
  { s with limit := some size, offset := some (number * size) }

/-- The rows that a statement comes to, under the labels that it shows them by: the operators that
it asks for are applied to its scan one after the other. -/
def Gives (s : Select) (store : Store) (labels : List Value) (rows : List Row) : Prop :=
  ∃ first phase, s.scan store = .ok first ∧
    Operator.run (Operator.all.filter (·.asked s)) first = .ok ⟨rows, labels, s, phase⟩

variable {s : Select} {store : Store}

/-- **The answer to the statement for a page** is that page of the answer. -/
lemma answer_page (hlimit : s.limit = none) (hoffset : s.offset = none) (labels : List Value)
    (rows : List Row) (size number : ℕ) :
    (s.page size number).answer labels rows = pageOf size (s.answer labels rows) number := by
  have hall : s.answer labels rows = s.unrepeated labels (s.candidates labels rows) := by
    rw [answer, paged, hlimit, hoffset]
    rfl
  rw [hall]
  rfl

/-- A statement that scans a table is not refused. -/
lemma refusal?_of_scan {first : Selection} (h : s.scan store = .ok first) :
    s.refusal? store = none := by
  cases hrefusal : s.refusal? store with
  | none => rfl
  | some e =>
    rw [scan_of_refusal hrefusal] at h
    cases h

/-- **A statement that is not refused** comes to its answer. -/
lemma gives_answer (hstore : store.WellFormed) (h : s.refusal? store = none) {t : Table}
    (ht : store.find? s.table = some t) :
    s.Gives store (s.labels t.schema) (s.answer (s.labels t.schema) t.rows) := by
  obtain ⟨t', ht', hscan⟩ := scan_of_no_refusal h
  obtain rfl := Option.some.inj (ht.symm.trans ht')
  obtain ⟨phase, hrun⟩ := Operator.run_asked s (s.labels t.schema) t.rows fun row hrow =>
    ((hstore.find? ht).rows row hrow).plain
  exact ⟨_, phase, hscan, hrun⟩

end Select

end StagedQuery
