import Mathlib.Algebra.Order.Ring.Rat
import Mathlib.Data.Char
import Mathlib.Data.List.Lex
import StagedQuery.Query.Selection

set_option relaxedAutoImplicit false
set_option autoImplicit false

/-!
# The order of values

Numbers are ordered by their exact value and texts by their code points, and both orders are total.
The comparison of values chooses between them pair by pair: it takes the first if both values look
like numbers, and else the second. So it is total, but it can go round in a circle where two values
that look like numbers meet one that does not. It is transitive everywhere else, and a column in
which no such three values meet is sorted in the one way that its values allow.

## Main definitions

* `Value.looksNumeric` — whether a value is or looks like a number.
* `Value.IsCell` — the values that statements store, besides `null`.
* `Value.Comparable` — values of which no two different ones look like numbers, or all do.
* `columnCells` — the values of a column in some rows.

## Main results

* `Value.compare_swap` — comparing the other way round gives the other outcome.
* `Value.Comparable.isLE_trans` — the order of comparable values is transitive.
* `Value.not_isLE_trans` — the order of all cells is not.
* `Value.compare_preorder` — both, and what they mean for the rows of a column.
-/

namespace StagedQuery

namespace Value

/-! ## The two orders -/

section

variable {α β : Type} [LinearOrder β] (key : α → β) {cmp : α → α → Ordering}

/-- A comparison that tells less and greater apart by a key with a linear order is total and
transitive. -/
private lemma transCmp_of_key (hlt : ∀ a b, cmp a b = .lt ↔ key a < key b)
    (hgt : ∀ a b, cmp a b = .gt ↔ key b < key a) : Std.TransCmp cmp := by
  have hle : ∀ a b, (cmp a b).isLE = true ↔ key a ≤ key b := by
    intro a b
    rw [Ordering.isLE_iff_ne_gt, hgt, not_lt]
  have hswap : ∀ a b, cmp a b = (cmp b a).swap := by
    intro a b
    cases h : cmp b a with
    | lt => exact (hgt a b).mpr ((hlt b a).mp h)
    | gt => exact (hlt a b).mpr ((hgt b a).mp h)
    | eq =>
      cases h' : cmp a b with
      | lt => simp [(hgt b a).mpr ((hlt a b).mp h')] at h
      | gt => simp [(hlt b a).mpr ((hgt a b).mp h')] at h
      | eq => rfl
  exact @Std.TransCmp.mk _ _ ⟨hswap _ _⟩ fun {a b c} hab hbc =>
    (hle a c).mpr (((hle a b).mp hab).trans ((hle b c).mp hbc))

end

/-- Exact numbers are compared by their linear order. -/
instance : Std.TransCmp compareRat :=
  transCmp_of_key id (by grind [compareRat]) (by grind [compareRat])

/-- Texts are compared by the linear order on their characters. -/
instance : Std.TransCmp compareText :=
  have hasymm (s t : List Char) : s < t → ¬ t < s := lt_asymm
  transCmp_of_key String.toList (by grind [compareText]) (by grind [compareText])

/-! ## The choice between them -/

/-- Whether a value is or looks like a number. -/
def looksNumeric (v : Value) : Bool := v.number?.isSome

/-- The values that statements store, besides `null`: integers, finite floating-point numbers and
text. -/
def IsCell : Value → Prop
  | int _ => True
  | float x => x.isFinite = true
  | text _ => True
  | _ => False

/-- Two values of which one does not look like a number are compared by their display forms. -/
lemma compare_of_plain {a b : Value} (h : ¬ (a.looksNumeric = true ∧ b.looksNumeric = true)) :
    a.compare b = compareText a.display b.display := by
  unfold compare
  split
  next m n hm hn => exact absurd ⟨by simp [looksNumeric, hm], by simp [looksNumeric, hn]⟩ h
  next => rfl

/-- **The comparison is total:** comparing two values the other way round gives the other
outcome. -/
theorem compare_swap (a b : Value) : a.compare b = (b.compare a).swap := by
  by_cases h : a.looksNumeric = true ∧ b.looksNumeric = true
  · obtain ⟨m, hm⟩ := Option.isSome_iff_exists.mp h.1
    obtain ⟨n, hn⟩ := Option.isSome_iff_exists.mp h.2
    simp only [compare, hm, hn]
    exact Std.OrientedCmp.eq_swap
  · rw [compare_of_plain h, compare_of_plain (fun h' => h h'.symm)]
    exact Std.OrientedCmp.eq_swap

instance : Std.OrientedCmp compare := ⟨compare_swap _ _⟩

/-! ## Transitivity -/

/-- The order is transitive among values that all look like numbers. -/
lemma isLE_trans_of_numeric {a b c : Value} (ha : a.looksNumeric = true)
    (hb : b.looksNumeric = true) (hc : c.looksNumeric = true) (hab : (a.compare b).isLE = true)
    (hbc : (b.compare c).isLE = true) : (a.compare c).isLE = true := by
  obtain ⟨l, hl⟩ := Option.isSome_iff_exists.mp ha
  obtain ⟨m, hm⟩ := Option.isSome_iff_exists.mp hb
  obtain ⟨n, hn⟩ := Option.isSome_iff_exists.mp hc
  simp only [compare, hl, hm, hn] at hab hbc ⊢
  exact Std.TransCmp.isLE_trans hab hbc

/-- Values among which no two different ones look like numbers, or all do: values that are all
compared in one way. -/
def Comparable (cells : List Value) : Prop :=
  (∀ v ∈ cells, v.looksNumeric = true) ∨
    ∀ v ∈ cells, ∀ w ∈ cells, v.looksNumeric = true → w.looksNumeric = true → v = w

/-- **The order of comparable values is transitive.**

**Proof sketch.** If all three values look like numbers, their exact values are compared. Otherwise
two of them that look like numbers are the same value, and then one of the three comparisons is that
of a value with itself; if there are no such two, only display forms are compared. -/
theorem Comparable.isLE_trans {cells : List Value} (h : Comparable cells) {a b c : Value}
    (ha : a ∈ cells) (hb : b ∈ cells) (hc : c ∈ cells) (hab : (a.compare b).isLE = true)
    (hbc : (b.compare c).isLE = true) : (a.compare c).isLE = true := by
  obtain hall | honce := h
  · exact isLE_trans_of_numeric (hall a ha) (hall b hb) (hall c hc) hab hbc
  by_cases hnab : a.looksNumeric = true ∧ b.looksNumeric = true
  · rwa [honce a ha b hb hnab.1 hnab.2]
  by_cases hnbc : b.looksNumeric = true ∧ c.looksNumeric = true
  · rwa [← honce b hb c hc hnbc.1 hnbc.2]
  by_cases hnac : a.looksNumeric = true ∧ c.looksNumeric = true
  · rw [honce a ha c hc hnac.1 hnac.2]
    exact Std.ReflCmp.isLE_rfl
  rw [compare_of_plain hnab] at hab
  rw [compare_of_plain hnbc] at hbc
  rw [compare_of_plain hnac]
  exact Std.TransCmp.isLE_trans hab hbc

/-- Three texts that go round in a circle: the first two are compared as numbers, the others as
texts. -/
lemma compare_circle :
    (text "9").compare (text "10") = .lt ∧ (text "10").compare (text "1x") = .lt ∧
      (text "1x").compare (text "9") = .lt := by
  decide +kernel

/-- The order of all cells is not transitive. -/
theorem not_isLE_trans :
    ¬ ∀ a b c : Value, a.IsCell → b.IsCell → c.IsCell →
      (a.compare b).isLE = true → (b.compare c).isLE = true → (a.compare c).isLE = true := by
  intro h
  have hle := h (text "9") (text "10") (text "1x") trivial trivial trivial
    (by rw [compare_circle.1]; rfl) (by rw [compare_circle.2.1]; rfl)
  rw [compare_swap, compare_circle.2.2] at hle
  exact absurd hle (by decide)

end Value

/-! ## The order of rows -/

/-- A stable sorting: the same items in order, with items left as they are where they were in order
before. -/
structure IsSorting {α : Type} (le : α → α → Bool) (items sorted : List α) : Prop where
  perm : sorted.Perm items
  ordered : sorted.Pairwise (le · ·)
  stable : ∀ kept : List α, kept.Pairwise (le · ·) → kept.Sublist items → kept.Sublist sorted

/-- Sorting by a total relation that is transitive among the items puts them in order.

**Proof sketch.** The items are sorted as members of the list, among which the relation has both
laws, and taken as items again. -/
lemma isSorting_mergeSort {α : Type} {le : α → α → Bool} {items : List α}
    (htotal : ∀ a b, (le a b || le b a) = true)
    (htrans : ∀ a ∈ items, ∀ b ∈ items, ∀ c ∈ items,
      le a b = true → le b c = true → le a c = true) :
    IsSorting le items (items.mergeSort le) := by
  let le' (a b : {x // x ∈ items}) : Bool := le a.1 b.1
  have htotal' : ∀ a b, (le' a b || le' b a) = true := fun a b => htotal a.1 b.1
  have htrans' : ∀ a b c, le' a b = true → le' b c = true → le' a c = true :=
    fun a b c => htrans a.1 a.2 b.1 b.2 c.1 c.2
  have hsort : items.mergeSort le = (items.attach.mergeSort le').map Subtype.val := by
    have hmap : ∀ a ∈ items.attach, ∀ b ∈ items.attach, le' a b = le a.1 b.1 :=
      fun _ _ _ _ => rfl
    rw [List.map_mergeSort hmap, List.attach_map_subtype_val]
  refine ⟨List.mergeSort_perm _ _, ?_, fun kept hkept hsub => ?_⟩
  · rw [hsort, List.pairwise_map]
    exact List.pairwise_mergeSort htrans' htotal' _
  · rw [← List.attach_map_subtype_val items, List.sublist_map_iff] at hsub
    obtain ⟨kept', hsub', rfl⟩ := hsub
    rw [hsort]
    exact (List.sublist_mergeSort htrans' htotal' (List.pairwise_map.mp hkept) hsub').map _

section Rows

variable {column : String} {descending : Bool} {rows : List Row}

/-- The rows that have a value in a column. -/
def rowsWith (column : String) (rows : List Row) : List Row :=
  rows.filter fun row => !(row.get (.text column)).isNull

/-- The rows that have no value in a column. -/
def rowsWithout (column : String) (rows : List Row) : List Row :=
  rows.filter fun row => (row.get (.text column)).isNull

/-- The values of a column in the rows that have one. -/
def columnCells (column : String) (rows : List Row) : List Value :=
  (rowsWith column rows).map fun row => row.get (.text column)

/-- A row may stand before another if its value is not the greater one, or if it is not the smaller
one where the order is turned around. -/
lemma rowLe_iff (a b : Row) :
    rowLe column descending a b = true ↔
      (if descending then (b.get (.text column)).compare (a.get (.text column))
        else (a.get (.text column)).compare (b.get (.text column))).isLE = true := by
  rw [rowLe, Value.compare_swap (b.get (.text column))]
  cases descending <;> cases (a.get (.text column)).compare (b.get (.text column)) <;> simp

/-- One of two rows may stand before the other. -/
lemma rowLe_total (a b : Row) :
    (rowLe column descending a b || rowLe column descending b a) = true := by
  rw [rowLe, rowLe, Value.compare_swap (b.get (.text column))]
  cases descending <;> cases (a.get (.text column)).compare (b.get (.text column)) <;> rfl

/-- **A column of comparable values is sorted.** The rows with a value stand in order, before those
without.

**Proof sketch.** Which of two rows may stand first is decided by the order of their values, upwards
or downwards; it is total, and transitive where the values are comparable. -/
theorem sortRows_sorted (descending : Bool) (h : Value.Comparable (columnCells column rows)) :
    ∃ sorted, sortRows rows column descending = sorted ++ rowsWithout column rows ∧
      IsSorting (rowLe column descending) (rowsWith column rows) sorted := by
  refine ⟨_, rfl, isSorting_mergeSort rowLe_total fun a ha b hb c hc hab hbc => ?_⟩
  have hcell : ∀ row ∈ rowsWith column rows, row.get (.text column) ∈ columnCells column rows :=
    fun row hrow => List.mem_map_of_mem hrow
  rw [rowLe_iff] at hab hbc ⊢
  cases descending with
  | false => exact h.isLE_trans (hcell a ha) (hcell b hb) (hcell c hc) hab hbc
  | true => exact h.isLE_trans (hcell c hc) (hcell b hb) (hcell a ha) hbc hab

end Rows

/-- **The order of values and of rows.** The order of values is total. Among comparable values it is
transitive, and rows are sorted by a column of comparable values. -/
theorem Value.compare_preorder :
    (∀ a b : Value, a.compare b = (b.compare a).swap) ∧
    (∀ cells, Comparable cells → ∀ a ∈ cells, ∀ b ∈ cells, ∀ c ∈ cells,
      (a.compare b).isLE = true → (b.compare c).isLE = true → (a.compare c).isLE = true) ∧
    ∀ (rows : List Row) (column : String) (descending : Bool),
      Comparable (columnCells column rows) →
      ∃ sorted, sortRows rows column descending = sorted ++ rowsWithout column rows ∧
        IsSorting (rowLe column descending) (rowsWith column rows) sorted :=
  ⟨compare_swap, fun _ h _ ha _ hb _ hc => h.isLE_trans ha hb hc,
    fun _ _ descending => sortRows_sorted descending⟩

/-- A number and texts that look like numbers are ordered, and rows are sorted by them. -/
theorem Value.compare_preorder_numeric :
    (((int 2).compare (text "1e1")).isLE = true) ∧
      ∃ sorted, sortRows [[(text "a", text "10")], [], [(text "a", int 2)]] "a" true =
          sorted ++ rowsWithout "a" [[(text "a", text "10")], [], [(text "a", int 2)]] ∧
        IsSorting (rowLe "a" true)
          (rowsWith "a" [[(text "a", text "10")], [], [(text "a", int 2)]]) sorted := by
  have hcells : Comparable [int 2, text " 10", text "1e1"] := Or.inl (by decide +kernel)
  have hrows : Comparable (columnCells "a" [[(text "a", text "10")], [], [(text "a", int 2)]]) :=
    Or.inl (by decide +kernel)
  exact ⟨compare_preorder.2.1 _ hcells (int 2) (by simp) (text " 10") (by simp) (text "1e1")
    (by simp) (by decide +kernel) (by decide +kernel), compare_preorder.2.2 _ "a" true hrows⟩

end StagedQuery
