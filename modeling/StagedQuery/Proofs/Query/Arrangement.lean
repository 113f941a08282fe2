import Mathlib.Data.List.FinRange
import Mathlib.Data.List.NodupEquivFin
import Mathlib.Data.List.Sort
import StagedQuery.Proofs.Value.Order

set_option relaxedAutoImplicit false
set_option autoImplicit false

/-!
# The arrangement of rows by a column

Sorting puts the rows of a table into one order, and only one order does what is asked for. Rows are
told apart by their places, since a table may hold the same row twice. An arrangement is a
permutation of the places, and what is asked of it is said of two places at a time: rows with a
value come before those without, values do not go down (or up), and rows that neither of these
orders keep the order of their places.

## Main definitions

* `cellAt` — the value of a column in the row at a place.
* `StandsBefore` — what is asked of two places, the first of which comes before the second.
* `IsArrangement` — the permutations of the places that do what is asked for.
* `arrangedPlaces` — the places in the order in which `sortRows` takes the rows.

## Main results

* `IsSorting.pairwise_before` — a stable sorting keeps the order of places between equal items.
* `map_arrangedPlaces` — the rows at these places are the rows that `sortRows` gives.
* `StandsBefore.asymm` — no two places may stand before each other.
* `sortRows_arrangement` — rows are sorted into the only arrangement that there is.
-/

namespace StagedQuery

/-! ## Sortings of items without repetitions -/

/-- Two items of a list without repetitions stand in it in one order only. -/
lemma not_sublist_swap {α : Type} {l : List α} (hl : l.Nodup) {a b : α} (h : [a, b].Sublist l) :
    ¬ [b, a].Sublist l := by
  intro hswap
  have heq : [a, b] = [b, a] := (hl.perm_iff_eq_of_sublist h hswap).mp (List.Perm.swap b a [])
  have hne : a ≠ b := by simpa using hl.sublist h
  exact hne (List.cons.inj heq).1

/-- **A stable sorting** of items that were in order by themselves: two items that may stand in
either order stand in the order in which they were.

**Proof sketch.** Two such items stand in order both ways round, so the sorting leaves them as they
were. Without repetitions they cannot stand the other way round as well. -/
lemma IsSorting.pairwise_before {α : Type} [LinearOrder α] {le : α → α → Bool}
    {items sorted : List α} (h : IsSorting le items sorted) (hitems : items.Pairwise (· < ·)) :
    sorted.Pairwise fun a b => le a b = true ∧ (le b a = true → a < b) := by
  have hnodup : sorted.Nodup := h.perm.nodup_iff.mpr (hitems.imp ne_of_lt)
  rw [List.pairwise_iff_forall_sublist]
  intro a b hab
  refine ⟨List.pairwise_iff_forall_sublist.mp h.ordered hab, fun hba => ?_⟩
  have hne : a ≠ b := by simpa using hnodup.sublist hab
  by_contra hlt
  have hbelow : b < a := lt_of_le_of_ne (not_lt.mp hlt) hne.symm
  have hmem : [b, a] ⊆ items := by
    intro c hc
    apply h.perm.subset
    apply hab.subset
    simp only [List.mem_cons, List.not_mem_nil, or_false] at hc ⊢
    exact hc.symm
  have hsub : [b, a].Sublist items := List.sublist_of_subperm_of_pairwise
    (List.subperm_of_subset (by simpa using hne.symm) hmem) (by simpa using hbelow) hitems
  exact not_sublist_swap hnodup hab (h.stable [b, a] (by simpa using hba) hsub)

/-- Places in some order, each of them once, are a permutation of the places. -/
lemma exists_perm_of_places {n : ℕ} {places : List (Fin n)} (h : places.Perm (List.finRange n)) :
    ∃ place : Equiv.Perm (Fin n), List.ofFn place = places := by
  have hlen : places.length = n := by rw [h.length_eq, List.length_finRange]
  have hnodup : places.Nodup := h.nodup_iff.mpr (List.nodup_finRange n)
  have hall : ∀ i, i ∈ places := fun i => h.mem_iff.mpr (List.mem_finRange i)
  refine ⟨(finCongr hlen.symm).trans (hnodup.getEquivOfForallMemList places hall), ?_⟩
  apply List.ext_getElem
  · rw [List.length_ofFn, hlen]
  · intro i hi hi'
    rw [List.getElem_ofFn]
    rfl

/-! ## Arrangements -/

section

variable (column : String) (descending : Bool) (rows : List Row)

/-- The value of a column in the row at a place. -/
def cellAt (i : Fin rows.length) : Value := (rows.get i).get (.text column)

/-- What is asked of two places, the first of which comes before the second: a row with a value
comes before one without; of two values the first is not the greater one, or not the smaller one
where the order is turned around; and where this leaves the order open, the places keep theirs. -/
structure StandsBefore (i j : Fin rows.length) : Prop where
  filled : (cellAt column rows j).isNull = false → (cellAt column rows i).isNull = false
  ordered : (cellAt column rows i).isNull = false → (cellAt column rows j).isNull = false →
    (cellAt column rows i).compare (cellAt column rows j) ≠ if descending then .lt else .gt
  ties : (cellAt column rows i).isNull = false → (cellAt column rows j).isNull = false →
    (cellAt column rows i).compare (cellAt column rows j) = .eq → i < j
  missing : (cellAt column rows i).isNull = true → (cellAt column rows j).isNull = true → i < j

/-- A permutation of the places that does what is asked for: the row at `place i` is the `i`-th
one. -/
def IsArrangement (place : Equiv.Perm (Fin rows.length)) : Prop :=
  ∀ i j, i < j → StandsBefore column descending rows (place i) (place j)

/-- Whether the row at a place may stand before the row at another one. -/
def placeLe (i j : Fin rows.length) : Bool := rowLe column descending (rows.get i) (rows.get j)

/-- The places of the rows with a value, in order. -/
def filledPlaces : List (Fin rows.length) :=
  (List.finRange rows.length).filter fun i => !(cellAt column rows i).isNull

/-- The places of the rows without a value, in order. -/
def emptyPlaces : List (Fin rows.length) :=
  (List.finRange rows.length).filter fun i => (cellAt column rows i).isNull

/-- The places in the order in which `sortRows` takes the rows. -/
def arrangedPlaces : List (Fin rows.length) :=
  (filledPlaces column rows).mergeSort (placeLe column descending rows) ++ emptyPlaces column rows

end

variable {column : String} {descending : Bool} {rows : List Row}

namespace StandsBefore

variable {i j : Fin rows.length}

/-- Two places of which the first one has a value, if those values are in order. -/
lemma of_filled (hi : (cellAt column rows i).isNull = false)
    (hle : (cellAt column rows i).compare (cellAt column rows j) ≠ if descending then .lt else .gt)
    (hties : (cellAt column rows i).compare (cellAt column rows j) = .eq → i < j) :
    StandsBefore column descending rows i j :=
  ⟨fun _ => hi, fun _ _ => hle, fun _ _ => hties, by simp [hi]⟩

/-- Two places without values. -/
lemma of_empty (hi : (cellAt column rows i).isNull = true)
    (hj : (cellAt column rows j).isNull = true) (hij : i < j) :
    StandsBefore column descending rows i j :=
  ⟨by simp [hj], by simp [hi], by simp [hi], fun _ _ => hij⟩

/-- A place with a value before one without. -/
lemma of_filled_of_empty (hi : (cellAt column rows i).isNull = false)
    (hj : (cellAt column rows j).isNull = true) : StandsBefore column descending rows i j :=
  ⟨fun _ => hi, by simp [hj], by simp [hj], by simp [hi]⟩

/-- **No two places may stand before each other**, whatever the order of the values. -/
lemma asymm (h : StandsBefore column descending rows i j) :
    ¬ StandsBefore column descending rows j i := by
  intro h'
  have hswap := Value.compare_swap (cellAt column rows i) (cellAt column rows j)
  cases hi : (cellAt column rows i).isNull with
  | true =>
    have hj : (cellAt column rows j).isNull = true := by
      by_contra hj
      simp [h.filled (by simpa using hj)] at hi
    exact lt_asymm (h.missing hi hj) (h'.missing hj hi)
  | false =>
    have hj : (cellAt column rows j).isNull = false := h'.filled hi
    have hij := h.ordered hi hj
    have hji := h'.ordered hj hi
    have heq : (cellAt column rows i).compare (cellAt column rows j) = .eq := by
      rw [hswap] at hij ⊢
      cases descending <;> cases hc : (cellAt column rows j).compare (cellAt column rows i) <;>
        simp_all
    have heq' : (cellAt column rows j).compare (cellAt column rows i) = .eq := by
      rw [Value.compare_swap, heq]
      rfl
    exact lt_asymm (h.ties hi hj heq) (h'.ties hj hi heq')

end StandsBefore

/-- There is at most one arrangement. -/
lemma IsArrangement.unique {place place' : Equiv.Perm (Fin rows.length)}
    (h : IsArrangement column descending rows place)
    (h' : IsArrangement column descending rows place') : place = place' := by
  have hperm : (List.ofFn place).Perm (List.ofFn place') :=
    (Equiv.Perm.ofFn_comp_perm place id).trans (Equiv.Perm.ofFn_comp_perm place' id).symm
  have hanti : ∀ a b, a ∈ List.ofFn place → b ∈ List.ofFn place' →
      StandsBefore column descending rows a b → StandsBefore column descending rows b a → a = b :=
    fun a b _ _ hab hba => absurd hba hab.asymm
  have heq : List.ofFn place = List.ofFn place' := by
    apply List.Perm.eq_of_pairwise hanti _ _ hperm
    · exact List.pairwise_ofFn.mpr h
    · exact List.pairwise_ofFn.mpr h'
  exact Equiv.ext fun i => congrFun (List.ofFn_injective heq) i

/-! ## The arrangement that sorting gives -/

/-- The rows at the arranged places are the sorted rows. -/
lemma map_arrangedPlaces (column : String) (descending : Bool) (rows : List Row) :
    (arrangedPlaces column descending rows).map rows.get = sortRows rows column descending := by
  have hrows : rows = (List.finRange rows.length).map rows.get := (List.map_get_finRange rows).symm
  have hsort := List.map_mergeSort (r := placeLe column descending rows)
    (s := rowLe column descending) (f := rows.get) (l := filledPlaces column rows)
    fun _ _ _ _ => rfl
  rw [arrangedPlaces, List.map_append, hsort, sortRows]
  conv_rhs => rw [hrows]
  rw [List.filter_map, List.filter_map]
  rfl

/-- Every place is arranged, each of them once. -/
lemma perm_arrangedPlaces (column : String) (descending : Bool) (rows : List Row) :
    (arrangedPlaces column descending rows).Perm (List.finRange rows.length) := by
  have hsplit := List.filter_append_perm (fun i => !(cellAt column rows i).isNull)
    (List.finRange rows.length)
  simp only [Bool.not_not] at hsplit
  exact ((List.mergeSort_perm _ _).append_right _).trans hsplit

/-- A row has a value in a column just if its value is among those of the column. -/
lemma cellAt_mem_columnCells {i : Fin rows.length} (h : (cellAt column rows i).isNull = false) :
    cellAt column rows i ∈ columnCells column rows := by
  apply List.mem_map_of_mem (f := fun row : Row => row.get (.text column))
  exact List.mem_filter.mpr ⟨List.get_mem rows i, by simpa [cellAt] using h⟩

/-- The values of a column are transitive: what the comparison must keep for the column to have an
order. -/
def IsTransitive (cells : List Value) : Prop :=
  ∀ a ∈ cells, ∀ b ∈ cells, ∀ c ∈ cells,
    (a.compare b).isLE = true → (b.compare c).isLE = true → (a.compare c).isLE = true

/-- Sorting the places of the rows with a value, where the order of the values is transitive. -/
lemma isSorting_filledPlaces (h : IsTransitive (columnCells column rows)) (descending : Bool) :
    IsSorting (placeLe column descending rows) (filledPlaces column rows)
      ((filledPlaces column rows).mergeSort (placeLe column descending rows)) := by
  refine isSorting_mergeSort (fun i j => rowLe_total _ _) fun i hi j hj k hk hij hjk => ?_
  have hcell : ∀ i ∈ filledPlaces column rows, cellAt column rows i ∈ columnCells column rows := by
    intro i hi
    apply cellAt_mem_columnCells
    simpa [filledPlaces] using hi
  rw [placeLe, rowLe_iff] at hij hjk ⊢
  cases descending with
  | false => exact h _ (hcell i hi) _ (hcell j hj) _ (hcell k hk) hij hjk
  | true => exact h _ (hcell k hk) _ (hcell j hj) _ (hcell i hi) hjk hij

/-- **The arranged places stand as they should**, each before all that come behind it.

**Proof sketch.** Among the places with a value this is what a stable sorting of the places in order
gives. The places without a value follow, in their own order. -/
lemma pairwise_arrangedPlaces (h : IsTransitive (columnCells column rows)) (descending : Bool) :
    (arrangedPlaces column descending rows).Pairwise (StandsBefore column descending rows) := by
  have hplaces := List.pairwise_lt_finRange rows.length
  have hsorting := isSorting_filledPlaces h descending
  have hfilled : ∀ i ∈ (filledPlaces column rows).mergeSort (placeLe column descending rows),
      (cellAt column rows i).isNull = false := by
    intro i hi
    simpa [filledPlaces] using List.mem_mergeSort.mp hi
  have hempty : ∀ i ∈ emptyPlaces column rows, (cellAt column rows i).isNull = true := by
    intro i hi
    simpa [emptyPlaces] using hi
  refine List.pairwise_append.mpr ⟨?_, ?_, ?_⟩
  · have hsorted := hsorting.pairwise_before (List.Pairwise.filter _ hplaces)
    refine hsorted.imp_of_mem fun {i j} hi hj hij => ?_
    apply StandsBefore.of_filled (hfilled i hi)
    · have hle := hij.1
      rw [placeLe, rowLe] at hle
      cases descending <;> simpa [cellAt] using hle
    · intro heq
      apply hij.2
      rw [placeLe, rowLe, Value.compare_swap]
      rw [cellAt, cellAt] at heq
      rw [heq]
      cases descending <;> rfl
  · have hkept := List.Pairwise.filter (fun i => (cellAt column rows i).isNull) hplaces
    exact hkept.imp_of_mem fun hi hj hij => .of_empty (hempty _ hi) (hempty _ hj) hij
  · exact fun i hi j hj => .of_filled_of_empty (hfilled i hi) (hempty j hj)

/-- **Rows are sorted into their only arrangement.** Let the order of the values of a column be
transitive. Then there is one permutation of the rows that puts those with a value first, in order
of their values upwards or downwards, keeps the order of rows whose values compare as equal, in both
directions, and puts those without a value last, in their order; sorting gives the rows in this
permutation. -/
theorem sortRows_arrangement {column : String} {rows : List Row}
    (h : IsTransitive (columnCells column rows)) (descending : Bool) :
    ∃ place : Equiv.Perm (Fin rows.length), IsArrangement column descending rows place ∧
      sortRows rows column descending = List.ofFn (fun i => rows.get (place i)) ∧
      ∀ other, IsArrangement column descending rows other → other = place := by
  obtain ⟨place, hplace⟩ := exists_perm_of_places (perm_arrangedPlaces column descending rows)
  have hpairwise := pairwise_arrangedPlaces h descending
  rw [← hplace] at hpairwise
  have harrangement : IsArrangement column descending rows place :=
    fun i j hij => List.pairwise_ofFn.mp hpairwise hij
  refine ⟨place, harrangement, ?_, fun other hother => hother.unique harrangement⟩
  rw [← map_arrangedPlaces, ← hplace, List.map_ofFn]
  rfl

/-- Rows with numbers, of which two are equal, and one row without. -/
def numberRows : List Row :=
  [[(.text "a", .text "2.0")], [], [(.text "a", .int 10)], [(.text "a", .int 2)]]

/-- Numbers and a text that looks like one are in transitive order, so their rows have one
arrangement downwards. -/
theorem sortRows_arrangement_numbers : IsTransitive (columnCells "a" numberRows) ∧
    ∃ place : Equiv.Perm (Fin numberRows.length), IsArrangement "a" true numberRows place ∧
      sortRows numberRows "a" true = List.ofFn (fun i => numberRows.get (place i)) ∧
      ∀ other, IsArrangement "a" true numberRows other → other = place := by
  have hcells : Value.Comparable (columnCells "a" numberRows) := Or.inl (by decide +kernel)
  have htrans : IsTransitive (columnCells "a" numberRows) :=
    fun a ha b hb c hc hab hbc => hcells.isLE_trans ha hb hc hab hbc
  exact ⟨htrans, sortRows_arrangement htrans true⟩

end StagedQuery
