import Mathlib.Data.List.Basic
import StagedQuery.Predicate.Evaluate
import StagedQuery.Sql.Parser.Condition

set_option relaxedAutoImplicit false
set_option autoImplicit false

/-!
# Conditions written out in comparisons

A range, a list of choices and the second sign for "differs" say nothing that other tests cannot
say: a range asks for two bounds, a list for one of several equalities. Writing them out leaves the
meaning of a condition as it is. This is a matter of `null` above all, of which an equality can hold
while no bound does. It also leaves the columns that the condition refers to, although it mentions
them more often.

## Main definitions

* `Predicate.equals` — the condition that a column has a value.
* `Test.expand`, `Predicate.expand` — a test of a column, and a condition, written out.
* `Test.IsExpanded`, `Predicate.IsExpanded` — tests and conditions in which nothing is left to write
  out.

## Main results

* `eraseDups_append_congr` — the first mentions in two lists one behind the other.
* `Test.holds_between` — a range by its two bounds.
* `Test.holds_expand`, `Test.columns_expand` — one test written out.
* `Predicate.expand_equivalent` — a condition written out has its meaning and its columns.
-/

namespace StagedQuery

/-! ## Writing out -/

/-- The condition that a column has a value. -/
def Predicate.equals (column : String) (v : Value) : Predicate := .leaf column (.compare .equal v)

/-- A test of a column written out: a range as two bounds, choices as alternatives, and one sign for
"differs". A list without choices has no alternatives, and stays. -/
def Test.expand (column : String) : Test → Predicate
  | .between low high =>
    .and (.leaf column (.compare .atLeast low)) (.leaf column (.compare .atMost high))
  | .oneOf (v :: choices) =>
    joinRight .or (.equals column v) (choices.map (.equals column))
  | .compare .unequal operand => .leaf column (.compare .differs operand)
  | test => .leaf column test

/-- A condition with all its tests written out. -/
def Predicate.expand : Predicate → Predicate
  | leaf column test => test.expand column
  | and left right => .and left.expand right.expand
  | or left right => .or left.expand right.expand

/-- A test that is no range, no list of choices, and does not use the second sign for "differs". -/
def Test.IsExpanded : Test → Prop
  | .between _ _ => False
  | .oneOf choices => choices = []
  | .compare relation _ => relation ≠ .unequal
  | _ => True

/-- A condition of which all tests are written out. -/
def Predicate.IsExpanded : Predicate → Prop
  | leaf _ test => test.IsExpanded
  | and left right => left.IsExpanded ∧ right.IsExpanded
  | or left right => left.IsExpanded ∧ right.IsExpanded

/-! ## First mentions -/

/-- Leaving items out and leaving out repetitions can be done in either order.

**Proof sketch.** Induction on the length of the list. If the first item stays, it is in front on
both sides, and what equals it is left out of the rest. If it is left out, so is all that equals
it. -/
lemma eraseDups_filter (keep : String → Bool) : ∀ names : List String,
    (names.filter keep).eraseDups = names.eraseDups.filter keep
  | [] => rfl
  | name :: names => by
    have hshorter : (names.filter fun other => !other == name).length < names.length + 1 :=
      Nat.lt_succ_of_le (List.length_filter_le _ _)
    have hrest := eraseDups_filter keep (names.filter fun other => !other == name)
    rw [List.eraseDups_cons]
    by_cases hkeep : keep name = true
    · rw [List.filter_cons_of_pos hkeep, List.filter_cons_of_pos hkeep, List.eraseDups_cons,
        ← hrest, List.filter_comm]
    · have hsame : (names.filter fun other => !other == name).filter keep = names.filter keep := by
        rw [List.filter_filter]
        refine List.filter_congr fun other _ => ?_
        by_cases hother : other = name
        · simp [hother, hkeep]
        · simp [hother]
      rw [List.filter_cons_of_neg hkeep, List.filter_cons_of_neg hkeep, ← hrest, hsame]
termination_by names => names.length

/-- **The first mentions in two lists** one behind the other depend on the first mentions in each
alone. -/
lemma eraseDups_append_congr {as as' bs bs' : List String} (ha : as.eraseDups = as'.eraseDups)
    (hb : bs.eraseDups = bs'.eraseDups) : (as ++ bs).eraseDups = (as' ++ bs').eraseDups := by
  have hmem : ∀ name, as.elem name = as'.elem name := by
    intro name
    rw [Bool.eq_iff_iff, List.elem_iff, List.elem_iff, ← List.mem_eraseDups, ha,
      List.mem_eraseDups]
  rw [List.eraseDups_append, List.eraseDups_append, ha, List.removeAll, List.removeAll,
    eraseDups_filter, eraseDups_filter, hb]
  simp only [hmem]

/-! ## One test -/

namespace Test

variable {column : String} {row : Row}

/-- **A range holds of a value** exactly if its two bounds do. It asks once whether the value is
`null` and once whether one of the bounds is, while each bound asks for itself. -/
lemma holds_between (low high value : Value) : (between low high).holds value =
    ((compare .atLeast low).holds value && (compare .atMost high).holds value) := by
  rw [Test.holds, Test.holds, Test.holds, Relation.holds, Relation.holds]
  cases value.isNull with
  | true => simp
  | false =>
    cases low.isNull with
    | true => simp
    | false =>
      -- a bound above that is `null` is found by a range before it looks at the bound below
      cases high.isNull <;> simp

/-- Alternatives of equalities hold where the value is one of the choices. -/
lemma holds_alternatives (v : Value) (choices : List Value) :
    (joinRight .or (.equals column v) (choices.map (.equals column))).holds row =
      (v :: choices).any ((row.get (.text column)).equal ·) := by
  induction choices generalizing v with
  | nil => simp [joinRight, Predicate.equals, Predicate.holds, Test.holds, Relation.holds]
  | cons w choices ih =>
    rw [List.map_cons, joinRight, Predicate.holds, ih, List.any_cons]
    rfl

/-- Alternatives of equalities mention their column again and again. -/
lemma mentions_alternatives (v : Value) (choices : List Value) :
    (joinRight .or (.equals column v) (choices.map (.equals column))).mentions =
      List.replicate (choices.length + 1) column := by
  induction choices generalizing v with
  | nil => rfl
  | cons w choices ih =>
    rw [List.map_cons, joinRight, Predicate.mentions, ih]
    rfl

/-- Alternatives of equalities are written out. -/
lemma isExpanded_alternatives (v : Value) (choices : List Value) :
    (joinRight .or (.equals column v) (choices.map (.equals column))).IsExpanded := by
  induction choices generalizing v with
  | nil => exact Relation.noConfusion
  | cons w choices ih => exact ⟨Relation.noConfusion, ih w⟩

/-- **A test written out** holds of the rows of which the test holds. -/
lemma holds_expand (test : Test) :
    (test.expand column).holds row = (Predicate.leaf column test).holds row := by
  cases test with
  | between low high =>
    rw [expand, Predicate.holds, Predicate.holds, Predicate.holds, Predicate.holds, holds_between]
  | oneOf choices =>
    cases choices with
    | nil => rfl
    | cons v choices => exact holds_alternatives v choices
  | compare relation operand => cases relation <;> rfl
  | isNull | isNotNull | like => rfl

/-- **A test written out** refers to its column only. -/
lemma columns_expand (test : Test) : (test.expand column).columns = [column] := by
  cases test with
  | between low high =>
    show [column, column].eraseDups = [column]
    simp [List.eraseDups_cons]
  | oneOf choices =>
    cases choices with
    | nil => rfl
    | cons v choices =>
      rw [expand, Predicate.columns, mentions_alternatives, List.replicate_succ,
        List.eraseDups_cons, List.filter_replicate_of_neg (by simp)]
      rfl
  | compare relation operand => cases relation <;> rfl
  | isNull | isNotNull | like => rfl

/-- Nothing is left to write out. -/
lemma isExpanded_expand (test : Test) : (test.expand column).IsExpanded := by
  cases test with
  | between low high => exact ⟨Relation.noConfusion, Relation.noConfusion⟩
  | oneOf choices =>
    cases choices with
    | nil => rfl
    | cons v choices => exact isExpanded_alternatives v choices
  | compare relation operand => cases relation <;> exact Relation.noConfusion
  | isNull | isNotNull | like => trivial

end Test

/-! ## Whole conditions -/

namespace Predicate

/-- A condition written out holds of the rows of which the condition holds. -/
lemma holds_expand (p : Predicate) (row : Row) : p.expand.holds row = p.holds row := by
  induction p with
  | leaf column test => exact test.holds_expand
  | and left right ihl ihr => rw [expand, holds, holds, ihl, ihr]
  | or left right ihl ihr => rw [expand, holds, holds, ihl, ihr]

/-- A condition written out refers to the same columns, in the same order. -/
lemma columns_expand (p : Predicate) : p.expand.columns = p.columns := by
  induction p with
  | leaf column test => exact test.columns_expand
  | and left right ihl ihr => exact eraseDups_append_congr ihl ihr
  | or left right ihl ihr => exact eraseDups_append_congr ihl ihr

/-- Nothing is left to write out. -/
lemma isExpanded_expand (p : Predicate) : p.expand.IsExpanded := by
  induction p with
  | leaf column test => exact test.isExpanded_expand
  | and left right ihl ihr => exact ⟨ihl, ihr⟩
  | or left right ihl ihr => exact ⟨ihl, ihr⟩

/-- **Writing a condition out preserves its meaning.** A condition in which every range has become
two bounds, every list of choices alternatives, and `<>` the other sign, holds of the same rows,
also where a cell, a bound or a choice is `null` or the row lacks the column. It refers to the same
columns in the order of first mention, and there is nothing left in it to write out. -/
theorem expand_equivalent (p : Predicate) :
    (∀ row, p.expand.holds row = p.holds row) ∧ p.expand.columns = p.columns ∧
      p.expand.IsExpanded :=
  ⟨p.holds_expand, p.columns_expand, p.isExpanded_expand⟩

/-- A list of choices and a range inside a branch, written out. -/
example : (Predicate.and (.leaf "a" (.oneOf [.int 1, .null, .text "x"]))
    (.leaf "b" (.between (.int 2) (.int 3)))).expand.text =
      "((a = 1 OR (a = NULL OR a = 'x')) AND (b >= 2 AND b <= 3))" := by
  decide +kernel

end Predicate

end StagedQuery
