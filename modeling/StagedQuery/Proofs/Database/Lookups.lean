import StagedQuery.Proofs.Database.Reachable
import StagedQuery.Proofs.Store.Lookups

set_option relaxedAutoImplicit false
set_option autoImplicit false

/-!
# No look-up fails

Values are looked up in rows by the names of columns, and a column that a row lacks reads as `null`.
On a database that statements built, this never happens: a statement checks the columns that it
names before it looks anything up, and every row has all columns of its table.

## Main results

* `Database.Reachable.lookups_found` — conditions depend on their columns alone, and all look-ups
  of the statements on such a database find what they look for.
-/

namespace StagedQuery.Database

variable {db : Database} {disk : Disk} {settings : Settings} {saved : List (List String)}

/-- **Checking the columns of a statement is enough.** The value of a condition depends on its
columns alone: rows that have the same values in these columns, where a missing value counts as
`null`, both meet it, or neither does. The columns of a condition are those of its leaves, each
once, in the order in which the leaves refer to them first.

The steps of a `SELECT`, an `UPDATE` and a `DELETE` take the look-up as a parameter. With the one
that fails where a row lacks a column, they go through exactly if nothing is missing that they look
up. With the one that reads what is missing as `null`, they are as they are, on any store. On a
database that is reached by statements, they are the same with the one that fails, so nothing that
they look up is missing. The steps of a `SELECT` meant here are those that its passage goes
through. -/
theorem Reachable.lookups_found (h : Reachable disk settings db saved) :
    (∀ (p : Predicate) (row row' : Row),
      (∀ name ∈ p.columns, row.get (.text name) = row'.get (.text name)) →
        p.holds row = p.holds row') ∧
    (∀ p : Predicate, p.columns.Nodup ∧
      (∀ name, name ∈ p.columns ↔ ∃ test, (name, test) ∈ p.leaves) ∧
      p.columns.Pairwise fun a b =>
        (p.leaves.map Prod.fst).idxOf a < (p.leaves.map Prod.fst).idxOf b) ∧
    LookUp.strict.Notices ∧
    (∀ store, LookUp.lenient.Suffices store) ∧
    LookUp.strict.Suffices db.store ∧
    ∀ (env : Surroundings) (s : Select) (first : Selection), s.scan db.store = .ok first →
      Passage env (.statement (.select s)) db.session
        ((executionStage env .select).name ::
          (first.finish (Operator.all.filter (·.asked s))).1) db.session
        (first.finish (Operator.all.filter (·.asked s))).2 :=
  ⟨fun _ _ _ => Predicate.holds_congr,
    fun p => ⟨p.nodup_columns, fun _ => Predicate.mem_columns, p.pairwise_columns⟩,
    LookUp.strict_notices,
    LookUp.lenient_suffices,
    LookUp.strict_suffices h.kept.store,
    fun env _ _ hscan => Select.passage_scanned env hscan⟩

/-- A statement that orders its rows by a column that it does not show: the column is looked up
before the rows lose it. -/
theorem lookups_found_oneRow :
    ∃ (s : Select) (first : Selection),
      Statement.ofText? (strip "SELECT b FROM t WHERE a > 1 ORDER BY a") = some (.select s) ∧
      s.scan oneRow.store = .ok first ∧
      ∃ names outcome, names.length = 5 ∧
        LookUp.strict.finish (Operator.all.filter (·.asked s)) first = some (names, outcome) := by
  obtain ⟨saved, hreach⟩ := exists_reachable_oneRow
  have hcheck : (Statement.ofText? (strip "SELECT b FROM t WHERE a > 1 ORDER BY a")).bind (fun s =>
      match s with
      | .select s => (s.scan oneRow.store).toOption.map fun first =>
        (first.finish (Operator.all.filter (·.asked s))).1.length
      | _ => none) = some 5 := by decide +kernel
  obtain ⟨s, hread, hs⟩ := Option.bind_eq_some_iff.mp hcheck
  cases s with
  | select s =>
    obtain ⟨first, hfirst, hlength⟩ := Option.map_eq_some_iff.mp hs
    rw [toOption_eq_some] at hfirst
    obtain ⟨-, -, -, -, hstrict, -⟩ := hreach.lookups_found
    exact ⟨s, first, hread, hfirst, _, _, hlength, hstrict.select s first hfirst⟩
  | _ => cases hs

end StagedQuery.Database
