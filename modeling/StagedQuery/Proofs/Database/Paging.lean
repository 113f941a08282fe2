import StagedQuery.Proofs.Database.Reachable
import StagedQuery.Proofs.Query.Paging
import StagedQuery.Proofs.Sql.Pages

set_option relaxedAutoImplicit false
set_option autoImplicit false

/-!
# Paging through an answer

A program that shows an answer page by page executes one text per page. Each of them is a run of its
own over the same tables. Together they show every row once.

## Main results

* `Database.execute_select` — what the text of a `SELECT` that is not refused gives.
* `Database.Reachable.pages` — the pages of an answer, and the texts that show them.
-/

namespace StagedQuery.Database

variable {db : Database} {now sql : String} {s : Select} {disk : Disk} {settings : Settings}
  {saved : List (List String)}

/-- **A `SELECT` that is not refused** shows the listing of its answer. -/
lemma execute_select (hstore : db.store.WellFormed)
    (hread : Statement.ofText? (strip sql) = some (.select s)) (hb : 9 ≤ db.settings.budget)
    (h : s.refusal? db.store = none) {t : Table} (ht : db.store.find? s.table = some t) :
    ∃ shown, listing (s.labels t.schema) (s.answer (s.labels t.schema) t.rows) = .ok shown ∧
      db.execute now sql = (.ok shown, ⟨db.session, db.settings, db.nextRun + 1⟩) := by
  obtain ⟨kind, -, hkind⟩ := Option.bind_eq_some_iff.mp hread
  have hrefusal : s.refusal? db.session.store = none := h
  obtain ⟨t', shown, ht', hshown, c⟩ :=
    Select.passage_answered (db.surroundings now) hstore hrefusal
  obtain rfl := Option.some.inj (ht.symm.trans ht')
  refine ⟨shown, hshown, execute_eq_of_passage
    (Passage.text_of_statement (toOption_eq_some.mp hkind) c) ?_⟩
  have hfew : (Operator.all.filter (·.asked s)).length ≤ 5 := List.length_filter_le _ _
  simp only [List.length_cons, List.length_append, List.length_map, List.length_nil]
  omega

/-- **Paging loses and repeats nothing.** Let a database be reached by statements, and let a
`SELECT` without `LIMIT` and `OFFSET` be given that names existing columns of an existing table; it
may have a condition, an order, columns to show and `DISTINCT`. Let a size of pages be given that is
not zero. Then the statement comes to some rows, and the statement with `LIMIT size OFFSET i * size`
comes to the page `i` of them. There is a number of pages from which on all pages are empty, and up
to which none is. So many pages, or more, are all rows in their order when they are put one after
the other. No page has more rows than the size says, and every page but the last one that is not
empty has as many. The listing of an empty page is `0 rows returned`.

With a budget of at least nine jobs, texts that are read as these statements show the listings of
the rows and of the pages, and leave the session. Such a text is the text of the statement with the
limit and the offset behind it, unless that has a semicolon at its end or a number of more digits
than a statement may have. -/
theorem Reachable.pages (h : Reachable disk settings db saved)
    (hlimit : s.limit = none) (hoffset : s.offset = none) {first : Selection}
    (hvalid : s.scan db.store = .ok first) {size : ℕ} (hsize : 0 < size) :
    ∃ (labels : List Value) (rows : List Row) (pages : ℕ → List Row) (count : ℕ),
      s.Gives db.store labels rows ∧
      (∀ i, (s.page size i).Gives db.store labels (pages i)) ∧
      (∀ i, pages i = [] ↔ count ≤ i) ∧
      (∀ n, count ≤ n → (List.range n).flatMap pages = rows) ∧
      (∀ i, (pages i).length ≤ size) ∧
      (∀ i, i + 1 < count → (pages i).length = size) ∧
      (∀ i, count ≤ i → listing labels (pages i) = .ok "0 rows returned") ∧
      (∀ now sql, 9 ≤ settings.budget → Statement.ofText? (strip sql) = some (.select s) →
        ∃ shown, listing labels rows = .ok shown ∧
          db.execute now sql = (.ok shown, ⟨db.session, db.settings, db.nextRun + 1⟩)) ∧
      (∀ now sql i, 9 ≤ settings.budget →
        Statement.ofText? (strip sql) = some (.select (s.page size i)) →
          ∃ shown, listing labels (pages i) = .ok shown ∧
            db.execute now sql = (.ok shown, ⟨db.session, db.settings, db.nextRun + 1⟩)) ∧
      ∀ sql i, Statement.ofText? (strip sql) = some (.select s) →
        (strip sql).toList.getLast? ≠ some ';' →
        (digitsOf size).length ≤ integerDigitLimit →
        (digitsOf (i * size)).length ≤ integerDigitLimit →
        Statement.ofText? (strip (pageText (strip sql) size (i * size))) =
          some (.select (s.page size i)) := by
  have hstore := h.kept.store
  have hrefusal := Select.refusal?_of_scan hvalid
  obtain ⟨t, ht, -⟩ := Select.scan_of_no_refusal hrefusal
  -- the statement for a page names the same table and columns
  have hpage : ∀ i, (s.page size i).refusal? db.store = none := fun _ => hrefusal
  have hanswer := Select.answer_page hlimit hoffset (s.labels t.schema) t.rows size
  refine ⟨s.labels t.schema, s.answer (s.labels t.schema) t.rows,
    pageOf size (s.answer (s.labels t.schema) t.rows), pageCount size _,
    Select.gives_answer hstore hrefusal ht, fun i => ?_, pageOf_eq_nil hsize _,
    fun _ => flatMap_pageOf_eq_self hsize, fun _ => List.length_take_le _ _,
    fun _ => length_pageOf hsize _, fun i hi => ?_,
    fun now sql hb hread => execute_select hstore hread (h.settings_eq ▸ hb) hrefusal ht,
    fun now sql i hb hread => ?_,
    fun sql i hread hopen => Statement.ofText?_pageText hread ⟨hlimit, hoffset⟩ hopen⟩
  · rw [← hanswer]
    exact Select.gives_answer hstore (hpage i) ht
  · rw [(pageOf_eq_nil hsize _ i).mpr hi]
    rfl
  · obtain ⟨shown, hshown, hexecute⟩ :=
      execute_select hstore hread (h.settings_eq ▸ hb) (hpage i) ht
    have hlabels : (s.page size i).labels t.schema = s.labels t.schema := rfl
    rw [hlabels, hanswer i] at hshown
    exact ⟨shown, hshown, hexecute⟩

/-- The database after a table was created and four rows were put into it, two of them alike. -/
def fourRows : Database :=
  ((empty ⟨[], []⟩ .standard).execute "" "CREATE TABLE t (a INTEGER)").2.execute ""
    "INSERT INTO t VALUES (3), (1), (3), (2)" |>.2

/-- Two texts lead to it, neither of which loads a file. -/
lemma exists_reachable_fourRows : ∃ saved, Reachable ⟨[], []⟩ .standard fourRows saved := by
  have hcreate : StatementKind.opening? (strip "CREATE TABLE t (a INTEGER)") =
      some .createTable := by decide +kernel
  have hinsert : StatementKind.opening? (strip "INSERT INTO t VALUES (3), (1), (3), (2)") =
      some .insert := by decide +kernel
  exact ⟨_, .execute (.execute .empty "" _ (loads_of_opening hcreate (by decide))) "" _
    (loads_of_opening hinsert (by decide))⟩

/-- Three different values are shown on pages of two, and a text shows the second one of these. -/
theorem pages_fourRows :
    ∃ (labels : List Value) (rows : List Row) (pages : ℕ → List Row) (count : ℕ),
      rows.length = 3 ∧ (List.range count).flatMap pages = rows ∧ 1 < count ∧
      (pages 0).length = 2 ∧ ∃ shown, listing labels (pages 1) = .ok shown ∧
        (fourRows.execute "" "SELECT DISTINCT a FROM t LIMIT 2 OFFSET 2").1 = .ok shown := by
  obtain ⟨saved, hreach⟩ := exists_reachable_fourRows
  have hcheck : (Statement.ofText? (strip "SELECT DISTINCT a FROM t")).bind (fun s =>
      match s with
      | .select s => (s.scan fourRows.store).toOption.bind fun first =>
        (Operator.run (Operator.all.filter (·.asked s)) first).toOption.map fun last =>
          (s.limit, s.offset, last.rows.length)
      | _ => none) = some (none, none, 3) := by decide +kernel
  obtain ⟨s, hread, hs⟩ := Option.bind_eq_some_iff.mp hcheck
  cases s with
  | select s =>
    obtain ⟨first, hfirst, hs⟩ := Option.bind_eq_some_iff.mp hs
    obtain ⟨last, hlast, hparts⟩ := Option.map_eq_some_iff.mp hs
    rw [toOption_eq_some] at hfirst hlast
    obtain ⟨hlimit, hparts⟩ := Prod.mk.inj hparts
    obtain ⟨hoffset, hlength⟩ := Prod.mk.inj hparts
    obtain ⟨labels, rows, pages, count, ⟨first', phase, hfirst', hrun⟩, -, -, hall, hfew, hfull,
      -, -, htexts, hpaged⟩ := hreach.pages hlimit hoffset hfirst (show 0 < 2 by decide)
    have hrows : rows.length = 3 := by
      obtain rfl := Except.ok.inj (hfirst.symm.trans hfirst')
      rw [← hlength, Except.ok.inj (hlast.symm.trans hrun)]
    have hcount : 1 < count := by
      by_contra hle
      have hpage := hall 1 (Nat.not_lt.mp hle)
      rw [List.range_one, List.flatMap_singleton] at hpage
      have hlimited := hfew 0
      rw [hpage, hrows] at hlimited
      exact absurd hlimited (by decide)
    have htext := hpaged _ 1 hread (by decide +kernel) (by decide +kernel) (by decide +kernel)
    rw [show pageText (strip "SELECT DISTINCT a FROM t") 2 (1 * 2) =
      "SELECT DISTINCT a FROM t LIMIT 2 OFFSET 2" by decide +kernel] at htext
    obtain ⟨shown, hshown, hexecute⟩ := htexts "" _ 1 (by decide +kernel) htext
    exact ⟨labels, rows, pages, count, hrows, hall count le_rfl, hcount, hfull 0 hcount, shown,
      hshown, congrArg Prod.fst hexecute⟩
  | _ => cases hs

end StagedQuery.Database
