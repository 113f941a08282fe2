import StagedQuery.Proofs.Query.Listing
import StagedQuery.Proofs.Query.Operators
import StagedQuery.Proofs.Store.WellFormed

set_option relaxedAutoImplicit false
set_option autoImplicit false

/-!
# The answer to a `SELECT`

What a `SELECT` means, said directly: the rows of the table are filtered, ordered, projected, made
distinct and cut to a page, where each clause that is lacking changes nothing. The stages of the
pipeline come to this answer.

## Main definitions

* `Select.refusal?` — the error of a `SELECT` that names something that does not exist.
* `Select.candidates`, `Select.answer` — the rows that answer a `SELECT`, before repeated ones are
  left out and at the end.
* `Operator.run` — several operators applied one after the other.

## Main results

* `Operator.run_all` — what the operators that a statement asks for make of any rows.
* `Operator.run_asked` — on rows of plain values they compute the answer.
* `Select.passage_refused`, `Select.passage_scanned`, `Select.passage_answered` — the stages that a
  `SELECT` goes through.
-/

namespace StagedQuery

/-! ## The meaning of a `SELECT` -/

namespace Select

/-- The first missing column of some names, as an error. -/
def missing? (schema : Schema) (names : List String) : Option StatementError :=
  (names.find? fun name => !schema.has (.text name)).map fun name =>
    .noSuchColumn (.text name) schema.name

/-- The error of a `SELECT` that names a missing column: the first one among those to show, or else
among those of the condition, or else the column of the order. -/
def misfit? (s : Select) (schema : Schema) : Option StatementError :=
  ((missing? schema s.columns).or (missing? schema (Predicate.namedColumns s.condition))).or
    (s.orderBy.bind fun o =>
      if schema.has (.text o.column) then none else some (.noSuchOrderColumn o.column))

/-- The error of a `SELECT` from a missing table, or else one that names a missing column. -/
def refusal? (s : Select) (store : Store) : Option StatementError :=
  match store.find? s.table with
  | none => some (.noSuchTable s.table)
  | some t => s.misfit? t.schema

/-- The rows that meet the condition; all rows without one. -/
def filtered (s : Select) (rows : List Row) : List Row :=
  match s.condition with
  | some p => rows.filter p.holds
  | none => rows

/-- The rows in the order that is asked for; as they are without one. -/
def ordered (s : Select) (rows : List Row) : List Row :=
  match s.orderBy with
  | some o => sortRows rows o.column o.descending
  | none => rows

/-- The rows with the values of the columns to show; whole rows where all columns are asked for. -/
def projected (s : Select) (labels : List Value) (rows : List Row) : List Row :=
  if s.selectsAll then rows else projectRows labels rows

/-- The first row of each signature if that is asked for; else all rows. -/
def unrepeated (s : Select) (labels : List Value) (rows : List Row) : List Row :=
  if s.distinct then distinctFrom labels [] rows else rows

/-- The same for rows with any values: it is a fault if one in a signature cannot be a key. -/
def unrepeatedRows (s : Select) (labels : List Value) (rows : List Row) :
    Except Fault (List Row) :=
  if s.distinct then distinctRows labels rows else .ok rows

/-- The page of the rows that is asked for; all rows without a limit and an offset. -/
def paged (s : Select) (rows : List Row) : List Row :=
  if s.limit.isSome || s.offset.isSome then pageRows s.offset s.limit rows else rows

/-- The rows that are filtered, ordered and projected. -/
def candidates (s : Select) (labels : List Value) (rows : List Row) : List Row :=
  s.projected labels (s.ordered (s.filtered rows))

/-- The rows that answer a `SELECT`, from the rows of its table. -/
def answer (s : Select) (labels : List Value) (rows : List Row) : List Row :=
  s.paged (s.unrepeated labels (s.projected labels (s.ordered (s.filtered rows))))

/-! ## The scan -/

/-- A check as the error that it gives. -/
def verdict (e : Option StatementError) : Except Failure Unit :=
  match e with
  | some e => .error (.statement e)
  | none => .ok ()

/-- Two checks one after the other give the first error. -/
lemma verdict_or (a b : Option StatementError) :
    verdict (a.or b) = verdict a >>= fun _ => verdict b := by
  cases a <;> rfl

/-- No column is missing where the table has all of them. -/
lemma missing?_eq_none {schema : Schema} {names : List String}
    (h : ∀ name ∈ names, schema.has (.text name) = true) : missing? schema names = none := by
  rw [missing?, Option.map_eq_none_iff, List.find?_eq_none]
  intro name hname
  simp [h name hname]

/-- A column that the table lacks is missing. -/
lemma exists_missing? {schema : Schema} {names : List String}
    (h : ∃ name ∈ names, schema.has (.text name) = false) :
    ∃ name ∈ names, schema.has (.text name) = false ∧
      missing? schema names = some (.noSuchColumn (.text name) schema.name) := by
  obtain ⟨other, hother, hlacks⟩ := h
  have hsome : (names.find? fun name => !schema.has (.text name)).isSome = true :=
    List.find?_isSome.mpr ⟨other, hother, by simp [hlacks]⟩
  obtain ⟨name, hname⟩ := Option.isSome_iff_exists.mp hsome
  refine ⟨name, List.mem_of_find?_eq_some hname, ?_, by rw [missing?, hname]; rfl⟩
  simpa using List.find?_some hname

/-- A list of names is required as the labels that it stands for. -/
lemma require_names (schema : Schema) (names : List String) :
    schema.require (names.map .text) = verdict (missing? schema names) := by
  rw [Schema.require, List.find?_map, missing?]
  show _ = verdict ((names.find? ((fun label => !schema.has label) ∘ Value.text)).map _)
  cases names.find? ((fun label => !schema.has label) ∘ Value.text) <;> rfl

/-- The checks of a `SELECT` on a schema give its first error. -/
lemma check_eq (s : Select) (schema : Schema) : s.check schema = verdict (s.misfit? schema) := by
  rw [check, misfit?, verdict_or, verdict_or, require_names, require_names]
  cases verdict (missing? schema s.columns) with
  | error e => rfl
  | ok u =>
    cases verdict (missing? schema (Predicate.namedColumns s.condition)) with
    | error e => rfl
    | ok u =>
      cases s.orderBy with
      | none => rfl
      | some o =>
        show (if schema.has (.text o.column) then _ else _) = verdict (if _ then _ else _)
        cases schema.has (.text o.column) <;> rfl

/-- A `SELECT` with an error is refused by the scan. -/
lemma scan_of_refusal {s : Select} {store : Store} {e : StatementError}
    (h : s.refusal? store = some e) : s.scan store = .error (.statement e) := by
  rw [refusal?] at h
  rw [scan, Store.get]
  cases htable : store.find? s.table with
  | none =>
    rw [htable] at h
    rw [← Option.some.inj h]
    rfl
  | some t =>
    rw [htable] at h
    show (s.check t.schema >>= fun _ => _) = _
    rw [check_eq, show s.misfit? t.schema = some e from h]
    rfl

/-- A `SELECT` without an error scans all rows of its table. -/
lemma scan_of_no_refusal {s : Select} {store : Store} (h : s.refusal? store = none) :
    ∃ t, store.find? s.table = some t ∧
      s.scan store = .ok ⟨t.rows, s.labels t.schema, s, .scanned⟩ := by
  rw [refusal?] at h
  rw [scan, Store.get]
  cases htable : store.find? s.table with
  | none => simp [htable] at h
  | some t =>
    rw [htable] at h
    refine ⟨t, rfl, ?_⟩
    show (s.check t.schema >>= fun _ => _) = _
    rw [check_eq, show s.misfit? t.schema = none from h]
    rfl

/-- A scan that succeeds passes its checks and gives all rows of its table. -/
lemma scan_eq_ok {s : Select} {store : Store} {first : Selection} (h : s.scan store = .ok first) :
    ∃ t, store.find? s.table = some t ∧ s.check t.schema = .ok () ∧
      first = ⟨t.rows, s.labels t.schema, s, .scanned⟩ := by
  obtain ⟨t, hget, hrest⟩ := bind_eq_ok.mp h
  obtain ⟨_, hcheck, hfirst⟩ := bind_eq_ok.mp hrest
  exact ⟨t, Store.get_eq_ok.mp hget, hcheck, (Except.ok.inj hfirst).symm⟩

/-- The columns that a `SELECT` names exist where it passes its checks. -/
lemma check_eq_ok {s : Select} {schema : Schema} (h : s.check schema = .ok ()) :
    (∀ label ∈ s.columns.map .text, schema.has label = true) ∧
      (∀ name ∈ Predicate.namedColumns s.condition, schema.has (.text name) = true) ∧
      ∀ o, s.orderBy = some o → schema.has (.text o.column) = true := by
  obtain ⟨_, hcolumns, hrest⟩ := bind_eq_ok.mp h
  obtain ⟨_, hnamed, horder⟩ := bind_eq_ok.mp hrest
  refine ⟨Schema.require_eq_ok.mp hcolumns,
    fun name hname => Schema.require_eq_ok.mp hnamed _ (List.mem_map_of_mem hname), fun o ho => ?_⟩
  rw [ho] at horder
  by_contra hlacks
  simp only [hlacks] at horder
  cases horder

end Select

/-! ## Rows of plain values -/

/-- Rows all values of which are plain. -/
def PlainRows (rows : List Row) : Prop := ∀ row ∈ rows, ∀ e ∈ row, e.2.IsPlain

/-- A plain value can be a key. -/
lemma Value.IsPlain.unhashable {v : Value} (h : v.IsPlain) : v.unhashable? = none := by
  rcases h.form with rfl | ⟨n, rfl⟩ | ⟨x, rfl⟩ | ⟨s, rfl⟩ <;> rfl

/-- Filtering keeps values plain. -/
lemma PlainRows.filtered {rows : List Row} (h : PlainRows rows) (s : Select) :
    PlainRows (s.filtered rows) := by
  rw [Select.filtered]
  cases s.condition with
  | none => exact h
  | some p => exact fun row hrow => h row (List.mem_of_mem_filter hrow)

/-- Sorting only changes the order of rows. -/
lemma mem_sortRows {rows : List Row} {column : String} {descending : Bool} {row : Row}
    (h : row ∈ sortRows rows column descending) : row ∈ rows := by
  rw [sortRows, List.mem_append, List.mem_mergeSort] at h
  rcases h with h | h
  · exact List.mem_of_mem_filter h
  · exact List.mem_of_mem_filter h

/-- Sorting keeps values plain. -/
lemma PlainRows.ordered {rows : List Row} (h : PlainRows rows) (s : Select) :
    PlainRows (s.ordered rows) := by
  rw [Select.ordered]
  cases s.orderBy with
  | none => exact h
  | some o => exact fun row hrow => h row (mem_sortRows hrow)

/-- Projecting keeps values plain. -/
lemma PlainRows.projected {rows : List Row} (h : PlainRows rows) (s : Select)
    (labels : List Value) : PlainRows (s.projected labels rows) := by
  rw [Select.projected]
  split
  · exact h
  · intro row hrow
    obtain ⟨old, hold, rfl⟩ := List.mem_map.mp hrow
    refine Row.plain_override (by simp) fun c hc => ?_
    obtain ⟨label, -, rfl⟩ := List.mem_map.mp hc
    exact Row.plain_get (h old hold) label

/-- The candidates of a `SELECT` from plain values are plain. -/
lemma PlainRows.candidates {rows : List Row} (h : PlainRows rows) (s : Select)
    (labels : List Value) : PlainRows (s.candidates labels rows) :=
  ((h.filtered s).ordered s).projected s labels

/-- The first value in the signatures of rows that cannot be a key, by the name of its kind. -/
def unhashableCell? (labels : List Value) (rows : List Row) : Option String :=
  rows.findSome? fun row => (signature labels row).findSome? Value.unhashable?

/-- Plain values can be keys. -/
lemma PlainRows.unhashableCell? {rows : List Row} (h : PlainRows rows) (labels : List Value) :
    unhashableCell? labels rows = none := by
  refine List.findSome?_eq_none_iff.mpr fun row hrow => ?_
  refine List.findSome?_eq_none_iff.mpr fun v hv => ?_
  obtain ⟨label, -, rfl⟩ := List.mem_map.mp hv
  exact (Row.plain_get (h row hrow) label).unhashable

/-- Repeated rows are left out as they are in the answer, if all values can be keys. -/
lemma Select.unrepeatedRows_eq_ok {s : Select} {labels : List Value} {rows kept : List Row} :
    s.unrepeatedRows labels rows = .ok kept ↔
      (s.distinct = true → unhashableCell? labels rows = none) ∧
        kept = s.unrepeated labels rows := by
  rw [unrepeatedRows, unrepeated, unhashableCell?]
  cases s.distinct with
  | false => simp [eq_comm]
  | true =>
    rw [if_pos rfl, if_pos rfl, distinctRows]
    cases rows.findSome? fun row => (signature labels row).findSome? Value.unhashable? with
    | none => simp [eq_comm]
    | some kind => simp

/-- Repeated rows of plain values can be left out. -/
lemma PlainRows.unrepeatedRows {rows : List Row} (h : PlainRows rows) (s : Select)
    (labels : List Value) : s.unrepeatedRows labels rows = .ok (s.unrepeated labels rows) :=
  Select.unrepeatedRows_eq_ok.mpr ⟨fun _ => h.unhashableCell? labels, rfl⟩

/-! ## The operators in turn -/

namespace Operator

/-- The selection after several operators that are applied one after the other. -/
def run : List Operator → Selection → Except Fault Selection
  | [], s => .ok s
  | op :: ops, s => op.apply s >>= run ops

/-- Operators in two parts. -/
lemma run_append (as bs : List Operator) (s : Selection) :
    run (as ++ bs) s = run as s >>= run bs := by
  induction as generalizing s with
  | nil => rfl
  | cons op as ih =>
    rw [List.cons_append, run, run]
    cases op.apply s with
    | error f => rfl
    | ok after => exact ih after

/-- One operator is applied if the statement asks for it, and else changes nothing. -/
lemma run_step (op : Operator) (s : Select) (labels : List Value) (phase : Phase)
    {rows after : List Row}
    (h : op.asked s = true → op.rowsOf ⟨rows, labels, s, phase⟩ = .ok after)
    (hnot : op.asked s = false → after = rows) :
    ∃ p, run ([op].filter (·.asked s)) ⟨rows, labels, s, phase⟩ = .ok ⟨after, labels, s, p⟩ := by
  cases hasked : op.asked s with
  | true =>
    refine ⟨op.phase, ?_⟩
    rw [List.filter_cons, hasked, if_pos rfl, List.filter_nil, run, apply, h hasked]
    rfl
  | false =>
    refine ⟨phase, ?_⟩
    rw [List.filter_cons, hasked, if_neg (by decide), List.filter_nil, run, hnot hasked]

section Steps

variable (s : Select) (labels : List Value) (phase : Phase) (rows : List Row)

/-- The filter in its place. -/
lemma run_filter : ∃ p, run ([filter].filter (·.asked s)) ⟨rows, labels, s, phase⟩ =
    .ok ⟨s.filtered rows, labels, s, p⟩ := by
  refine run_step filter s labels phase (fun _ => ?_) fun hasked => ?_
  · rw [rowsOf, filterRows, Select.filtered]
    cases s.condition with
    | none => exact congrArg Except.ok (List.filter_eq_self.mpr fun _ _ => rfl)
    | some p => rfl
  · rw [asked, Option.isSome_eq_false_iff, Option.isNone_iff_eq_none] at hasked
    rw [Select.filtered, hasked]

/-- The order in its place. -/
lemma run_order : ∃ p, run ([order].filter (·.asked s)) ⟨rows, labels, s, phase⟩ =
    .ok ⟨s.ordered rows, labels, s, p⟩ := by
  refine run_step order s labels phase (fun _ => ?_) fun hasked => ?_
  · rw [rowsOf, Select.ordered]
    dsimp only
    cases s.orderBy <;> rfl
  · rw [asked, Option.isSome_eq_false_iff, Option.isNone_iff_eq_none] at hasked
    rw [Select.ordered, hasked]

/-- The projection in its place. -/
lemma run_project : ∃ p, run ([project].filter (·.asked s)) ⟨rows, labels, s, phase⟩ =
    .ok ⟨s.projected labels rows, labels, s, p⟩ := by
  refine run_step project s labels phase (fun hasked => ?_) fun hasked => ?_
  · rw [asked, Bool.not_eq_true'] at hasked
    rw [rowsOf, Select.projected, hasked]
    rfl
  · rw [asked, Bool.not_eq_false'] at hasked
    rw [Select.projected, if_pos hasked]

/-- The operator that leaves out repeated rows, in its place. -/
lemma run_distinct : ∃ p, run ([distinct].filter (·.asked s)) ⟨rows, labels, s, phase⟩ =
    (s.unrepeatedRows labels rows).map fun kept => ⟨kept, labels, s, p⟩ := by
  cases hasked : s.distinct with
  | true =>
    refine ⟨.distinct, ?_⟩
    rw [List.filter_cons, if_pos (show asked distinct s = true from hasked), List.filter_nil, run,
      apply, rowsOf, Select.unrepeatedRows, if_pos hasked]
    cases distinctRows labels rows <;> rfl
  | false =>
    refine ⟨phase, ?_⟩
    have hnot : ¬ asked distinct s = true := by rw [asked, hasked]; decide
    rw [List.filter_cons, if_neg hnot, List.filter_nil, run, Select.unrepeatedRows,
      if_neg (by rw [hasked]; decide)]
    rfl

/-- The page in its place. -/
lemma run_limit : ∃ p, run ([limit].filter (·.asked s)) ⟨rows, labels, s, phase⟩ =
    .ok ⟨s.paged rows, labels, s, p⟩ := by
  refine run_step limit s labels phase (fun hasked => ?_) fun hasked => ?_
  · rw [asked] at hasked
    rw [rowsOf, Select.paged, if_pos hasked]
  · rw [asked] at hasked
    rw [Select.paged, hasked]
    rfl

end Steps

/-- **The operators that a statement asks for**, in turn: the filter, the order and the projection
make the candidates, repeated ones are left out, which can be a fault, and a page is taken.

**Proof sketch.** The operators are taken one place after the other. Each of them makes of the rows
what the answer makes of them in that place, and one that is not asked for leaves them, as the
answer does. -/
theorem run_all (s : Select) (labels : List Value) (rows : List Row) :
    ∃ phase, run (all.filter (·.asked s)) ⟨rows, labels, s, .scanned⟩ =
      (s.unrepeatedRows labels (s.candidates labels rows)).map fun kept =>
        ⟨s.paged kept, labels, s, phase⟩ := by
  have hall : all.filter (·.asked s) = [filter].filter (·.asked s) ++ ([order].filter (·.asked s) ++
      ([project].filter (·.asked s) ++ ([distinct].filter (·.asked s) ++
        [limit].filter (·.asked s)))) := by
    rw [← List.filter_append, ← List.filter_append, ← List.filter_append, ← List.filter_append]
    rfl
  obtain ⟨p1, h1⟩ := run_filter s labels .scanned rows
  obtain ⟨p2, h2⟩ := run_order s labels p1 (s.filtered rows)
  obtain ⟨p3, h3⟩ := run_project s labels p2 (s.ordered (s.filtered rows))
  obtain ⟨p4, h4⟩ := run_distinct s labels p3 (s.candidates labels rows)
  rw [hall, run_append, h1]
  show ∃ phase, run _ _ = _
  rw [run_append, h2]
  show ∃ phase, run _ _ = _
  rw [run_append, h3]
  show ∃ phase, run _ ⟨s.candidates labels rows, labels, s, p3⟩ = _
  rw [run_append, h4]
  cases hkept : s.unrepeatedRows labels (s.candidates labels rows) with
  | error f => exact ⟨p4, rfl⟩
  | ok kept => exact run_limit s labels p4 kept

/-- On rows of plain values the operators that a statement asks for compute its answer. -/
theorem run_asked (s : Select) (labels : List Value) (rows : List Row) (h : PlainRows rows) :
    ∃ phase, run (all.filter (·.asked s)) ⟨rows, labels, s, .scanned⟩ =
      .ok ⟨s.answer labels rows, labels, s, phase⟩ := by
  obtain ⟨phase, hrun⟩ := run_all s labels rows
  refine ⟨phase, ?_⟩
  rw [hrun, (h.candidates s labels).unrepeatedRows]
  rfl

end Operator

/-! ## The passage of a `SELECT` -/

/-- Operators that come to a selection with a listing make the stages of its passage. -/
lemma Selection.finish_of_run {after : Selection} {text : String}
    (hlist : listing after.labels after.rows = .ok text) (ops : List Operator) :
    ∀ s : Selection, Operator.run ops s = .ok after →
      finish ops s = (ops.map (fun op => (operatorStage op).name) ++
        [listingStage.name, resultStage.name], .ok (.ok text)) := by
  induction ops with
  | nil =>
    intro s h
    obtain rfl : s = after := Except.ok.inj h
    rw [finish, hlist]
    rfl
  | cons op ops ih =>
    intro s h
    obtain ⟨next, hnext, hrest⟩ := bind_eq_ok.mp h
    rw [finish, hnext]
    dsimp only
    rw [ih next hrest]
    rfl

namespace Select

variable (env : Surroundings) {session : Session} {s : Select}

/-- The labels of the columns to show are texts. -/
lemma text_of_mem_labels {schema : Schema} (h : schema.WellFormed) :
    ∀ label ∈ s.labels schema, ∃ name, label = .text name := by
  intro label hlabel
  rw [labels] at hlabel
  split at hlabel
  · exact h.text_of_mem hlabel
  · obtain ⟨name, -, rfl⟩ := List.mem_map.mp hlabel
    exact ⟨name, rfl⟩

/-- **A `SELECT` that is refused** goes from its scan to the result. -/
lemma passage_refused {e : StatementError} (h : s.refusal? session.store = some e) :
    Passage env (.statement (.select s)) session
      [(executionStage env .select).name, resultStage.name] session (.ok (.error e.message)) := by
  have hadv : (Payload.statement (.select s)).advance? env session =
      some ((executionStage env .select).name, ⟨session, .error (Failure.statement e)⟩) := by
    rw [Payload.advance?, Statement.perform, scan_of_refusal h]
    rfl
  exact .pass hadv rfl (.capture _ _)

/-- **A `SELECT` that is scanned** goes from its scan through the operators that it asks for, to the
end that these lead to. -/
lemma passage_scanned {first : Selection} (h : s.scan session.store = .ok first) :
    Passage env (.statement (.select s)) session ((executionStage env .select).name ::
      (first.finish (Operator.all.filter (·.asked s))).1) session
      (first.finish (Operator.all.filter (·.asked s))).2 := by
  obtain ⟨t, -, -, rfl⟩ := scan_eq_ok h
  have hadv : (Payload.statement (.select s)).advance? env session =
      some ((executionStage env .select).name,
        ⟨session, .ok (.selection ⟨t.rows, s.labels t.schema, s, .scanned⟩)⟩) := by
    rw [Payload.advance?, Statement.perform, h]
    rfl
  exact .pass hadv rfl
    (Selection.passage_finish env session _ _ (Operator.pending_scanned t.rows _ s))

/-- **A `SELECT` that is answered** goes from its scan through the operators that it asks for, each
once and in their order, to the listing of its answer and to the result. -/
lemma passage_answered (hstore : session.store.WellFormed) (h : s.refusal? session.store = none) :
    ∃ t text, session.store.find? s.table = some t ∧
      listing (s.labels t.schema) (s.answer (s.labels t.schema) t.rows) = .ok text ∧
      Passage env (.statement (.select s)) session ((executionStage env .select).name ::
        ((Operator.all.filter (·.asked s)).map (fun op => (operatorStage op).name) ++
          [listingStage.name, resultStage.name])) session (.ok (.ok text)) := by
  obtain ⟨t, htable, hscan⟩ := scan_of_no_refusal h
  have ht := hstore.find? htable
  obtain ⟨text, htext⟩ := exists_listing (text_of_mem_labels (s := s) ht.schema)
    (s.answer (s.labels t.schema) t.rows)
  refine ⟨t, text, htable, htext, ?_⟩
  obtain ⟨phase, hrun⟩ := Operator.run_asked s (s.labels t.schema) t.rows fun row hrow =>
    (ht.rows row hrow).plain
  have c := passage_scanned env hscan
  rw [Selection.finish_of_run htext _ _ hrun] at c
  exact c

end Select

end StagedQuery
