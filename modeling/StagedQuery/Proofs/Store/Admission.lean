import StagedQuery.Proofs.Store.WellFormed

set_option relaxedAutoImplicit false
set_option autoImplicit false

/-!
# Which insertions are admitted

An `INSERT` is admitted as a whole or refused as a whole. It goes through its checks in a fixed
order, and the first one that is not passed decides its error: the table, the names of the column
list, their repetition, and then list of values by list of values, first the length and then the
required columns. A row is completed and checked twice on the way, when it is built and when it is
stored, and the second time never changes the outcome.

## Main definitions

* `Insert.NamesColumns` — what is asked of a column list.
* `Insert.Completes` — the rows to which a list of values is completed.
* `Insert.Admits` — the lists of values of which a row can be made.
* `Insert.Admitted` — what is asked of an `INSERT` into a table.
* `Insert.Violation` — the first check that an `INSERT` does not pass, with its error.

## Main results

* `Insert.completes_iff` — a list of values of the right length is completed to one row.
* `Insert.rowsFrom_eq_ok_iff`, `Insert.rowsFrom_eq_error_iff` — the rows of several lists of values,
  or the error of the first list that is not admitted.
* `Insert.prepare_eq_error_iff` — the checks of an `INSERT` and their order.
* `Insert.execute_of_rowsFor` — no other check can fail once they are passed.
* `Insert.execute_of_admitted`, `Insert.result_eq_ok_iff`, `Insert.result_eq_error_iff` — what an
  `INSERT` does, when it succeeds, and how it fails.
-/

namespace StagedQuery

namespace Insert

/-! ## What is asked of an `INSERT` -/

/-- A column list, if there is one, names columns only, each of them once. -/
def NamesColumns (s : Insert) (schema : Schema) : Prop :=
  ∀ names, s.columns = some names →
    (∀ name ∈ names, schema.has (.text name) = true) ∧ names.Nodup

/-- The row to which a list of values is completed. The list has the length of the column list, or
that of the schema where there is none. The row has the labels of the schema in order. Under a label
that is given a value it holds this value, and under the others the default of the column. -/
structure Completes (s : Insert) (schema : Schema) (values : List Value) (row : Row) : Prop where
  length : values.length = (targets schema s.columns).length
  labels : row.map Prod.fst = schema.labels
  given : ∀ p ∈ (targets schema s.columns).zip values, row.get p.1 = p.2
  fallback : ∀ c ∈ schema.columns, c.label ∉ targets schema s.columns →
    row.get c.label = c.defaultValue

/-- A list of values that is completed to a row in which no required column is empty. -/
def Admits (s : Insert) (schema : Schema) (values : List Value) : Prop :=
  ∃ row, s.Completes schema values row ∧ schema.Filled row

/-- An `INSERT` whose column list and whose lists of values fit a schema. -/
structure Admitted (s : Insert) (schema : Schema) : Prop where
  columns : s.NamesColumns schema
  rows : ∀ values ∈ s.rows, s.Admits schema values

/-- The number that an error gives to the list of values behind `before` others: none, unless there
are several. -/
def place (s : Insert) (before : List (List Value)) : Option ℕ :=
  if 1 < s.rows.length then some (before.length + 1) else none

/-- **The first violation of an `INSERT`** with its error: every check before it is passed. -/
inductive Violation (s : Insert) (store : Store) : EngineError → Prop
  /-- There is no such table. -/
  | table (ht : store.find? s.table = none) : Violation s store (.statement (.noSuchTable s.table))
  /-- A name in the column list is not that of a column. -/
  | column {t : Table} (ht : store.find? s.table = some t) {before after : List String}
      {name : String} (hnames : s.columns = some (before ++ name :: after))
      (hbefore : ∀ n ∈ before, t.schema.has (.text n) = true)
      (hname : t.schema.has (.text name) = false) :
      Violation s store (.statement (.noSuchColumn (.text name) s.table))
  /-- The column list names a column twice. -/
  | repeated {t : Table} (ht : store.find? s.table = some t) {names : List String}
      (hnames : s.columns = some names) (hall : ∀ name ∈ names, t.schema.has (.text name) = true)
      (hrepeated : ¬ names.Nodup) : Violation s store (.statement .repeatedInsertColumn)
  /-- A list of values has the wrong length. -/
  | length {t : Table} (ht : store.find? s.table = some t) (hcolumns : s.NamesColumns t.schema)
      {before after : List (List Value)} {values : List Value}
      (hrows : s.rows = before ++ values :: after) (hbefore : ∀ v ∈ before, s.Admits t.schema v)
      (hlength : values.length ≠ (targets t.schema s.columns).length) :
      Violation s store
        (.statement (lengthError t.schema s.columns (s.place before) values.length))
  /-- A required column is empty in a completed row. -/
  | presence {t : Table} (ht : store.find? s.table = some t) (hcolumns : s.NamesColumns t.schema)
      {before after : List (List Value)} {values : List Value}
      (hrows : s.rows = before ++ values :: after) (hbefore : ∀ v ∈ before, s.Admits t.schema v)
      {row : Row} (hrow : s.Completes t.schema values row) {left right : List Column} {c : Column}
      (hsplit : t.schema.columns = left ++ c :: right)
      (hleft : ∀ d ∈ left, d.presence.isRequired = true → (row.get d.label).isNull = false)
      (hrequired : c.presence.isRequired = true) (hnull : (row.get c.label).isNull = true) :
      Violation s store (.constraint (.missingValue c.label))

variable {s : Insert} {schema : Schema} {values : List Value} {row : Row} {e : Failure}

/-! ## The column list -/

/-- Different names are distinct labels. -/
lemma distinct_labels {names : List String} (h : names.Nodup) : Row.Distinct (labels names) := by
  rw [labels, Row.Distinct, List.pairwise_map]
  refine h.imp fun {a b} hne => ?_
  rw [← Bool.not_eq_true, Value.text_same_text]
  simpa using hne

/-- Dropping repeated names makes no list longer. -/
lemma length_eraseDups_le : ∀ names : List String, names.eraseDups.length ≤ names.length
  | [] => by simp
  | name :: names => by
    have hfilter := List.length_filter_le (fun other => !other == name) names
    have hrest := length_eraseDups_le (names.filter fun other => !other == name)
    rw [List.eraseDups_cons, List.length_cons, List.length_cons]
    omega
termination_by names => names.length
decreasing_by exact Nat.lt_succ_of_le (List.length_filter_le _ _)

/-- Dropping repeated names keeps all of them just if they are different. -/
lemma length_eraseDups_eq_iff : ∀ names : List String,
    names.eraseDups.length = names.length ↔ names.Nodup
  | [] => by simp
  | name :: names => by
    rw [List.eraseDups_cons, List.length_cons, List.length_cons, List.nodup_cons]
    by_cases hname : name ∈ names
    · have hshorter : (names.filter fun other => !other == name).length < names.length :=
        List.length_filter_lt_length_iff_exists.mpr ⟨name, hname, by simp⟩
      have hrest := length_eraseDups_le (names.filter fun other => !other == name)
      refine iff_of_false (by omega) fun h => h.1 hname
    · have hsame : names.filter (fun other => !other == name) = names := by
        refine List.filter_eq_self.mpr fun other hother => ?_
        have hne : other ≠ name := fun h => hname (h ▸ hother)
        simpa using hne
      rw [hsame, Nat.add_right_cancel_iff, length_eraseDups_eq_iff names]
      exact (and_iff_right hname).symm

/-- The names of a column list are admitted if they are those of columns. -/
lemma require_labels_eq_ok {names : List String} : schema.require (labels names) = .ok () ↔
    ∀ name ∈ names, schema.has (.text name) = true := by
  rw [Schema.require_eq_ok, labels, List.forall_mem_map]

/-- The first name in a column list that is not that of a column is reported. -/
lemma require_labels_eq_error {names : List String} : schema.require (labels names) = .error e ↔
    ∃ before name after, names = before ++ name :: after ∧
      (∀ n ∈ before, schema.has (.text n) = true) ∧ schema.has (.text name) = false ∧
      e = .statement (.noSuchColumn (.text name) schema.name) := by
  rw [Schema.require_eq_error]
  constructor
  · rintro ⟨front, label, back, hsplit, hfront, hlabel, he⟩
    obtain ⟨before, rest, rfl, rfl, hrest⟩ := List.map_eq_append_iff.mp hsplit
    obtain ⟨name, after, rfl, rfl, rfl⟩ := List.map_eq_cons_iff.mp hrest
    exact ⟨before, name, after, rfl, List.forall_mem_map.mp hfront, hlabel, he⟩
  · rintro ⟨before, name, after, rfl, hbefore, hname, he⟩
    exact ⟨labels before, .text name, labels after, by simp [labels],
      List.forall_mem_map.mpr hbefore, hname, he⟩

/-- **A column list passes its checks** if it names columns only, each of them once. -/
lemma checkColumns_eq_ok {names : List String} : checkColumns schema names = .ok () ↔
    (∀ name ∈ names, schema.has (.text name) = true) ∧ names.Nodup := by
  rw [checkColumns, bind_eq_ok, ← length_eraseDups_eq_iff, ← require_labels_eq_ok]
  constructor
  · rintro ⟨u, hrequire, hrest⟩
    refine ⟨hrequire, ?_⟩
    by_contra hlength
    rw [if_neg hlength] at hrest
    cases hrest
  · rintro ⟨hrequire, hlength⟩
    exact ⟨(), hrequire, by rw [if_pos hlength]; rfl⟩

/-- **The error of a column list** is about the first name that is not that of a column, or else
about a repetition. -/
lemma checkColumns_eq_error {names : List String} : checkColumns schema names = .error e ↔
    (∃ before name after, names = before ++ name :: after ∧
      (∀ n ∈ before, schema.has (.text n) = true) ∧ schema.has (.text name) = false ∧
      e = .statement (.noSuchColumn (.text name) schema.name)) ∨
    (∀ name ∈ names, schema.has (.text name) = true) ∧ ¬ names.Nodup ∧
      e = .statement .repeatedInsertColumn := by
  rw [← require_labels_eq_error, ← require_labels_eq_ok, ← length_eraseDups_eq_iff, checkColumns]
  cases schema.require (labels names) with
  | error e' => simp [bind, Except.bind]
  | ok u =>
    by_cases hlength : names.eraseDups.length = names.length
    · simp [bind, Except.bind, hlength, pure, Except.pure]
    · simp [bind, Except.bind, hlength, throw_eq_error, eq_comm]

/-! ## The row of one list of values -/

/-- The labels for which an `INSERT` has values are different ones of its schema. -/
lemma NamesColumns.distinct (hs : schema.WellFormed) (h : s.NamesColumns schema) :
    Row.Distinct (targets schema s.columns) ∧
      ∀ label ∈ targets schema s.columns, label ∈ schema.labels := by
  cases hcolumns : s.columns with
  | none => exact ⟨hs.distinct, fun _ hlabel => hlabel⟩
  | some names =>
    obtain ⟨hall, hnodup⟩ := h names hcolumns
    refine ⟨distinct_labels hnodup, List.forall_mem_map.mpr fun name hname => ?_⟩
    obtain ⟨label, hlabel, hsame⟩ := Schema.exists_label_of_has (hall name hname)
    obtain ⟨other, rfl⟩ := hs.text_of_mem hlabel
    rw [Value.text_same_text, beq_iff_eq] at hsame
    rwa [hsame] at hlabel

/-- The row of a list of values: the value given for each column, else its default. -/
def completed (s : Insert) (schema : Schema) (values : List Value) : Row :=
  schema.columns.map fun c => (c.label, Schema.cell ((targets schema s.columns).zip values) c)

/-- Its labels are those of the schema. -/
lemma labels_completed (s : Insert) (schema : Schema) (values : List Value) :
    (s.completed schema values).map Prod.fst = schema.labels := by
  rw [completed, List.map_map]
  rfl

/-- Each column of it holds what is given for the column. -/
lemma get_completed (hs : schema.WellFormed) {c : Column} (hc : c ∈ schema.columns) :
    (s.completed schema values).get c.label =
      Schema.cell ((targets schema s.columns).zip values) c := by
  have hdistinct : Row.Distinct ((s.completed schema values).map Prod.fst) := by
    rw [labels_completed]
    exact hs.distinct
  have hmem : (c.label, Schema.cell ((targets schema s.columns).zip values) c) ∈
      s.completed schema values := List.mem_map_of_mem hc
  exact Row.get_of_mem hdistinct hmem (hs.unhashable_label (List.mem_map_of_mem hc))

/-- A column that is given a value gets this value. -/
lemma cell_of_given (hs : schema.WellFormed) (h : s.NamesColumns schema)
    (hlength : values.length = (targets schema s.columns).length) {c : Column}
    (hc : c ∈ schema.columns) {v : Value}
    (hv : (c.label, v) ∈ (targets schema s.columns).zip values) :
    Schema.cell ((targets schema s.columns).zip values) c = v := by
  have hdistinct : Row.Distinct (((targets schema s.columns).zip values).map Prod.fst) := by
    rw [List.map_fst_zip (Nat.le_of_eq hlength.symm)]
    exact (h.distinct hs).1
  rw [Schema.cell,
    Row.find?_of_mem hdistinct hv (hs.unhashable_label (List.mem_map_of_mem hc))]
  rfl

/-- A column that is given none gets its default. -/
lemma cell_of_not_given (hs : schema.WellFormed) (h : s.NamesColumns schema) {c : Column}
    (hnot : c.label ∉ targets schema s.columns) :
    Schema.cell ((targets schema s.columns).zip values) c = c.defaultValue := by
  have hnone : Row.find? ((targets schema s.columns).zip values) c.label = none := by
    refine Row.find?_eq_none.mpr fun p hp hsame => ?_
    have htarget : p.1 ∈ targets schema s.columns := (List.of_mem_zip hp).1
    obtain ⟨name, hname⟩ := hs.text_of_mem ((h.distinct hs).2 p.1 htarget)
    rw [hname, Value.same_text] at hsame
    exact hnot (by rwa [hsame, ← hname])
  rw [Schema.cell, hnone]
  rfl

/-- The completed row of a list of values is one to which the list is completed. -/
lemma completes_completed (hs : schema.WellFormed) (h : s.NamesColumns schema)
    (hlength : values.length = (targets schema s.columns).length) :
    s.Completes schema values (s.completed schema values) where
  length := hlength
  labels := labels_completed s schema values
  given p hp := by
    have hlabel : p.1 ∈ schema.labels := (h.distinct hs).2 p.1 (List.of_mem_zip hp).1
    obtain ⟨c, hc, hname⟩ := List.mem_map.mp hlabel
    rw [← hname, get_completed hs hc]
    exact cell_of_given hs h hlength hc (by rw [hname]; exact hp)
  fallback c hc hnot := by
    rw [get_completed hs hc]
    exact cell_of_not_given hs h hnot

/-- A row to which a list of values is completed holds in each column what the column gets. -/
lemma Completes.get_eq (hrow : s.Completes schema values row) (hs : schema.WellFormed)
    (h : s.NamesColumns schema) {c : Column} (hc : c ∈ schema.columns) :
    row.get c.label = Schema.cell ((targets schema s.columns).zip values) c := by
  by_cases htarget : c.label ∈ targets schema s.columns
  · have hgiven := htarget
    rw [← List.map_fst_zip (Nat.le_of_eq hrow.length.symm)] at hgiven
    obtain ⟨⟨label, v⟩, hp, hlabel⟩ := List.mem_map.mp hgiven
    obtain rfl : label = c.label := hlabel
    rw [cell_of_given hs h hrow.length hc hp]
    exact hrow.given _ hp
  · rw [cell_of_not_given hs h htarget]
    exact hrow.fallback c hc htarget

/-- **A list of values of the right length is completed to one row.** -/
lemma completes_iff (hs : schema.WellFormed) (h : s.NamesColumns schema)
    (hlength : values.length = (targets schema s.columns).length) :
    s.Completes schema values row ↔ row = s.completed schema values := by
  constructor
  · intro hrow
    calc row = (row.map Prod.fst).map fun label => (label, row.get label) :=
          Row.eq_map_get (by rw [hrow.labels]; exact hs.distinct)
            (by rw [hrow.labels]; exact fun _ hlabel => hs.unhashable_label hlabel)
      _ = schema.columns.map fun c => (c.label, row.get c.label) := by
          rw [hrow.labels, Schema.labels, List.map_map]
          rfl
      _ = s.completed schema values :=
          List.map_congr_left fun c hc => by rw [hrow.get_eq hs h hc]
  · rintro rfl
    exact completes_completed hs h hlength

/-- **The row of one list of values**: it is completed if its length is right, and checked then. -/
lemma rowFor_eq (hs : schema.WellFormed) (h : s.NamesColumns schema) (number : Option ℕ)
    (values : List Value) : rowFor schema s.columns number values =
      if values.length = (targets schema s.columns).length then
        (schema.checkPresence (s.completed schema values)).map fun _ => s.completed schema values
      else .error (.statement (lengthError schema s.columns number values.length)) := by
  by_cases hlength : values.length = (targets schema s.columns).length
  · have hlabels : Row.Distinct (((targets schema s.columns).zip values).map Prod.fst) := by
      rw [List.map_fst_zip (Nat.le_of_eq hlength.symm)]
      exact (h.distinct hs).1
    have hcomplete : schema.complete (Row.ofPairs ((targets schema s.columns).zip values)) =
        .ok (s.completed schema values) := by
      rw [Row.ofPairs_of_distinct hlabels]
      exact Schema.complete_of_distinct (fun _ hlabel => hs.unhashable_label hlabel) hs.distinct _
    simp only [rowFor, hlength, ne_eq, not_true_eq_false, ↓reduceIte, hcomplete, bind, Except.bind]
    cases schema.checkPresence (s.completed schema values) <;> rfl
  · simp [rowFor, hlength, bind, Except.bind, throw_eq_error]

/-- **A row is made of a list of values** if the list is completed to it and it is filled. -/
lemma rowFor_eq_ok_iff (hs : schema.WellFormed) (h : s.NamesColumns schema) {number : Option ℕ} :
    rowFor schema s.columns number values = .ok row ↔
      s.Completes schema values row ∧ schema.Filled row := by
  rw [rowFor_eq hs h]
  by_cases hlength : values.length = (targets schema s.columns).length
  · rw [if_pos hlength, map_eq_ok, completes_iff hs h hlength]
    constructor
    · rintro ⟨u, hcheck, rfl⟩
      exact ⟨rfl, Schema.checkPresence_eq_ok.mp hcheck⟩
    · rintro ⟨rfl, hfilled⟩
      exact ⟨(), Schema.checkPresence_eq_ok.mpr hfilled, rfl⟩
  · rw [if_neg hlength]
    exact iff_of_false (by simp) fun hrow => hlength hrow.1.length

/-- **No row is made of a list of values** if its length is wrong, or if a required column of the
row to which it is completed is empty. -/
lemma rowFor_eq_error_iff (hs : schema.WellFormed) (h : s.NamesColumns schema) {number : Option ℕ} :
    rowFor schema s.columns number values = .error e ↔
      (values.length ≠ (targets schema s.columns).length ∧
        e = .statement (lengthError schema s.columns number values.length)) ∨
      ∃ row, s.Completes schema values row ∧ schema.checkPresence row = .error e := by
  rw [rowFor_eq hs h]
  by_cases hlength : values.length = (targets schema s.columns).length
  · rw [if_pos hlength, map_eq_error]
    simp only [completes_iff hs h hlength, exists_eq_left, hlength, ne_eq, not_true_eq_false,
      false_and, false_or]
  · have hnone : ¬ ∃ row, s.Completes schema values row ∧ schema.checkPresence row = .error e :=
      fun ⟨row, hrow, _⟩ => hlength hrow.length
    rw [if_neg hlength, or_iff_left hnone, Except.error.injEq, eq_comm]
    exact (and_iff_right hlength).symm

/-! ## The rows of several lists of values -/

/-- **Rows are made of lists of values** if each list is completed to its row and all are filled. -/
lemma rowsFrom_eq_ok_iff (hs : schema.WellFormed) (h : s.NamesColumns schema) {numbered : Bool}
    {lists : List (List Value)} {rows : List Row} {next : ℕ} :
    rowsFrom schema s.columns numbered next lists = .ok rows ↔
      List.Forall₂ (fun values row => s.Completes schema values row ∧ schema.Filled row)
        lists rows := by
  induction lists generalizing rows next with
  | nil =>
    rw [List.forall₂_nil_left_iff, rowsFrom, Except.ok.injEq, eq_comm]
  | cons values lists ih =>
    rw [rowsFrom, bind_eq_ok, List.forall₂_cons_left_iff]
    simp only [rowFor_eq_ok_iff hs h, bind_eq_ok, ih]
    constructor
    · rintro ⟨row, hrow, rest, hrest, heq⟩
      exact ⟨row, rest, hrow, hrest, (Except.ok.inj heq).symm⟩
    · rintro ⟨row, rest, hrow, hrest, rfl⟩
      exact ⟨row, hrow, rest, hrest, rfl⟩

/-- **The first list of values that is not admitted** decides the error of all.

**Proof sketch.** Induction on the lists. If a row is made of the first one, the error is that of
the others, of which the first has the next number. -/
lemma rowsFrom_eq_error_iff (hs : schema.WellFormed) (h : s.NamesColumns schema) {numbered : Bool}
    {lists : List (List Value)} {next : ℕ} :
    rowsFrom schema s.columns numbered next lists = .error e ↔
      ∃ before values after, lists = before ++ values :: after ∧
        (∀ v ∈ before, s.Admits schema v) ∧
        rowFor schema s.columns (if numbered then some (next + before.length) else none) values =
          .error e := by
  induction lists generalizing next with
  | nil => simp [rowsFrom]
  | cons values lists ih =>
    rw [rowsFrom, bind_eq_error]
    constructor
    · rintro (hfirst | ⟨row, hrow, hrest⟩)
      · exact ⟨[], values, lists, rfl, by simp, hfirst⟩
      · have hbehind : rowsFrom schema s.columns numbered (next + 1) lists = .error e := by
          rcases bind_eq_error.mp hrest with hbehind | ⟨rows, -, hnone⟩
          · exact hbehind
          · cases hnone
        obtain ⟨before, bad, after, rfl, hbefore, hbad⟩ := ih.mp hbehind
        have hadmits : s.Admits schema values := ⟨row, (rowFor_eq_ok_iff hs h).mp hrow⟩
        refine ⟨values :: before, bad, after, rfl, by simpa using ⟨hadmits, hbefore⟩, ?_⟩
        rwa [List.length_cons, Nat.add_comm before.length 1, ← Nat.add_assoc]
    · rintro ⟨before, bad, after, hsplit, hbefore, hbad⟩
      cases before with
      | nil =>
        obtain ⟨rfl, -⟩ := List.cons.inj hsplit
        exact .inl hbad
      | cons first before =>
        obtain ⟨rfl, rfl⟩ := List.cons.inj hsplit
        obtain ⟨⟨row, hrow⟩, hbefore⟩ := List.forall_mem_cons.mp hbefore
        refine .inr ⟨row, (rowFor_eq_ok_iff hs h).mpr hrow, bind_eq_error.mpr (.inl ?_)⟩
        refine ih.mpr ⟨before, bad, after, rfl, hbefore, ?_⟩
        rwa [List.length_cons, Nat.add_comm before.length 1, ← Nat.add_assoc] at hbad

/-! ## All checks -/

/-- The checks of an `INSERT` on a schema: those of its column list, and then its rows are built. -/
lemma rowsFor_eq (s : Insert) (schema : Schema) :
    (s.NamesColumns schema ∧
      s.rowsFor schema = rowsFrom schema s.columns (1 < s.rows.length) 1 s.rows) ∨
    ∃ names e, s.columns = some names ∧ checkColumns schema names = .error e ∧
      s.rowsFor schema = .error e := by
  rw [rowsFor]
  cases hcolumns : s.columns with
  | none =>
    refine .inl ⟨fun names hnames => ?_, rfl⟩
    rw [hcolumns] at hnames
    cases hnames
  | some names =>
    cases hcheck : checkColumns schema names with
    | error e => exact .inr ⟨names, e, rfl, hcheck, by simp only [hcheck]; rfl⟩
    | ok u =>
      refine .inl ⟨fun names' hnames => ?_, by simp only [hcheck]; rfl⟩
      obtain rfl := Option.some.inj (hcolumns.symm.trans hnames)
      exact checkColumns_eq_ok.mp hcheck

/-- A column list that is right passes its checks. -/
lemma NamesColumns.checkColumns_ne_error (h : s.NamesColumns schema) {names : List String}
    (hnames : s.columns = some names) : checkColumns schema names ≠ .error e := by
  rw [checkColumns_eq_ok.mpr (h names hnames)]
  simp

/-- **The rows of an `INSERT` are built** if its column list is right and all its lists of values
are admitted. -/
lemma rowsFor_eq_ok_iff (hs : schema.WellFormed) {rows : List Row} :
    s.rowsFor schema = .ok rows ↔ s.NamesColumns schema ∧
      List.Forall₂ (fun values row => s.Completes schema values row ∧ schema.Filled row)
        s.rows rows := by
  rcases s.rowsFor_eq schema with ⟨h, hrows⟩ | ⟨names, e, hnames, hcheck, hrows⟩
  · rw [hrows, rowsFrom_eq_ok_iff hs h]
    exact (and_iff_right h).symm
  · rw [hrows]
    exact iff_of_false (by simp) fun h => h.1.checkColumns_ne_error hnames hcheck

/-- **They are not built** if the column list is wrong, or else if some list of values is not
admitted; the first one that is not has its number in the error. -/
lemma rowsFor_eq_error_iff (hs : schema.WellFormed) : s.rowsFor schema = .error e ↔
    (∃ names, s.columns = some names ∧ checkColumns schema names = .error e) ∨
    s.NamesColumns schema ∧ ∃ before values after, s.rows = before ++ values :: after ∧
      (∀ v ∈ before, s.Admits schema v) ∧
      rowFor schema s.columns (s.place before) values = .error e := by
  rcases s.rowsFor_eq schema with ⟨h, hrows⟩ | ⟨names, e', hnames, hcheck, hrows⟩
  · have hcolumns : ¬ ∃ names, s.columns = some names ∧ checkColumns schema names = .error e :=
      fun ⟨names, hnames, hcheck⟩ => h.checkColumns_ne_error hnames hcheck
    rw [hrows, or_iff_right hcolumns, rowsFrom_eq_error_iff hs h]
    simp only [place, decide_eq_true_eq, Nat.add_comm 1]
    exact (and_iff_right h).symm
  · have hcolumns : ¬ s.NamesColumns schema := fun h => h.checkColumns_ne_error hnames hcheck
    rw [hrows, or_iff_left fun h => hcolumns h.1, Except.error.injEq]
    constructor
    · rintro rfl
      exact ⟨names, hnames, hcheck⟩
    · rintro ⟨names', hnames', h⟩
      obtain rfl := Option.some.inj (hnames.symm.trans hnames')
      exact Except.error.inj (hcheck.symm.trans h)

variable {store : Store}

/-- An `INSERT` is admitted if rows can be made of all its lists of values. -/
lemma exists_rows_iff : (∃ rows, List.Forall₂
      (fun values row => s.Completes schema values row ∧ schema.Filled row) s.rows rows) ↔
    ∀ values ∈ s.rows, s.Admits schema values := by
  constructor
  · rintro ⟨rows, hrows⟩ values hvalues
    obtain ⟨row, -, hrow⟩ := exists_mem_of_forall₂ hrows hvalues
    exact ⟨row, hrow⟩
  · intro h
    generalize s.rows = lists at h
    induction lists with
    | nil => exact ⟨[], .nil⟩
    | cons values lists ih =>
      obtain ⟨⟨row, hrow⟩, hlists⟩ := List.forall_mem_cons.mp h
      obtain ⟨rows, hrows⟩ := ih hlists
      exact ⟨row :: rows, .cons hrow hrows⟩

/-- The rows of an `INSERT` are not built if there is no such table, or if they are not built on its
schema. -/
lemma prepare_eq_error : s.prepare store = .error e ↔
    (store.find? s.table = none ∧ e = .statement (.noSuchTable s.table)) ∨
    ∃ t, store.find? s.table = some t ∧ s.rowsFor t.schema = .error e := by
  rw [prepare, Store.get]
  cases store.find? s.table with
  | none => simp [bind, Except.bind, eq_comm]
  | some t => simp [bind, Except.bind]

/-- **The error with which the rows of an `INSERT` are not built** is that of its first violation.

**Proof sketch.** The checks are made in the order in which the violations are listed. What a
violation says of the checks before its own is that they are passed. -/
theorem prepare_eq_error_iff (hstore : store.WellFormed) :
    s.prepare store = .error e ↔ ∃ v, s.Violation store v ∧ e = .error v := by
  rw [prepare_eq_error]
  constructor
  · rintro (⟨ht, rfl⟩ | ⟨t, ht, hrows⟩)
    · exact ⟨_, .table ht, rfl⟩
    · have hs := (hstore.find? ht).schema
      rcases (rowsFor_eq_error_iff hs).mp hrows with ⟨names, hnames, hcheck⟩ |
        ⟨hcolumns, before, values, after, hsplit, hbefore, hvalues⟩
      · rcases checkColumns_eq_error.mp hcheck with
          ⟨left, name, right, rfl, hleft, hmissing, rfl⟩ | ⟨hall, hrepeated, rfl⟩
        · refine ⟨_, .column ht hnames hleft hmissing, ?_⟩
          rw [Store.name_of_find? ht]
          rfl
        · exact ⟨_, .repeated ht hnames hall hrepeated, rfl⟩
      · rcases (rowFor_eq_error_iff hs hcolumns).mp hvalues with
          ⟨hlength, rfl⟩ | ⟨row, hrow, hcheck⟩
        · exact ⟨_, .length ht hcolumns hsplit hbefore hlength, rfl⟩
        · obtain ⟨left, c, right, hcols, hleft, hrequired, hnull, rfl⟩ :=
            Schema.checkPresence_eq_error.mp hcheck
          exact ⟨_, .presence ht hcolumns hsplit hbefore hrow hcols hleft hrequired hnull, rfl⟩
  · rintro ⟨v, hviolation, rfl⟩
    cases hviolation with
    | table ht => exact .inl ⟨ht, rfl⟩
    | column ht hnames hleft hmissing =>
      refine .inr ⟨_, ht, (rowsFor_eq_error_iff (hstore.find? ht).schema).mpr (.inl ?_)⟩
      refine ⟨_, hnames, checkColumns_eq_error.mpr (.inl ⟨_, _, _, rfl, hleft, hmissing, ?_⟩)⟩
      rw [Store.name_of_find? ht]
      rfl
    | repeated ht hnames hall hrepeated =>
      refine .inr ⟨_, ht, (rowsFor_eq_error_iff (hstore.find? ht).schema).mpr (.inl ?_)⟩
      exact ⟨_, hnames, checkColumns_eq_error.mpr (.inr ⟨hall, hrepeated, rfl⟩)⟩
    | length ht hcolumns hsplit hbefore hlength =>
      have hs := (hstore.find? ht).schema
      refine .inr ⟨_, ht, (rowsFor_eq_error_iff hs).mpr (.inr ⟨hcolumns, _, _, _, hsplit, ?_⟩)⟩
      refine ⟨hbefore, ?_⟩
      exact (rowFor_eq_error_iff hs hcolumns).mpr (.inl ⟨hlength, rfl⟩)
    | presence ht hcolumns hsplit hbefore hrow hcols hleft hrequired hnull =>
      have hs := (hstore.find? ht).schema
      refine .inr ⟨_, ht, (rowsFor_eq_error_iff hs).mpr (.inr ⟨hcolumns, _, _, _, hsplit, ?_⟩)⟩
      refine ⟨hbefore, ?_⟩
      refine (rowFor_eq_error_iff hs hcolumns).mpr (.inr ⟨_, hrow, ?_⟩)
      exact Schema.checkPresence_eq_error.mpr ⟨_, _, _, hcols, hleft, hrequired, hnull, rfl⟩

/-! ## What an `INSERT` does -/

/-- **An `INSERT` whose rows are built** adds them at the end of its table: storing them one by one
finds nothing wrong any more. -/
lemma execute_of_rowsFor (hstore : store.WellFormed) {t : Table}
    (ht : store.find? s.table = some t) {rows : List Row} (hrows : s.rowsFor t.schema = .ok rows) :
    s.execute store = ⟨store.put ⟨t.schema, t.rows ++ rows⟩,
      .ok (changeMessage rows.length "inserted" (some s.table))⟩ := by
  have hschema := (hstore.find? ht).schema
  have hprepare : s.prepare store = .ok rows :=
    bind_eq_ok.mpr ⟨t, Store.get_eq_ok.mpr ht, hrows⟩
  have hstored := Store.insertAll_prepared s.table rows store t ht (prepared_of_rowsFor hrows)
    (by rw [Row.foldl_addLabel_of_distinct hschema.distinct]; exact hschema.require_labels)
  rw [execute, hprepare]
  simp only [hstored]
  rfl

/-- **An `INSERT` that is admitted** adds one row for each list of values at the end of its
table. -/
theorem execute_of_admitted (hstore : store.WellFormed) {t : Table}
    (ht : store.find? s.table = some t) (h : s.Admitted t.schema) :
    ∃ rows, List.Forall₂ (s.Completes t.schema) s.rows rows ∧
      s.execute store = ⟨store.put ⟨t.schema, t.rows ++ rows⟩,
        .ok (changeMessage rows.length "inserted" (some s.table))⟩ := by
  obtain ⟨rows, hrows⟩ := exists_rows_iff.mpr h.rows
  refine ⟨rows, hrows.imp fun _ _ hrow => hrow.1, execute_of_rowsFor hstore ht ?_⟩
  exact (rowsFor_eq_ok_iff (hstore.find? ht).schema).mpr ⟨h.columns, hrows⟩

/-- **An `INSERT` succeeds** just if there is its table and it is admitted. -/
theorem result_eq_ok_iff (hstore : store.WellFormed) :
    (∃ message, (s.execute store).result = .ok message) ↔
      ∃ t, store.find? s.table = some t ∧ s.Admitted t.schema := by
  constructor
  · rintro ⟨message, hmessage⟩
    obtain ⟨t, rows, ht, hrows, -, -⟩ := execute_ok hmessage
    obtain ⟨hcolumns, hlists⟩ := (rowsFor_eq_ok_iff (hstore.find? ht).schema).mp hrows
    exact ⟨t, ht, hcolumns, exists_rows_iff.mp ⟨rows, hlists⟩⟩
  · rintro ⟨t, ht, h⟩
    obtain ⟨rows, -, hexecute⟩ := execute_of_admitted hstore ht h
    exact ⟨_, by rw [hexecute]⟩

/-- **An `INSERT` fails** with the error of its first violation, and with nothing else. -/
theorem result_eq_error_iff (hstore : store.WellFormed) :
    (s.execute store).result = .error e ↔ ∃ v, s.Violation store v ∧ e = .error v := by
  rw [← prepare_eq_error_iff hstore]
  cases hprepare : s.prepare store with
  | error e' => simp [execute, hprepare]
  | ok rows =>
    obtain ⟨t, ht, hrows⟩ := prepare_eq_ok hprepare
    rw [execute_of_rowsFor hstore ht hrows]
    simp

end Insert

end StagedQuery
