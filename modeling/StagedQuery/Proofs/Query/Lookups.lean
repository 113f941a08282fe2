import StagedQuery.Proofs.Predicate.Columns
import StagedQuery.Proofs.Query.Answer

set_option relaxedAutoImplicit false
set_option autoImplicit false

/-!
# The look-ups of a `SELECT`

The steps of a `SELECT` read the values of rows by label, and a label that a row lacks reads as
`null`. That is a fallback: it should never be taken. This file repeats the steps with the look-up
as a parameter, which may fail. With the look-up that falls back to `null` they are the steps
themselves; with the one that fails at a missing label they succeed only if nothing is missing.

## Main definitions

* `LookUp` — the ways of looking up a value; `LookUp.lenient`, `LookUp.strict` — the one that falls
  back to `null`, and the one that fails.
* `LookUp.Finds` — a look-up that gives the value of a row at a label.
* `LookUp.holds`, `LookUp.filter`, `LookUp.sort`, `LookUp.project`, `LookUp.distinct`,
  `LookUp.list`, `LookUp.finish` — the steps with a look-up.
* `Operator.needs`, `LookUp.Supplies` — the labels that an operator looks up, and a look-up that
  finds those of several operators.

## Main results

* `LookUp.strict_holds_isSome`, `LookUp.strict_apply_isSome`, `LookUp.strict_list_isSome` — a step
  goes through without the fallback exactly if the rows have all labels that it looks up.
* `LookUp.apply_eq`, `LookUp.list_eq` — steps whose labels are found are the steps themselves.
* `LookUp.finish_lenient` — with the fallback, the steps are those of the selection.
* `LookUp.Supplies.step` — an operator leaves what the later ones look up.
* `LookUp.finish_strict` — without the fallback the steps are the same, if the columns to show and
  those of the operators are there at the start.
* `LookUp.finish_scan` — they are there for a `SELECT` that passes its checks on a well-formed
  store.
-/

namespace StagedQuery

/-- A way of looking up the value of a row at a label, which may fail. -/
def LookUp : Type := Row → Value → Option Value

/-- A step for each item of a list succeeds if it succeeds for each of them. -/
lemma isSome_mapM {α β : Type} {f : α → Option β} {l : List α} :
    (l.mapM f).isSome = true ↔ ∀ a ∈ l, (f a).isSome = true := by
  constructor
  · intro h a ha
    obtain ⟨l', hl'⟩ := Option.isSome_iff_exists.mp h
    obtain ⟨b, -, hb⟩ := exists_mem_of_forall₂ (mapM_eq_some.mp hl') ha
    exact Option.isSome_of_eq_some hb
  · intro h
    obtain ⟨l', hl', -⟩ := exists_mapM_eq_some (P := fun _ _ => True) fun a ha =>
      (Option.isSome_iff_exists.mp (h a ha)).imp fun _ hb => ⟨hb, trivial⟩
    exact Option.isSome_of_eq_some hl'

/-- A step that succeeds for each item of a list succeeds for the list. -/
lemma mapM_eq_some_map {α β : Type} {f : α → Option β} {g : α → β} {l : List α}
    (h : ∀ a ∈ l, f a = some (g a)) : l.mapM f = some (l.map g) := by
  rw [mapM_eq_some, List.forall₂_map_right_iff, List.forall₂_same]
  exact h

namespace LookUp

/-- The look-up of the steps themselves: what is missing reads as `null`. -/
def lenient : LookUp := fun row label => some (row.get label)

/-- The look-up that fails where the row lacks the label. -/
def strict : LookUp := fun row label => row.find? label

/-- A look-up finds the value of a row at a label. -/
def Finds (look : LookUp) (row : Row) (label : Value) : Prop :=
  look row label = some (row.get label)

/-- With the fallback, everything is found. -/
lemma lenient_finds (row : Row) (label : Value) : lenient.Finds row label := rfl

/-- Without the fallback, that is found which the row has. -/
lemma strict_finds {row : Row} {label : Value} :
    strict.Finds row label ↔ (row.find? label).isSome = true := by
  show row.find? label = some ((row.find? label).getD .null) ↔ _
  cases row.find? label <;> simp

/-! ## The steps with a look-up -/

section Steps

variable (look : LookUp)

/-- Whether a row meets a condition. Both sides of a branch are evaluated. -/
def holds : Predicate → Row → Option Bool
  | .leaf column test, row => (look row (.text column)).map test.holds
  | .and left right, row => do return (← holds left row) && (← holds right row)
  | .or left right, row => do return (← holds left row) || (← holds right row)

/-- Whether a row meets a condition that may be absent. -/
def meets (condition : Option Predicate) (row : Row) : Option Bool :=
  match condition with
  | some p => look.holds p row
  | none => some true

/-- The rows that meet a condition, or those that do not. -/
def filter (met : Bool) (condition : Option Predicate) : List Row → Option (List Row)
  | [] => some []
  | row :: rest => do
    let verdict ← look.meets condition row
    let kept ← filter met condition rest
    return if verdict == met then row :: kept else kept

/-- The rows in the order of a column. The values of the column are looked up once. -/
def sort (rows : List Row) (column : String) (descending : Bool) : Option (List Row) := do
  let cells ← rows.mapM fun row => (look row (.text column)).map (row, ·)
  let le := fun a b : Row × Value =>
    let order := a.2.compare b.2
    if descending then order != .lt else order != .gt
  return ((cells.filter (!·.2.isNull)).mergeSort le ++ cells.filter (·.2.isNull)).map Prod.fst

/-- The rows with the values of some columns only. -/
def project (labels : List Value) (rows : List Row) : Option (List Row) :=
  rows.mapM fun row =>
    (labels.mapM fun label => (look row label).map (label, ·)).map Row.ofPairs

/-- The values of a row in some columns. -/
def values (labels : List Value) (row : Row) : Option (List Value) := labels.mapM (look row)

/-- The rows whose values are none of those `seen` and not those of an earlier row. -/
def firsts (labels : List Value) (seen : List (List Value)) : List Row → Option (List Row)
  | [] => some []
  | row :: rest => do
    let values ← look.values labels row
    if seen.any (Value.sameAll · values) then firsts labels seen rest
    else return row :: (← firsts labels (values :: seen) rest)

/-- The first row of each signature, or the fault of a value that cannot be a key. -/
def distinct (labels : List Value) (rows : List Row) : Option (Except Fault (List Row)) := do
  let signatures ← rows.mapM (look.values labels)
  match signatures.findSome? (·.findSome? Value.unhashable?) with
  | some kind => return .error (.unhashable kind)
  | none => return .ok (← look.firsts labels [] rows)

/-- The line of a row. -/
def line (labels : List Value) (row : Row) : Option String :=
  (look.values labels row).map fun values => String.intercalate "\t" (values.map cellText)

/-- The text of rows under labels. -/
def list (labels : List Value) (rows : List Row) : Option (Except Fault String) :=
  if rows.isEmpty then some (.ok "0 rows returned")
  else match labels.mapM labelText with
    | .error f => some (.error f)
    | .ok texts => do
      let header := String.intercalate "\t" texts
      let lines ← rows.mapM (look.line labels)
      return .ok (String.intercalate "\n" ((rowCount rows.length ++ " returned") :: "" :: header
        :: ruleLine header labels.length :: lines))

/-- The rows after an operator. A page looks nothing up. -/
def rowsOf (op : Operator) (s : Selection) : Option (Except Fault (List Row)) :=
  match op with
  | .filter => (look.filter true s.select.condition s.rows).map .ok
  | .order =>
    match s.select.orderBy with
    | some o => (look.sort s.rows o.column o.descending).map .ok
    | none => some (.ok s.rows)
  | .project => (look.project s.labels s.rows).map .ok
  | .distinct => look.distinct s.labels s.rows
  | .limit => some (.ok (pageRows s.select.offset s.select.limit s.rows))

/-- The selection after an operator. -/
def apply (op : Operator) (s : Selection) : Option (Except Fault Selection) :=
  (look.rowsOf op s).map fun result =>
    result.map fun rows => ⟨rows, s.labels, s.select, op.phase⟩

/-- The stages that a selection goes through, and the outcome or the fault at the end. -/
def finish : List Operator → Selection → Option (List String × Except Fault Outcome)
  | [], s => do
    match ← look.list s.labels s.rows with
    | .ok text => return ([listingStage.name, resultStage.name], .ok (.ok text))
    | .error f => return ([listingStage.name], .error f)
  | op :: ops, s => do
    match ← look.apply op s with
    | .ok after =>
      let rest ← finish ops after
      return ((operatorStage op).name :: rest.1, rest.2)
    | .error f => return ([(operatorStage op).name], .error f)

end Steps

/-! ## Steps whose labels are found -/

section Found

variable {look : LookUp} {p : Predicate} {condition : Option Predicate} {row : Row}
  {rows : List Row} {labels : List Value}

/-- A condition all columns of which are found. -/
lemma holds_eq (h : ∀ name ∈ p.columns, look.Finds row (.text name)) :
    look.holds p row = some (p.holds row) := by
  induction p with
  | leaf column test =>
    rw [holds, Predicate.forall_columns_leaf.mp h]
    rfl
  | and left right ihl ihr =>
    obtain ⟨hleft, hright⟩ := (Predicate.forall_columns_append rfl).mp h
    rw [holds, ihl hleft, ihr hright]
    rfl
  | or left right ihl ihr =>
    obtain ⟨hleft, hright⟩ := (Predicate.forall_columns_append rfl).mp h
    rw [holds, ihl hleft, ihr hright]
    rfl

/-- A condition that may be absent. -/
lemma meets_eq (h : ∀ name ∈ Predicate.namedColumns condition, look.Finds row (.text name)) :
    look.meets condition row = some (Table.meets condition row) := by
  cases condition with
  | none => rfl
  | some p => exact holds_eq h

/-- The rows that meet a condition, or those that do not. -/
lemma filter_eq (met : Bool) (h : ∀ row ∈ rows, ∀ name ∈ Predicate.namedColumns condition,
    look.Finds row (.text name)) :
    look.filter met condition rows =
      some (rows.filter fun row => Table.meets condition row == met) := by
  induction rows with
  | nil => rfl
  | cons row rows ih =>
    rw [filter, meets_eq (h row (by simp)), ih fun r hr => h r (by simp [hr]), List.filter_cons]
    rfl

/-- The values of a row. -/
lemma values_eq (h : ∀ label ∈ labels, look.Finds row label) :
    look.values labels row = some (signature labels row) := mapM_eq_some_map h

/-- The rows in the order of a column. -/
lemma sort_eq {column : String} (h : ∀ row ∈ rows, look.Finds row (.text column))
    (descending : Bool) : look.sort rows column descending =
      some (sortRows rows column descending) := by
  have hcells : (rows.mapM fun row => (look row (.text column)).map (row, ·)) =
      some (rows.map fun row => (row, row.get (.text column))) :=
    mapM_eq_some_map fun row hrow => by rw [h row hrow]; rfl
  rw [sort, hcells]
  show some _ = some _
  rw [sortRows, List.map_append]
  congr 2
  · rw [List.filter_map]
    refine (List.map_mergeSort (s := rowLe column descending) fun a ha b hb => ?_).trans ?_
    · obtain ⟨row, -, rfl⟩ := List.mem_map.mp ha
      obtain ⟨row', -, rfl⟩ := List.mem_map.mp hb
      rfl
    · rw [List.map_map]
      exact congrArg (List.mergeSort · _) (List.map_id _)
  · rw [List.filter_map, List.map_map]
    exact List.map_id _

/-- The rows with the values of some columns only. -/
lemma project_eq (h : ∀ row ∈ rows, ∀ label ∈ labels, look.Finds row label) :
    look.project labels rows = some (projectRows labels rows) := by
  refine mapM_eq_some_map fun row hrow => ?_
  have hpairs : (labels.mapM fun label => (look row label).map (label, ·)) =
      some (labels.map fun label => (label, row.get label)) :=
    mapM_eq_some_map fun label hlabel => by rw [h row hrow label hlabel]; rfl
  rw [hpairs]
  rfl

/-- The first rows of their signatures. -/
lemma firsts_eq (h : ∀ row ∈ rows, ∀ label ∈ labels, look.Finds row label) :
    ∀ seen, look.firsts labels seen rows = some (distinctFrom labels seen rows) := by
  induction rows with
  | nil => exact fun _ => rfl
  | cons row rows ih =>
    intro seen
    have hrest := ih fun r hr => h r (by simp [hr])
    rw [firsts, values_eq (h row (by simp)), distinctFrom, Option.bind_eq_bind, Option.bind_some]
    split
    · exact hrest seen
    · rw [hrest]
      rfl

/-- The first row of each signature. -/
lemma distinct_eq (h : ∀ row ∈ rows, ∀ label ∈ labels, look.Finds row label) :
    look.distinct labels rows = some (distinctRows labels rows) := by
  have hsignatures : rows.mapM (look.values labels) = some (rows.map (signature labels)) :=
    mapM_eq_some_map fun row hrow => values_eq (h row hrow)
  rw [distinct, hsignatures, firsts_eq h, distinctRows, Option.bind_eq_bind, Option.bind_some,
    List.findSome?_map]
  show (match rows.findSome? fun row => (signature labels row).findSome? Value.unhashable? with
    | some kind => _
    | none => _) = _
  cases rows.findSome? fun row => (signature labels row).findSome? Value.unhashable? <;> rfl

/-- The line of a row. -/
lemma line_eq (h : ∀ label ∈ labels, look.Finds row label) :
    look.line labels row = some (rowLine labels row) := by
  rw [line, values_eq h, signature, rowLine, Option.map_some, List.map_map]
  rfl

/-- **The text of rows** that have the labels. -/
lemma list_eq (h : ∀ row ∈ rows, ∀ label ∈ labels, look.Finds row label) :
    look.list labels rows = some (listing labels rows) := by
  have hlines : rows.mapM (look.line labels) = some (rows.map (rowLine labels)) :=
    mapM_eq_some_map fun row hrow => line_eq (h row hrow)
  rw [list, listing, hlines]
  split
  · rfl
  · cases labels.mapM labelText <;> rfl

end Found

/-! ## Steps that fail -/

section Missing

variable {p : Predicate} {condition : Option Predicate} {row : Row} {rows : List Row}
  {labels : List Value}

/-- **Without the fallback** a condition is evaluated exactly if the row has all of its columns. -/
theorem strict_holds_isSome : (strict.holds p row).isSome = true ↔
    ∀ name ∈ p.columns, (row.find? (.text name)).isSome = true := by
  induction p with
  | leaf column test => rw [holds, Option.isSome_map, Predicate.forall_columns_leaf]; rfl
  | and left right ihl ihr =>
    rw [Predicate.forall_columns_append rfl, ← ihl, ← ihr, holds]
    cases strict.holds left row <;> cases strict.holds right row <;> simp
  | or left right ihl ihr =>
    rw [Predicate.forall_columns_append rfl, ← ihl, ← ihr, holds]
    cases strict.holds left row <;> cases strict.holds right row <;> simp

/-- A condition that may be absent. -/
lemma strict_meets_isSome : (strict.meets condition row).isSome = true ↔
    ∀ name ∈ Predicate.namedColumns condition, (row.find? (.text name)).isSome = true := by
  cases condition with
  | none => exact iff_of_true rfl (by simp [Predicate.namedColumns])
  | some p => exact strict_holds_isSome

/-- The rows that meet a condition, or those that do not. -/
lemma strict_filter_isSome {met : Bool} : (strict.filter met condition rows).isSome = true ↔
    ∀ row ∈ rows, ∀ name ∈ Predicate.namedColumns condition,
      (row.find? (.text name)).isSome = true := by
  induction rows with
  | nil => exact iff_of_true rfl (by simp)
  | cons row rows ih =>
    rw [List.forall_mem_cons, ← ih, ← strict_meets_isSome, filter]
    cases strict.meets condition row <;> cases strict.filter met condition rows <;> simp

/-- The values of a row. -/
lemma strict_values_isSome : (strict.values labels row).isSome = true ↔
    ∀ label ∈ labels, (row.find? label).isSome = true := isSome_mapM

/-- The values of several rows. -/
lemma strict_signatures_isSome : (rows.mapM (strict.values labels)).isSome = true ↔
    ∀ row ∈ rows, ∀ label ∈ labels, (row.find? label).isSome = true := by
  simp only [isSome_mapM, strict_values_isSome]

/-- The rows in the order of a column. -/
lemma strict_sort_isSome {column : String} {descending : Bool} :
    (strict.sort rows column descending).isSome = true ↔
      ∀ row ∈ rows, (row.find? (.text column)).isSome = true := by
  have hcells : (rows.mapM fun row => (strict row (.text column)).map (row, ·)).isSome = true ↔
      ∀ row ∈ rows, (row.find? (.text column)).isSome = true := by
    simp only [isSome_mapM, Option.isSome_map]
    rfl
  rw [sort, ← hcells]
  cases rows.mapM fun row => (strict row (.text column)).map (row, ·) <;> rfl

/-- The rows with the values of some columns only. -/
lemma strict_project_isSome : (strict.project labels rows).isSome = true ↔
    ∀ row ∈ rows, ∀ label ∈ labels, (row.find? label).isSome = true := by
  simp only [project, isSome_mapM, Option.isSome_map]
  rfl

/-- The first row of each signature. -/
lemma strict_distinct_isSome : (strict.distinct labels rows).isSome = true ↔
    ∀ row ∈ rows, ∀ label ∈ labels, (row.find? label).isSome = true := by
  constructor
  · intro h
    rw [← strict_signatures_isSome]
    rw [distinct] at h
    cases hsignatures : rows.mapM (strict.values labels) with
    | none => simp [hsignatures] at h
    | some signatures => rfl
  · intro h
    rw [distinct_eq fun row hrow label hlabel => strict_finds.mpr (h row hrow label hlabel)]
    rfl

/-- **The text of rows under texts** is made exactly if the rows have all of these labels. -/
lemma strict_list_isSome (hlabels : ∀ label ∈ labels, ∃ name, label = .text name) :
    (strict.list labels rows).isSome = true ↔
      ∀ row ∈ rows, ∀ label ∈ labels, (row.find? label).isSome = true := by
  constructor
  · intro h
    cases rows with
    | nil => exact fun _ hrow => absurd hrow List.not_mem_nil
    | cons row rows =>
      cases htexts : labels.mapM labelText with
      | error f =>
        obtain ⟨label, ⟨names, rest, rfl, hlabel⟩, -⟩ := (labelTexts_eq_error labels).mp htexts
        obtain ⟨name, rfl⟩ := hlabels label (by simp)
        exact absurd rfl (hlabel name)
      | ok texts =>
        have hlines : ((row :: rows).mapM (strict.line labels)).isSome = true := by
          rw [list, if_neg (by simp), htexts] at h
          cases hlines : (row :: rows).mapM (strict.line labels) with
          | none => simp [hlines] at h
          | some lines => rfl
        simpa only [isSome_mapM, line, Option.isSome_map, strict_values_isSome] using hlines
  · intro h
    rw [list_eq fun row hrow label hlabel => strict_finds.mpr (h row hrow label hlabel)]
    rfl

end Missing

end LookUp

/-! ## The labels that operators look up -/

/-- The labels that an operator looks up in the rows of a selection. -/
def Operator.needs (op : Operator) (s : Selection) : List Value :=
  match op with
  | filter => (Predicate.namedColumns s.select.condition).map .text
  | order => s.select.orderBy.toList.map fun o => .text o.column
  | project | distinct => s.labels
  | limit => []

/-- The first rows of their signatures are among the rows. -/
lemma mem_of_mem_distinctFrom {labels : List Value} {rows : List Row} {row : Row} :
    ∀ {seen}, row ∈ distinctFrom labels seen rows → row ∈ rows := by
  induction rows with
  | nil => exact fun h => h
  | cons first rows ih =>
    intro seen h
    rw [distinctFrom] at h
    split at h
    · exact List.mem_cons_of_mem _ (ih h)
    · rcases List.mem_cons.mp h with rfl | h
      · exact List.mem_cons_self
      · exact List.mem_cons_of_mem _ (ih h)

/-- The rows of a page are among the rows. -/
lemma mem_of_mem_pageRows {offset limit : Option ℕ} {rows : List Row} {row : Row}
    (h : row ∈ pageRows offset limit rows) : row ∈ rows := by
  unfold pageRows at h
  cases limit with
  | none => exact List.mem_of_mem_drop h
  | some n => exact List.mem_of_mem_drop (List.mem_of_mem_take h)

/-- The rows after an operator that does not project are rows from before. -/
lemma Operator.mem_of_rowsOf {op : Operator} {s : Selection} {rows : List Row}
    (hop : op ≠ project) (h : op.rowsOf s = .ok rows) {row : Row} (hrow : row ∈ rows) :
    row ∈ s.rows := by
  cases op with
  | filter =>
    obtain rfl := Except.ok.inj h
    exact List.mem_of_mem_filter hrow
  | order =>
    rw [rowsOf] at h
    cases horder : s.select.orderBy with
    | none =>
      rw [horder] at h
      exact Except.ok.inj h ▸ hrow
    | some o =>
      rw [horder] at h
      obtain rfl := Except.ok.inj h
      exact mem_sortRows hrow
  | project => exact absurd rfl hop
  | distinct =>
    rw [rowsOf, distinctRows] at h
    split at h
    · cases h
    · obtain rfl := Except.ok.inj h
      exact mem_of_mem_distinctFrom hrow
  | limit =>
    obtain rfl := Except.ok.inj h
    exact mem_of_mem_pageRows hrow

namespace LookUp

variable {look : LookUp} {op : Operator} {ops : List Operator} {s after : Selection}

/-- An operator whose labels are found. -/
lemma apply_eq (h : ∀ row ∈ s.rows, ∀ label ∈ op.needs s, look.Finds row label) :
    look.apply op s = some (op.apply s) := by
  have hrows : look.rowsOf op s = some (op.rowsOf s) := by
    cases op with
    | filter =>
      rw [rowsOf, filter_eq true fun row hrow name hname =>
        h row hrow _ (List.mem_map_of_mem hname)]
      simp only [beq_true]
      rfl
    | order =>
      rw [rowsOf, Operator.rowsOf]
      cases horder : s.select.orderBy with
      | none => rfl
      | some o =>
        dsimp only
        rw [sort_eq fun row hrow => h row hrow _ (by simp [Operator.needs, horder])]
        rfl
    | project => exact congrArg (Option.map Except.ok) (project_eq h)
    | distinct => exact distinct_eq h
    | limit => rfl
  rw [apply, hrows]
  rfl

/-- **Without the fallback** an operator is applied exactly if all rows have the labels that it
looks up. -/
theorem strict_apply_isSome : (strict.apply op s).isSome = true ↔
    ∀ row ∈ s.rows, ∀ label ∈ op.needs s, (row.find? label).isSome = true := by
  rw [apply, Option.isSome_map]
  cases op with
  | filter =>
    rw [rowsOf, Option.isSome_map, strict_filter_isSome]
    simp only [Operator.needs, List.forall_mem_map]
  | order =>
    rw [rowsOf, Operator.needs]
    cases s.select.orderBy with
    | none => exact iff_of_true rfl (by simp)
    | some o =>
      dsimp only
      rw [Option.isSome_map, strict_sort_isSome]
      simp
  | project => rw [rowsOf, Option.isSome_map, strict_project_isSome, Operator.needs]
  | distinct => rw [rowsOf, strict_distinct_isSome, Operator.needs]
  | limit => exact iff_of_true rfl (by simp [Operator.needs])

/-- A look-up finds, in all rows of a selection, the columns to show and the labels that several
operators look up. -/
structure Supplies (look : LookUp) (ops : List Operator) (s : Selection) : Prop where
  operators : ∀ op ∈ ops, ∀ row ∈ s.rows, ∀ label ∈ op.needs s, look.Finds row label
  listing : ∀ row ∈ s.rows, ∀ label ∈ s.labels, look.Finds row label

/-- Steps of which each leaves what the later ones look up are those of the selection.

**Proof sketch.** Induction on the operators. The first of them finds its labels, so it is the
operator itself; the invariant passes to the selection that it leaves. -/
lemma finish_eq {P : List Operator → Selection → Prop}
    (hsupplies : ∀ {ops s}, P ops s → look.Supplies ops s)
    (hstep : ∀ {op ops s after}, P (op :: ops) s → op.apply s = .ok after → P ops after)
    (ops : List Operator) : ∀ s, P ops s → look.finish ops s = some (s.finish ops) := by
  induction ops with
  | nil =>
    intro s h
    rw [finish, Selection.finish, list_eq (hsupplies h).listing]
    show (match StagedQuery.listing s.labels s.rows with
      | .ok text => _
      | .error f => _) = _
    cases StagedQuery.listing s.labels s.rows <;> rfl
  | cons op ops ih =>
    intro s h
    rw [finish, Selection.finish, apply_eq ((hsupplies h).operators op (by simp))]
    show (match op.apply s with
      | .ok after => _
      | .error f => _) = _
    cases happly : op.apply s with
    | error f => rfl
    | ok after =>
      dsimp only
      rw [ih after (hstep h happly)]
      rfl

/-- **With the fallback**, the steps are those of the selection. -/
theorem finish_lenient (ops : List Operator) (s : Selection) :
    lenient.finish ops s = some (s.finish ops) :=
  finish_eq (P := fun _ _ => True)
    (fun _ => ⟨fun _ _ row _ label _ => lenient_finds row label,
      fun row _ label _ => lenient_finds row label⟩)
    (fun _ _ => trivial) ops s trivial

/-- **An operator leaves what the later ones look up.** The rows after a projection have nothing but
the columns to show, but then only these are still looked up. -/
lemma Supplies.step (h : strict.Supplies (op :: ops) s)
    (hops : ∀ later ∈ ops, op.phase.rank < later.phase.rank)
    (hkeys : ∀ label ∈ s.labels, label.unhashable? = none) (happly : op.apply s = .ok after) :
    strict.Supplies ops after := by
  obtain ⟨rows, hrows, rfl⟩ := Operator.apply_eq_ok happly
  by_cases hop : op = .project
  · subst hop
    obtain rfl := Except.ok.inj hrows
    have hshown : ∀ row ∈ projectRows s.labels s.rows, ∀ label ∈ s.labels,
        strict.Finds row label := by
      intro row hrow label hlabel
      obtain ⟨old, -, rfl⟩ := List.mem_map.mp hrow
      refine strict_finds.mpr (Row.find?_ofPairs_isSome ?_ (hkeys label hlabel))
      rwa [List.map_map, show (Prod.fst ∘ fun label => (label, old.get label)) = id from rfl,
        List.map_id]
    refine ⟨fun later hlater row hrow label hlabel => ?_, hshown⟩
    have hrank := hops later hlater
    cases later with
    | filter | order | project => exact absurd hrank (by decide)
    | distinct => exact hshown row hrow label hlabel
    | limit => cases hlabel
  · have hold : ∀ row ∈ rows, row ∈ s.rows := fun _ => Operator.mem_of_rowsOf hop hrows
    refine ⟨fun later hlater row hrow label hlabel => ?_,
      fun row hrow label hlabel => h.listing row (hold row hrow) label hlabel⟩
    refine h.operators later (List.mem_cons_of_mem _ hlater) row (hold row hrow) label ?_
    cases later <;> exact hlabel

/-- **Without the fallback** the steps are the same, if the rows have the columns to show and those
of the operators at the start. -/
theorem finish_strict (hops : ops.Pairwise fun a b => a.phase.rank < b.phase.rank)
    (hkeys : ∀ label ∈ s.labels, label.unhashable? = none) (h : strict.Supplies ops s) :
    strict.finish ops s = some (s.finish ops) := by
  refine finish_eq (P := fun ops s => (ops.Pairwise fun a b => a.phase.rank < b.phase.rank) ∧
    (∀ label ∈ s.labels, label.unhashable? = none) ∧ strict.Supplies ops s)
    (fun h => h.2.2) (fun {op ops s after} h happly => ?_) ops s ⟨hops, hkeys, h⟩
  obtain ⟨hpairs, hkeys, hsupplies⟩ := h
  obtain ⟨hlater, hpairs⟩ := List.pairwise_cons.mp hpairs
  refine ⟨hpairs, ?_, hsupplies.step hlater hkeys happly⟩
  obtain ⟨rows, -, rfl⟩ := Operator.apply_eq_ok happly
  exact hkeys

/-! ## Statements that pass their checks -/

/-- In a well-formed row, every column of its schema is found. -/
lemma finds_of_has {schema : Schema} {row : Row} (hrow : row.WellFormed schema) {label : Value}
    (h : schema.has label = true) : strict.Finds row label := by
  obtain ⟨known, hknown, hsame⟩ := Schema.exists_label_of_has h
  rw [← hrow.labels] at hknown
  obtain ⟨entry, hentry, rfl⟩ := List.mem_map.mp hknown
  rw [strict_finds, Row.find?, Option.isSome_map]
  exact List.find?_isSome.mpr ⟨entry, hentry, hsame⟩

/-- **A `SELECT` that passes its checks** on a well-formed store is answered without the fallback.

**Proof sketch.** The rows of the table have all columns of its schema. The columns to show, those
of the condition and the column of the order are such columns, so the scan finds whatever the
operators look up. -/
theorem finish_scan {s : Select} {store : Store} (hstore : store.WellFormed) {first : Selection}
    (h : s.scan store = .ok first) :
    strict.finish (Operator.all.filter (·.asked s)) first =
      some (first.finish (Operator.all.filter (·.asked s))) := by
  obtain ⟨t, ht, hcheck, rfl⟩ := Select.scan_eq_ok h
  obtain ⟨hcolumns, hnamed, horder⟩ := Select.check_eq_ok hcheck
  have htable := hstore.find? ht
  have hlabels : ∀ label ∈ s.labels t.schema, t.schema.has label = true := by
    intro label hlabel
    rw [Select.labels] at hlabel
    split at hlabel
    · exact Schema.require_eq_ok.mp htable.schema.require_labels label hlabel
    · exact hcolumns label hlabel
  refine finish_strict (Operator.pairwise_all.filter _) (fun label hlabel => ?_)
    ⟨fun op _ row hrow label hlabel => ?_,
      fun row hrow label hlabel => finds_of_has (htable.rows row hrow) (hlabels label hlabel)⟩
  · obtain ⟨name, rfl⟩ := Select.text_of_mem_labels htable.schema label hlabel
    rfl
  · refine finds_of_has (htable.rows row hrow) ?_
    cases op with
    | filter =>
      obtain ⟨name, hname, rfl⟩ := List.mem_map.mp hlabel
      exact hnamed name hname
    | order =>
      obtain ⟨o, ho, rfl⟩ := List.mem_map.mp hlabel
      exact horder o (Option.mem_toList.mp ho)
    | project | distinct => exact hlabels label hlabel
    | limit => cases hlabel

end LookUp

end StagedQuery
