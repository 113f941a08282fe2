import StagedQuery.Proofs.Database.Atomic
import StagedQuery.Proofs.Database.Faults

set_option relaxedAutoImplicit false
set_option autoImplicit false

/-!
# What an aborted execution leaves

Executing a text is aborted by a fault or by the budget. A fault comes before any change. The budget
may run out before the statement of the text is performed, which changes nothing, or behind it: with
a budget of two jobs, the text is read, its statement is performed as a whole, and there is no job
left for the message.

## Main definitions

* `Payload.message?` — the message of an outcome that is a success.
* `Database.withBudget` — the database with another budget.
* `Database.CutOff` — the budget of a database ends between a statement and its message.

## Main results

* `Database.execute_cutOff` — such a statement has been performed when its execution overruns.
* `Database.session_of_abort` — any other execution that is aborted leaves the session.
* `Database.execute_aborted` — both, and what a larger budget makes of the same text.
-/

namespace StagedQuery

/-- Performing a `SELECT` leaves the session. -/
lemma Statement.session_perform_select {env : Surroundings} {session : Session} {s : Statement}
    (h : s.kind = .select) : (s.perform env session).session = session := by
  cases s with
  | select s => rfl
  | _ => cases h

/-- The message of a payload, if it is the outcome of a success. -/
def Payload.message? : Payload → Option String
  | .outcome o => if o.isError then none else some o.text
  | _ => none

/-- A payload with a message is the outcome of a success. -/
lemma Payload.eq_of_message? {p : Payload} {message : String} (h : p.message? = some message) :
    p = .outcome (.ok message) := by
  cases p with
  | outcome o =>
    obtain ⟨shown, isError⟩ := o
    cases isError with
    | false => exact congrArg (fun s => Payload.outcome (.ok s)) (Option.some.inj h)
    | true => cases h
  | text | statement | selection | value => cases h

/-- A statement other than a `SELECT` that is performed without an error comes to a message. -/
lemma Statement.message_of_perform {env : Surroundings} {session : Session} {s : Statement}
    (hkind : s.kind ≠ .select) {q : Payload} (h : (s.perform env session).result = .ok q) :
    ∃ message, q = .outcome (.ok message) := by
  obtain ⟨⟨text, isError⟩, rfl⟩ := Payload.outcome_of_perform hkind h
  obtain rfl : isError = false := (Statement.perform_outcome h).1
  exact ⟨text, rfl⟩

namespace Database

/-- The database with another budget. -/
def withBudget (db : Database) (budget : ℤ) : Database :=
  { db with settings := { db.settings with budget } }

/-- **The budget of a database ends between a statement and its message**: two jobs are allowed,
which read the text and perform its statement, and the statement comes to a message. -/
structure CutOff (db : Database) (now sql : String) (s : Statement) (message : String) : Prop where
  budget : db.settings.budget = 2
  statement : Statement.ofText? (strip sql) = some s
  performed :
    (s.perform (db.surroundings now) db.session).result = .ok (.outcome (.ok message))

variable {db : Database} {now sql : String} {s : Statement} {message : String}

/-- **A statement that is cut off** has been performed, and its message is lost. -/
lemma execute_cutOff (h : db.CutOff now sql s message) :
    (db.execute now sql).1 = .error (.overrun 2) ∧
      (db.execute now sql).2.session = (s.perform (db.surroundings now) db.session).session := by
  obtain ⟨kind, -, hread⟩ := Option.bind_eq_some_iff.mp h.statement
  have hfollow : (s.perform (db.surroundings now) db.session).follower =
      .ok (.outcome (.ok message)) := by rw [Advance.follower, h.performed]
  -- The passage takes three jobs: the text is read, the statement performed, the outcome captured.
  have c := Passage.text_of_statement (toOption_eq_some.mp hread)
    (.pass (Payload.advance?_statement _ _ s) hfollow (.capture (.ok message) _))
  have hshort : (db.pipeline now).budget < 3 := by
    rw [show (db.pipeline now).budget = 2 from h.budget]
    omega
  have hrun := Pipeline.run_short (w := ⟨[], db.session, db.nextRun⟩) (db.stages_pipeline now) c rfl
    hshort
  constructor
  · rw [db.execute_of_ending now sql hrun, textOf, ← h.budget]
    rfl
  · rw [session_execute_eq, performs?, if_pos h.budget.ge, h.statement]

/-- **A statement that is cut off** gives its message under any larger budget, and leaves the
session that it leaves when it is cut off. -/
lemma execute_withBudget (h : db.CutOff now sql s message) {budget : ℤ} (hb : 3 ≤ budget) :
    ((db.withBudget budget).execute now sql).1 = .ok message ∧
      ((db.withBudget budget).execute now sql).2.session = (db.execute now sql).2.session := by
  obtain ⟨kind, -, hread⟩ := Option.bind_eq_some_iff.mp h.statement
  have hfollow : (s.perform ((db.withBudget budget).surroundings now)
      (db.withBudget budget).session).follower = .ok (.outcome (.ok message)) := by
    show (s.perform (db.surroundings now) db.session).follower = _
    rw [Advance.follower, h.performed]
  rw [execute_of_follower (toOption_eq_some.mp hread) hb hfollow, (execute_cutOff h).2]
  exact ⟨rfl, rfl⟩

/-- **An execution that is aborted** leaves the session, unless the budget ends between a statement
and its message. -/
lemma session_of_abort {abort : Abort} (h : (db.execute now sql).1 = .error abort) :
    (db.execute now sql).2.session = db.session ∨ ∃ s message, db.CutOff now sql s message := by
  rw [session_execute_eq]
  cases hs : db.performs? sql with
  | none => exact .inl rfl
  | some s =>
    dsimp only
    by_cases hkind : s.kind = .select
    · exact .inl (Statement.session_perform_select hkind)
    rcases hresult : (s.perform (db.surroundings now) db.session).result with e | q
    · exact .inl (Statement.perform_error hresult)
    · obtain ⟨message, rfl⟩ := Statement.message_of_perform hkind hresult
      obtain ⟨kind, hread⟩ := read_of_performs hs
      have hfollow : (s.perform (db.surroundings now) db.session).follower =
          .ok (.outcome (.ok message)) := by rw [Advance.follower, hresult]
      rw [performs?] at hs
      split at hs
      · rename_i htwo
        -- A third job would have captured the message, so there were only two.
        have hnotThree : ¬ 3 ≤ db.settings.budget := fun hthree => by
          rw [execute_of_follower hread hthree hfollow] at h
          cases h
        exact .inr ⟨s, message, by omega, hs, hresult⟩
      · cases hs

/-- **What an aborted execution leaves**, on any database and for any text. If a fault or the budget
aborts it, the store and the disk are as before, with one exception: the budget is two, and the
statement that was performed comes to a message. Then the execution is always aborted by the budget,
and it leaves the change of the statement as a whole: the one that the same text makes, and reports
with its message, under any larger budget. -/
theorem execute_aborted (db : Database) (now sql : String) :
    (∀ abort, (db.execute now sql).1 = .error abort →
      ((db.execute now sql).2.store = db.store ∧ (db.execute now sql).2.disk = db.disk) ∨
        ∃ s message, db.CutOff now sql s message) ∧
    ∀ s message, db.CutOff now sql s message →
      (db.execute now sql).1 = .error (.overrun 2) ∧
      (db.execute now sql).2.session = (s.perform (db.surroundings now) db.session).session ∧
      ∀ budget : ℤ, 3 ≤ budget →
        ((db.withBudget budget).execute now sql).1 = .ok message ∧
        ((db.withBudget budget).execute now sql).2.session =
          (db.execute now sql).2.session := by
  refine ⟨fun abort h => ?_, fun s message h => ?_⟩
  · rcases session_of_abort h with hsession | hcut
    · exact .inl ⟨congrArg Session.store hsession, congrArg Session.disk hsession⟩
    · exact .inr hcut
  · obtain ⟨hexecute, hsession⟩ := execute_cutOff h
    exact ⟨hexecute, hsession, fun _ hb => execute_withBudget h hb⟩

/-- The empty database with a budget on an empty disk. -/
def emptyWith (budget : ℤ) : Database := (empty ⟨[], []⟩ .standard).withBudget budget

/-- On the empty database, one job is too few to create a table, and two jobs create it without its
message, which a third one brings. -/
theorem execute_aborted_create :
    (∃ limit, ((emptyWith 1).execute "" "CREATE TABLE t (a)").1 = .error (.overrun limit)) ∧
    ((emptyWith 1).execute "" "CREATE TABLE t (a)").2.store = (emptyWith 1).store ∧
    ∃ s, (emptyWith 2).CutOff "" "CREATE TABLE t (a)" s "Table 't' created" ∧
      (((emptyWith 2).withBudget 3).execute "" "CREATE TABLE t (a)").1 =
        .ok "Table 't' created" ∧
      (((emptyWith 2).withBudget 3).execute "" "CREATE TABLE t (a)").2.session =
        ((emptyWith 2).execute "" "CREATE TABLE t (a)").2.session := by
  have hone : ∃ limit, ((emptyWith 1).execute "" "CREATE TABLE t (a)").1 =
      .error (.overrun limit) := by
    have hoverrun : (match ((emptyWith 1).execute "" "CREATE TABLE t (a)").1 with
        | .error (.overrun _) => true
        | _ => false) = true := by decide +kernel
    split at hoverrun
    · rename_i limit hlimit
      exact ⟨limit, hlimit⟩
    · cases hoverrun
  have hcut : ∃ s, (emptyWith 2).CutOff "" "CREATE TABLE t (a)" s "Table 't' created" := by
    have hmessage : (Statement.ofText? (strip "CREATE TABLE t (a)")).bind (fun s =>
        (s.perform ((emptyWith 2).surroundings "") (emptyWith 2).session).result.toOption.bind
          Payload.message?) = some "Table 't' created" := by decide +kernel
    obtain ⟨s, hs, hperformed⟩ := Option.bind_eq_some_iff.mp hmessage
    obtain ⟨q, hresult, hq⟩ := Option.bind_eq_some_iff.mp hperformed
    obtain rfl := Payload.eq_of_message? hq
    exact ⟨s, rfl, hs, toOption_eq_some.mp hresult⟩
  obtain ⟨limit, hlimit⟩ := hone
  obtain ⟨s, hs⟩ := hcut
  refine ⟨⟨limit, hlimit⟩, ?_, s, hs, ?_⟩
  · rcases (execute_aborted (emptyWith 1) "" "CREATE TABLE t (a)").1 _ hlimit with
      ⟨hstore, -⟩ | ⟨s, message, hcut⟩
    · exact hstore
    · cases hcut.budget
  · exact ((execute_aborted (emptyWith 2) "" "CREATE TABLE t (a)").2 s _ hs).2.2 3 le_rfl

/-- With two jobs, a table is created on the empty database, and the execution is aborted. -/
theorem execute_overrun_create :
    Reachable ⟨[], []⟩ { Settings.standard with budget := 2 } (emptyWith 2) [] ∧
    ((emptyWith 2).execute "" "CREATE TABLE t (a)").1 = .error (.overrun 2) ∧
    ((emptyWith 2).execute "" "CREATE TABLE t (a)").2.store ≠ (emptyWith 2).store := by
  have hoverrun : (match ((emptyWith 2).execute "" "CREATE TABLE t (a)").1 with
      | .error (.overrun limit) => limit == 2
      | _ => false) = true := by decide +kernel
  have htables :
      ((emptyWith 2).execute "" "CREATE TABLE t (a)").2.store.tables.length = 1 := by
    decide +kernel
  refine ⟨.empty, ?_, fun hstore => ?_⟩
  · split at hoverrun
    · rename_i limit hlimit
      rw [hlimit, eq_of_beq hoverrun]
    · cases hoverrun
  · rw [hstore] at htables
    cases htables

end Database

end StagedQuery
