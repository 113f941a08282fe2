import StagedQuery.Database
import StagedQuery.Proofs.Query.Operators
import StagedQuery.Proofs.Sql.Routing

set_option relaxedAutoImplicit false
set_option autoImplicit false

/-!
# One statement on a database

What one statement does to a database, whatever its text and whatever the budget. Only the execution
of a statement changes the session: reading comes before it, and what comes after it works on a
selection or an outcome alone.

## Main definitions

* `Statement.ofText?` — the statement that a text is read as.
* `Payload.isSettled` — whether a payload can no longer change the session.
* `Database.surroundings` — the folder and the time that a statement sees.

## Main results

* `Payload.exists_passage` — every payload that some stage takes has a passage of at most nine
  stages.
* `Database.session_execute` — the session after any text, for every budget.
* `Database.execute_eq_of_passage`, `Database.execute_of_follower` — what a text gives and leaves,
  by its passage, and by what follows the execution of its statement.
* `Database.run_report` — a run that ends with a report has rejected its text or followed a passage.
-/

namespace StagedQuery

/-- The statement that a text is read as: its first words name a kind, and the text fits the grammar
of that kind. -/
def Statement.ofText? (text : String) : Option Statement :=
  (StatementKind.opening? text).bind fun kind => (readStatement kind text).toOption

/-- A text that can be read as a statement is performed as that statement. -/
lemma Statement.ofText?_of_read {kind : StatementKind} {text : String} {s : Statement}
    (h : readStatement kind text = .ok s) : Statement.ofText? text = some s := by
  rw [ofText?, opening?_of_readStatement h, Option.bind_some, h]
  rfl

/-- The passage of a text begins by reading its statement, and goes on with the statement. -/
lemma Passage.text_of_statement {env : Surroundings} {session after : Session}
    {kind : StatementKind} {text : String} {s : Statement} {names : List String}
    {r : Except Fault Outcome} (hread : readStatement kind text = .ok s)
    (c : Passage env (.statement s) session names after r) :
    Passage env (.text text) session ((readingStage kind).name :: names) after r := by
  have hadv : (Payload.text text).advance? env session =
      some ((readingStage kind).name, ⟨session, .ok (.statement s)⟩) := by
    rw [Payload.advance?, opening?_of_readStatement hread, Option.map_some, hread]
    rfl
  exact .pass hadv rfl c

/-! ## Settled payloads -/

namespace Payload

/-- Whether a payload can no longer change the session. -/
def isSettled : Payload → Bool
  | .selection _ => true
  | .outcome _ => true
  | _ => false

variable {env : Surroundings} {session : Session}

/-- A stage that takes a settled payload leaves the session, and another settled payload. -/
lemma advance_settled {p : Payload} (hp : p.isSettled = true) {name : String} {a : Advance}
    (h : p.advance? env session = some (name, a)) :
    a.session = session ∧ ∀ q, a.follower = .ok q → q.isSettled = true := by
  cases p with
  | text s => simp [isSettled] at hp
  | statement s => simp [isSettled] at hp
  | value v => simp [isSettled] at hp
  | outcome o => simp [advance?] at h
  | selection s =>
    rw [advance?] at h
    cases hnext : Operator.next? s with
    | none =>
      simp only [hnext, Option.some.injEq, Prod.mk.injEq] at h
      obtain ⟨-, rfl⟩ := h
      refine ⟨rfl, fun q hq => ?_⟩
      cases hlist : listing s.labels s.rows <;>
        simp only [hlist, Advance.follower, Except.mapError, Except.map, Except.ok.injEq,
          reduceCtorEq] at hq
      rw [← hq]
      rfl
    | some op =>
      simp only [hnext, Option.some.injEq, Prod.mk.injEq] at h
      obtain ⟨-, rfl⟩ := h
      refine ⟨rfl, fun q hq => ?_⟩
      cases happ : op.apply s <;>
        simp only [happ, Advance.follower, Except.mapError, Except.map, Except.ok.injEq,
          reduceCtorEq] at hq
      rw [← hq]
      rfl

/-- A change of the whole session is followed by what it gives, or by the outcome of its error. -/
lemma settled_ofChange (change : Except Failure (Session × Payload))
    (h : ∀ after q, change = .ok (after, q) → q.isSettled = true) (q : Payload)
    (hq : (Advance.ofChange session change).follower = .ok q) : q.isSettled = true := by
  rcases change with (e | f) | ⟨after, p⟩
  · rw [← Except.ok.inj hq]
    rfl
  · simp [Advance.ofChange, Advance.follower] at hq
  · rw [← Except.ok.inj hq]
    exact h after p rfl

/-- The effect of a statement on the store is followed by an outcome. -/
lemma settled_effect (e : Effect) (q : Payload)
    (hq : (e.advance session).follower = .ok q) : q.isSettled = true := by
  rcases e with ⟨store, (e | f) | message⟩
  · rw [← Except.ok.inj hq]
    rfl
  · simp [Effect.advance, Advance.follower, Except.map] at hq
  · rw [← Except.ok.inj hq]
    rfl

/-- What follows the execution of a statement is settled. -/
lemma settled_perform (s : Statement) (q : Payload)
    (hq : (s.perform env session).follower = .ok q) : q.isSettled = true := by
  cases s with
  | createTable s => exact settled_effect _ q hq
  | dropTable s => exact settled_effect _ q hq
  | insert s => exact settled_effect _ q hq
  | update s => exact settled_effect _ q hq
  | delete s => exact settled_effect _ q hq
  | save path =>
    refine settled_ofChange _ (fun after q h => ?_) q hq
    simp only [bind, Except.bind, pure, Except.pure] at h
    split at h
    · exact absurd h (by simp)
    · split at h
      · exact absurd h (by simp)
      · rw [← (Prod.mk.inj (Except.ok.inj h)).2]
        rfl
  | load path =>
    refine settled_ofChange _ (fun after q h => ?_) q hq
    simp only [bind, Except.bind, pure, Except.pure] at h
    split at h
    · exact absurd h (by simp)
    · split at h
      · exact absurd h (by simp)
      · rw [← (Prod.mk.inj (Except.ok.inj h)).2]
        rfl
  | select s =>
    rw [Statement.perform] at hq
    rcases hscan : s.scan session.store with (e | f) | selection
    · rw [hscan] at hq
      rw [← Except.ok.inj hq]
      rfl
    · rw [hscan] at hq
      simp [Advance.follower, Except.map] at hq
    · rw [hscan] at hq
      rw [← Except.ok.inj hq]
      rfl

/-! ## Every payload has a passage -/

/-- A settled payload has a passage, which is the same from every session and leaves it. -/
lemma exists_passage_settled {p : Payload} (hp : p.isSettled = true) :
    ∃ (names : List String) (r : Except Fault Outcome),
      (∀ env session, Passage env p session names session r) ∧ names.length ≤ 7 := by
  cases p with
  | text s => simp [isSettled] at hp
  | statement s => simp [isSettled] at hp
  | value v => simp [isSettled] at hp
  | outcome o => exact ⟨_, _, fun _ session => .capture o session, by simp⟩
  | selection s =>
    refine ⟨_, _, fun env session => Selection.passage_finish env session _ s rfl, ?_⟩
    have hle := Selection.length_finish (Operator.pending s) s
    have hpending : (Operator.pending s).length ≤ Operator.all.length := List.length_filter_le _ _
    simp only [Operator.all, List.length_cons, List.length_nil] at hpending
    omega

section Passages

variable (env : Surroundings) (session : Session)

/-- A statement goes on as its execution says. -/
lemma advance?_statement (s : Statement) : (Payload.statement s).advance? env session =
    some ((executionStage env s.kind).name, s.perform env session) := rfl

/-- A statement has a passage that leaves the session as its execution does. -/
lemma exists_passage_statement (s : Statement) :
    ∃ (names : List String) (r : Except Fault Outcome),
      Passage env (.statement s) session names (s.perform env session).session r ∧
        names.length ≤ 8 := by
  have hadv := advance?_statement env session s
  cases hfollow : (s.perform env session).follower with
  | error f => exact ⟨_, _, .crash hadv hfollow, by simp⟩
  | ok q =>
    obtain ⟨names, r, c, hlen⟩ := exists_passage_settled (settled_perform s q hfollow)
    exact ⟨_, r, .pass hadv hfollow (c _ _), by simp only [List.length_cons]; omega⟩

/-- The session after the execution of the statement that a text is read as, if it is one. -/
def sessionAfter (text : String) : Session :=
  match Statement.ofText? text with
  | some s => (s.perform env session).session
  | none => session

/-- **Every text that begins a statement** has a passage of at most nine stages. -/
lemma exists_passage {text : String} {kind : StatementKind}
    (h : StatementKind.opening? text = some kind) :
    ∃ (names : List String) (r : Except Fault Outcome),
      Passage env (.text text) session names (sessionAfter env session text) r ∧
        names.length ≤ 9 := by
  have hadv : (Payload.text text).advance? env session = some ((readingStage kind).name,
      ⟨session, ((readStatement kind text).mapError Failure.ofReadError).map .statement⟩) := by
    rw [advance?, h]
    rfl
  have htext : Statement.ofText? text = (readStatement kind text).toOption := by
    rw [Statement.ofText?, h]
    rfl
  rcases hread : readStatement kind text with (e | digits) | s
  · rw [hread] at hadv htext
    rw [sessionAfter, htext]
    exact ⟨_, _, .pass hadv rfl (.capture _ session), by simp⟩
  · rw [hread] at hadv htext
    rw [sessionAfter, htext]
    exact ⟨_, _, .crash hadv rfl, by simp⟩
  · rw [hread] at hadv htext
    rw [sessionAfter, htext]
    obtain ⟨names, r, c, hlen⟩ := exists_passage_statement env session s
    exact ⟨_, r, .pass hadv rfl c, by simp only [List.length_cons]; omega⟩

end Passages

end Payload

/-! ## The session after a run -/

namespace Pipeline

variable {p : Pipeline Session Fault} {env : Surroundings} (origin : String)

/-- Work on a settled payload leaves the session, whatever the budget.

**Proof sketch.** Induction on the budget. An outcome is captured, which ends the work; a selection
is replaced by another settled payload, or the run stops with a fault. -/
lemma drain_settled (hp : p.stages = standardStages env) (fuel : ℕ) :
    ∀ (job : Job) (s : Session) (captured : List Outcome) (rejected : List Job) (iterations : ℕ)
      (transforms : List (String × String)), job.payload.isSettled = true →
      (p.drain origin fuel ⟨[job], s, captured, rejected, iterations, transforms⟩).2.state = s := by
  induction fuel with
  | zero => exact fun _ _ _ _ _ _ _ => rfl
  | succ fuel ih =>
    intro job s captured rejected iterations transforms hjob
    rw [drain_cons_succ]
    cases hadv : job.payload.advance? env s with
    | none =>
      obtain ⟨o, ho⟩ : ∃ o, job.payload = .outcome o := by
        cases hpay : job.payload with
        | outcome o => exact ⟨o, rfl⟩
        | selection sel =>
          rw [hpay, Payload.advance?] at hadv
          split at hadv <;> simp at hadv
        | text s => simp [hpay, Payload.isSettled] at hjob
        | statement s => simp [hpay, Payload.isSettled] at hjob
        | value v => simp [hpay, Payload.isSettled] at hjob
      rw [step_capture origin job _ hp o ho]
      simp only [drain_nil]
    | some advance =>
      obtain ⟨name, a⟩ := advance
      obtain ⟨next, hnext, hstep⟩ := step_advance origin job
        ⟨[], s, captured, rejected, iterations + 1, transforms⟩ hp name a hadv
      obtain ⟨hsession, hfollow⟩ := Payload.advance_settled hjob hadv
      rw [hstep]
      cases hq : a.follower with
      | error f => simpa using hsession
      | ok q =>
        simp only [List.nil_append]
        rw [ih (next q) _ _ _ _ _ (by rw [hnext]; exact hfollow q hq), hsession]

/-- Work on a statement changes the session by its execution, if there is any budget. -/
lemma drain_statement (hp : p.stages = standardStages env) (fuel : ℕ) (job : Job) (s : Session)
    (captured : List Outcome) (rejected : List Job) (iterations : ℕ)
    (transforms : List (String × String)) (statement : Statement)
    (hjob : job.payload = .statement statement) :
    (p.drain origin (fuel + 1) ⟨[job], s, captured, rejected, iterations, transforms⟩).2.state =
      (statement.perform env s).session := by
  obtain ⟨next, hnext, hstep⟩ := step_advance origin job
    ⟨[], s, captured, rejected, iterations + 1, transforms⟩ hp
    (executionStage env statement.kind).name (statement.perform env s) (by rw [hjob]; rfl)
  rw [drain_cons_succ, hstep]
  cases hq : (statement.perform env s).follower with
  | error f => rfl
  | ok q =>
    simp only [List.nil_append]
    exact drain_settled origin hp fuel _ _ _ _ _ _ (by
      rw [hnext]
      exact Payload.settled_perform statement q hq)

/-- **The session after a run over one text**: its statement is executed if the budget allows two
jobs, and nothing else changes the session. -/
lemma state_run_text (hp : p.stages = standardStages env) {w : Worklist Session} (hw : w.queue = [])
    (text : String) :
    (p.run (w.submit (.text text))).2.state =
      if 2 ≤ p.budget then Payload.sessionAfter env w.state text else w.state := by
  cases hopen : StatementKind.opening? text with
  | none =>
    have hnone : Statement.ofText? text = none := by rw [Statement.ofText?, hopen]; rfl
    rw [Payload.sessionAfter, hnone]
    by_cases hb : 1 ≤ p.budget
    · obtain ⟨job, hrun⟩ := run_unread hp (.text text)
        (by rw [Payload.taker?, hopen]; rfl) hw hb
      rw [hrun, ite_self]
    · rw [run_zero _ hw (by omega), ite_self]
  | some kind =>
    have htext : Statement.ofText? text = (readStatement kind text).toOption := by
      rw [Statement.ofText?, hopen]
      rfl
    by_cases hb : 1 ≤ p.budget
    · obtain ⟨fuel, hfuel⟩ : ∃ n, p.budget.toNat = n + 1 := ⟨p.budget.toNat - 1, by omega⟩
      obtain ⟨next, hnext, hstep⟩ := step_advance w.origin
        (.new (.text text) w.origin) ⟨[], w.state, [], [], 0 + 1, []⟩ hp (readingStage kind).name
        ⟨w.state, ((readStatement kind text).mapError Failure.ofReadError).map .statement⟩
        (by rw [show (Job.new (.text text) w.origin).payload = .text text from rfl,
          Payload.advance?, hopen]; rfl)
      rw [run, start_submit hw, origin_submit, hfuel,
        drain_cons_succ, hstep, Payload.sessionAfter, htext]
      rcases hread : readStatement kind text with (e | digits) | s
      · simp only [Advance.follower, Except.mapError, Except.map, Failure.ofReadError,
          Except.toOption, List.nil_append, ite_self]
        exact drain_settled _ hp fuel _ _ _ _ _ _ (by rw [hnext]; rfl)
      · simp only [Advance.follower, Except.mapError, Except.map, Failure.ofReadError,
          Except.toOption, ite_self]
      · simp only [Advance.follower, Except.mapError, Except.map, Except.toOption,
          List.nil_append]
        rcases fuel with _ | fuel
        · rw [if_neg (by omega), drain_cons_zero]
        · rw [if_pos (by omega), drain_statement _ hp fuel (next (.statement s)) _ _ _ _ _ s
            (hnext _)]
    · rw [run_zero _ hw (by omega), if_neg (by omega)]

end Pipeline

namespace Database

/-- The folder and the time that a statement sees. -/
def surroundings (db : Database) (now : String) : Surroundings := ⟨some db.settings.folder, now⟩

variable (db : Database) (now sql : String)

/-- Executing a statement leaves the settings. -/
@[simp]
lemma settings_execute : (db.execute now sql).2.settings = db.settings := rfl

/-- The stages under the settings of a database. -/
lemma stages_pipeline : (db.pipeline now).stages = standardStages (db.surroundings now) := rfl

/-- **The session after any text**: the statement that the text is read as has been executed, if the
budget allows two jobs; else the session is as before. -/
theorem session_execute :
    (db.execute now sql).2.session =
      if 2 ≤ db.settings.budget then
        Payload.sessionAfter (db.surroundings now) db.session (strip sql)
      else db.session :=
  Pipeline.state_run_text (db.stages_pipeline now) (w := ⟨[], db.session, db.nextRun⟩) rfl
    (strip sql)

/-! ### By the passage of the text -/

section Passages

variable {db : Database} {now sql : String}

/-- **A text with a passage within the budget** gives the text of the outcome, or the fault that
ends the passage, and leaves the session that the passage leaves. -/
lemma execute_eq_of_passage {names : List String} {after : Session} {r : Except Fault Outcome}
    (c : Passage (db.surroundings now) (.text (strip sql)) db.session names after r)
    (hb : (names.length : ℤ) ≤ db.settings.budget) :
    db.execute now sql = ((r.mapError .crashed).map Outcome.render,
      ⟨after, db.settings, db.nextRun + 1⟩) := by
  obtain ⟨noted, -, hrun⟩ := Pipeline.run_passage (p := db.pipeline now)
    (w := ⟨[], db.session, db.nextRun⟩) (db.stages_pipeline now) c rfl hb
  rw [execute, run, worklist, hrun]
  cases r <;> rfl

/-- **A text whose statement comes to an outcome** gives that outcome, and leaves the session that
the statement leaves. It takes three jobs. -/
lemma execute_of_follower {kind : StatementKind} {s : Statement}
    (hread : readStatement kind (strip sql) = .ok s) (hb : 3 ≤ db.settings.budget) {o : Outcome}
    (h : (s.perform (db.surroundings now) db.session).follower = .ok (.outcome o)) :
    db.execute now sql = (.ok o.render,
      ⟨(s.perform (db.surroundings now) db.session).session, db.settings, db.nextRun + 1⟩) :=
  execute_eq_of_passage (Passage.text_of_statement hread
    (.pass (Payload.advance?_statement _ _ s) h (.capture o _))) hb

end Passages

/-! ### By the report -/

/-- **A run that ends with a report** has rejected the text as a whole and left the session, or has
followed the passage of the text to its outcome. -/
theorem run_report {report : Report} (h : (db.run now sql).1 = .ok report) :
    (∃ job, report.result = some ((db.pipeline now).rejection job) ∧
      (db.run now sql).2.session = db.session) ∨
    ∃ (names : List String) (o : Outcome),
      Passage (db.surroundings now) (.text (strip sql)) db.session names
        (db.run now sql).2.session (.ok o) ∧ report.result = some o := by
  have hp := db.stages_pipeline now
  rw [run, worklist] at h ⊢
  rcases hpipe : (db.pipeline now).run ((⟨[], db.session, db.nextRun⟩ : Worklist Session).submit
    (.text (strip sql))) with ⟨ending, after⟩
  rw [hpipe] at h
  cases hopen : StatementKind.opening? (strip sql) with
  | none =>
    by_cases hb : 1 ≤ (db.pipeline now).budget
    · obtain ⟨job, hrun⟩ := Pipeline.run_unread (w := ⟨[], db.session, db.nextRun⟩) hp
        (.text (strip sql)) (by rw [Payload.taker?, hopen]; rfl) rfl hb
      obtain ⟨rfl, rfl⟩ := Prod.mk.inj (hpipe.symm.trans hrun)
      rw [← Except.ok.inj h]
      exact .inl ⟨job, rfl, rfl⟩
    · have hrun := Pipeline.run_zero (p := db.pipeline now) (.text (strip sql))
        (w := ⟨[], db.session, db.nextRun⟩) rfl (by omega)
      obtain ⟨rfl, rfl⟩ := Prod.mk.inj (hpipe.symm.trans hrun)
      simp at h
  | some kind =>
    obtain ⟨names, r, c, -⟩ := Payload.exists_passage (db.surroundings now)
      db.session hopen
    generalize Payload.sessionAfter (db.surroundings now) db.session (strip sql) = final at c
    by_cases hb : (names.length : ℤ) ≤ (db.pipeline now).budget
    · obtain ⟨noted, -, hrun⟩ :=
        Pipeline.run_passage (w := ⟨[], db.session, db.nextRun⟩) hp c rfl hb
      obtain ⟨rfl, rfl⟩ := Prod.mk.inj (hpipe.symm.trans hrun)
      rcases r with f | o
      · simp [Pipeline.endingOf] at h
      · rw [← Except.ok.inj h]
        exact .inr ⟨names, o, c, rfl⟩
    · have hrun := Pipeline.run_short (w := ⟨[], db.session, db.nextRun⟩) hp c rfl (by omega)
      rw [hpipe] at hrun
      rw [show ending = .overrun (db.pipeline now).budget from hrun] at h
      simp at h

end Database

end StagedQuery
