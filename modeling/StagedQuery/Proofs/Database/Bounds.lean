import StagedQuery.Proofs.Database.Reachable

set_option relaxedAutoImplicit false
set_option autoImplicit false

/-!
# How long a statement runs, and what is left of it

A budget of nine jobs is enough for every text. The queue holds one job at a time, and no payload
goes through more than nine stages: the text, the statement, five operators, the listing and the
outcome. What the run leaves is either the one outcome that was captured, or the text itself,
declined by all stages.

## Main definitions

* `Pipeline.progress` — the bookkeeping of a run when it ends, whatever way it ends.
* `Progress.Answered`, `Progress.Declined` — the two forms that it has in the end.

## Main results

* `Database.progress_cases` — where a run over a text stands when it ends.
* `Database.run_bounded` — no run over a text overruns a budget of nine, and each that gives a
  report gives a result.
-/

namespace StagedQuery

/-! ## The end of a run -/

/-- The bookkeeping of a run when it ends, whatever way it ends. -/
def Pipeline.progress {σ φ : Type} (p : Pipeline σ φ) (w : Worklist σ) : Progress σ :=
  (p.drain w.origin p.budget.toNat (.start w.queue w.state)).2

namespace Progress

variable {σ : Type}

/-- One outcome was captured, and no job was rejected. -/
def Answered (w : Progress σ) : Prop := (∃ o, w.captured = [o]) ∧ w.rejected = []

/-- No stage took any job, and one job was rejected: it has a certain payload, and stages with
certain names declined it in this order. -/
def Declined (w : Progress σ) (payload : Payload) (names : List String) : Prop :=
  w.transforms = [] ∧
    ∃ job : Job, w.rejected = [job] ∧ job.payload = payload ∧ job.route.declinedBy = names

/-- A run cannot end in both forms. -/
lemma Answered.not_declined {w : Progress σ} (h : w.Answered) (payload : Payload)
    (names : List String) : ¬ w.Declined payload names := by
  rintro ⟨-, job, hjob, -⟩
  rw [h.2] at hjob
  cases hjob

end Progress

namespace Database

variable {db : Database} {now sql : String}

/-- The bookkeeping of the run over a text when it ends, whatever way it ends. -/
def progress (db : Database) (now sql : String) : Progress Session :=
  (db.pipeline now).progress (db.worklist sql)

/-- How the run over a text ends, by the work on its only job. -/
lemma run_of_drain {stop : Stop Fault} {w : Progress Session}
    (h : (db.pipeline now).drain (runName db.nextRun) db.settings.budget.toNat
      ⟨[.new (.text (strip sql)) (runName db.nextRun)], db.session, [], [], 0, []⟩ = (stop, w)) :
    db.progress now sql = w ∧ (db.run now sql).1 = match stop with
      | .finished => .ok ((db.pipeline now).report (runName db.nextRun) w)
      | .overrun limit => .error (.overrun limit)
      | .crashed fault => .error (.crashed fault) := by
  have hdrain : (db.pipeline now).drain (db.worklist sql).origin (db.pipeline now).budget.toNat
      (.start (db.worklist sql).queue (db.worklist sql).state) = (stop, w) := h
  refine ⟨congrArg Prod.snd hdrain, ?_⟩
  rw [run, Pipeline.run, hdrain]
  cases stop <;> rfl

/-- **Where a run over a text stands when it ends**, if the budget is at least nine: no job waits,
at most nine have left the queue, and the text was answered or declined, or a fault ended the run.

**Proof sketch.** A text that opens no statement is declined by all stages. Any other one has a
passage of at most nine stages, and the run follows it to its end. -/
lemma progress_cases (hb : 9 ≤ db.settings.budget) (now sql : String) :
    (db.progress now sql).queue = [] ∧ (db.progress now sql).iterations ≤ 9 ∧
      (((db.progress now sql).Answered ∧
        (db.run now sql).1 = .ok ((db.pipeline now).report (runName db.nextRun)
          (db.progress now sql))) ∨
      ((db.progress now sql).Declined (.text (strip sql)) (db.pipeline now).names ∧
        (db.run now sql).1 = .ok ((db.pipeline now).report (runName db.nextRun)
          (db.progress now sql))) ∨
      ∃ f, (db.run now sql).1 = .error (.crashed f)) := by
  have hp := db.stages_pipeline now
  cases hopen : StatementKind.opening? (strip sql) with
  | none =>
    have htaker : (Payload.text (strip sql)).taker? (db.surroundings now) = none := by
      rw [Payload.taker?, hopen]
      rfl
    have hfuel : 1 ≤ db.settings.budget.toNat := by omega
    obtain ⟨job, hpay, hroute, hdrain⟩ :=
      Pipeline.drain_unread (runName db.nextRun) hp htaker db.session hfuel
    obtain ⟨hprogress, hrun⟩ := run_of_drain hdrain
    rw [hprogress, hrun]
    exact ⟨rfl, Nat.le_of_ble_eq_true rfl, .inr (.inl ⟨⟨rfl, job, rfl, hpay, hroute⟩, rfl⟩)⟩
  | some kind =>
    obtain ⟨names, r, hpassage, hlen⟩ :=
      Payload.exists_passage (db.surroundings now) db.session hopen
    have hfuel : names.length ≤ db.settings.budget.toNat := by omega
    obtain ⟨noted, -, hdrain⟩ := Pipeline.drain_passage (runName db.nextRun) hp hpassage
      (.new (.text (strip sql)) (runName db.nextRun)) db.settings.budget.toNat [] [] 0 [] rfl hfuel
    obtain ⟨hprogress, hrun⟩ := run_of_drain hdrain
    rw [hprogress, hrun]
    have hiterations : 0 + names.length ≤ 9 := by omega
    refine ⟨rfl, hiterations, ?_⟩
    cases r with
    | ok o => exact .inl ⟨⟨⟨o, rfl⟩, rfl⟩, rfl⟩
    | error f => exact .inr (.inr ⟨f, rfl⟩)

/-- A run that was answered or declined has a result. -/
lemma exists_result {w : Progress Session} {payload : Payload} {names : List String}
    (p : Pipeline Session Fault) (h : w.Answered ∨ w.Declined payload names) :
    ∃ o, p.result w = some o := by
  rw [Pipeline.result]
  rcases h with ⟨⟨o, hcaptured⟩, -⟩ | ⟨-, job, hrejected, -⟩
  · rw [hcaptured]
    exact ⟨o, rfl⟩
  · rw [hrejected]
    cases w.captured.getLast? with
    | some o => exact ⟨o, rfl⟩
    | none => exact ⟨_, rfl⟩

/-- **A budget of nine jobs is enough for every text.** On every database with at least that budget
no run overruns, and at most nine jobs leave the queue. A run that gives a report leaves no job
waiting and has a result, and it ends in exactly one of two forms: one outcome was captured and
nothing was rejected, or no stage took anything and the text itself was rejected, after all stages
had declined it in their order. -/
theorem run_bounded (hb : 9 ≤ db.settings.budget) (now sql : String) :
    (∀ limit, (db.run now sql).1 ≠ .error (.overrun limit)) ∧
    (db.progress now sql).iterations ≤ 9 ∧
    ∀ report, (db.run now sql).1 = .ok report →
      (db.progress now sql).queue = [] ∧
      ((db.pipeline now).run (db.worklist sql)).2.queue = [] ∧
      report.iterations = (db.progress now sql).iterations ∧
      report.rejected = (db.progress now sql).rejected ∧
      report.transforms = (db.progress now sql).transforms ∧
      (∃ o, report.result = some o) ∧
      ((db.progress now sql).Answered ∨
        (db.progress now sql).Declined (.text (strip sql)) (db.pipeline now).names) ∧
      ¬ ((db.progress now sql).Answered ∧
        (db.progress now sql).Declined (.text (strip sql)) (db.pipeline now).names) := by
  obtain ⟨hqueue, hiterations, hcases⟩ := progress_cases hb now sql
  have hforms : ∀ report, (db.run now sql).1 = .ok report →
      report = (db.pipeline now).report (runName db.nextRun) (db.progress now sql) ∧
        ((db.progress now sql).Answered ∨
          (db.progress now sql).Declined (.text (strip sql)) (db.pipeline now).names) := by
    intro report hreport
    rcases hcases with ⟨hform, hrun⟩ | ⟨hform, hrun⟩ | ⟨f, hrun⟩
    · rw [hrun] at hreport
      exact ⟨(Except.ok.inj hreport).symm, .inl hform⟩
    · rw [hrun] at hreport
      exact ⟨(Except.ok.inj hreport).symm, .inr hform⟩
    · rw [hrun] at hreport
      cases hreport
  refine ⟨fun limit hlimit => ?_, hiterations, fun report hreport => ?_⟩
  · rcases hcases with ⟨-, hrun⟩ | ⟨-, hrun⟩ | ⟨f, hrun⟩
    all_goals
      rw [hrun] at hlimit
      cases hlimit
  · obtain ⟨rfl, hform⟩ := hforms report hreport
    exact ⟨hqueue, hqueue, rfl, rfl, rfl, exists_result _ hform, hform,
      fun hboth => hboth.1.not_declined _ _ hboth.2⟩

/-- On the database with one row a text that opens no statement gives a report with a result. -/
theorem run_bounded_oneRow : ∃ report o, (oneRow.run "" "HELLO").1 = .ok report ∧
    report.iterations ≤ 9 ∧ report.result = some o ∧ report.rejected.length = 1 := by
  have hreport : (oneRow.run "" "HELLO").1.toOption.map (fun r => r.rejected.length) = some 1 := by
    decide +kernel
  obtain ⟨report, hrun, hrejected⟩ := Option.map_eq_some_iff.mp hreport
  rw [toOption_eq_some] at hrun
  have hbudget : 9 ≤ oneRow.settings.budget := by decide +kernel
  obtain ⟨-, hiterations, hreports⟩ := run_bounded hbudget "" "HELLO"
  obtain ⟨-, -, hshown, -, -, ⟨o, ho⟩, -⟩ := hreports report hrun
  exact ⟨report, o, hrun, hshown ▸ hiterations, ho, hrejected⟩

end Database

end StagedQuery
