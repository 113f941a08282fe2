import StagedQuery.Proofs.Database.Reachable
import StagedQuery.Proofs.Database.Routing
import StagedQuery.Proofs.Dispatch.Tracing

set_option relaxedAutoImplicit false
set_option autoImplicit false

/-!
# The level of tracing

The level of tracing decides what the routes of jobs record, and nothing else about the run over a
text. The reports on rejected jobs print such records, but the only job that the standard pipeline
ever rejects is the text itself, which no stage has taken.

## Main definitions

* `Database.traced` — the database with another level of tracing.
* `Database.visits` — the visits of the run over a text.

## Main results

* `Database.rejected_traced` — the same jobs are rejected at every level.
* `Database.run_traced` — the level of tracing changes no run, and what is recorded is right.
-/

namespace StagedQuery

/-! ## The stages of the standard pipeline -/

/-- What an advance makes of an untraced job. -/
lemma Advance.untraced_reaction (a : Advance) (job : Job) :
    (a.reaction job).untraced = (a.reaction job.untraced).untraced := by
  rw [Advance.reaction, Advance.reaction]
  rcases a.result with (e | f) | payload <;> rfl

/-- No stage of the standard pipeline looks at what routes record. -/
lemma ignoresTrace_standardStages (env : Surroundings) :
    ∀ s ∈ standardStages env, s.IgnoresTrace := by
  refine fun s hs => ⟨fun job session => ?_, fun job session => ?_⟩
  · obtain ⟨accepts, hask⟩ := decidesByPayload_standardStages env s hs
    rw [hask]
    rfl
  · rcases handle_standardStages hs job.payload session with ⟨a, ha⟩ | ⟨emissions, -, h⟩
    · rw [ha job rfl, ha job.untraced rfl]
      exact a.untraced_reaction job
    · rw [h job rfl, h job.untraced rfl]

/-- Every stage of the standard pipeline hands on one successor of its job or captures one outcome,
if it emits anything. -/
lemma handsOn_standardStages (env : Surroundings) : ∀ s ∈ standardStages env, s.HandsOn := by
  intro s hs job session
  rcases handle_standardStages hs job.payload session with ⟨a, ha⟩ | ⟨emissions, hemissions, h⟩
  · rw [ha job rfl, Advance.reaction]
    rcases a.result with (e | f) | payload
    · exact .inr rfl
    · exact .inr rfl
    · exact .inl ⟨rfl, .inl ⟨payload, rfl⟩⟩
  · rw [h job rfl]
    rcases hemissions with rfl | ⟨o, rfl⟩
    · exact .inr rfl
    · exact .inl ⟨rfl, .inr ⟨o, rfl⟩⟩

/-! ## Runs over a text -/

/-- A payload that no stage takes is not touched by the level of tracing. -/
lemma Pipeline.drain_unaccepted {p : Pipeline Session Fault} {env : Surroundings} (origin : String)
    (hp : p.stages = standardStages env) {payload : Payload} (h : payload.taker? env = none)
    (level : TraceLevel) (session : Session) (fuel : ℕ) :
    (p.atLevel level).drain origin fuel ⟨[.new payload origin], session, [], [], 0, []⟩ =
      p.drain origin fuel ⟨[.new payload origin], session, [], [], 0, []⟩ := by
  cases fuel with
  | zero => rfl
  | succ fuel =>
    obtain ⟨declined, -, hoffer⟩ := offer_standardStages (.new payload origin) hp session
    rw [show (Job.new payload origin).payload.taker? env = none from h] at hoffer
    have hstep : (p.atLevel level).step origin (.new payload origin) ⟨[], session, [], [], 1, []⟩ =
        p.step origin (.new payload origin) ⟨[], session, [], [], 1, []⟩ := by
      rw [step, step, show offer ((Job.new payload origin).admitted
        (p.atLevel level).stages.length) session (p.atLevel level).stages = _ from hoffer, hoffer]
    obtain ⟨after, hafter, hempty⟩ : ∃ after : Progress Session,
        p.step origin (.new payload origin) ⟨[], session, [], [], 1, []⟩ = (after, none) ∧
          after.queue = [] := by
      rw [step, hoffer]
      dsimp only
      split <;> exact ⟨_, rfl, rfl⟩
    obtain ⟨queue, state, captured, rejected, iterations, transforms⟩ := after
    obtain rfl : queue = [] := hempty
    rw [drain_cons_succ, drain_cons_succ, hstep, hafter]
    dsimp only
    rw [drain_nil, drain_nil]

namespace Database

variable (db : Database) (now sql : String)

/-- The database with another level of tracing. -/
def traced (level : TraceLevel) : Database :=
  ⟨db.session, { db.settings with traceLevel := level }, db.nextRun⟩

/-- The visits of the run over a text. -/
def visits : List (Visit Session Fault) := (db.pipeline now).visits (db.worklist sql)

variable {db now sql} in
/-- A report of the pipeline is the report on the run over the text. -/
lemma run_of_report {r : Report} (h : ((db.pipeline now).run (db.worklist sql)).1 = .report r) :
    (db.run now sql).1 = .ok r := by
  rw [run]
  rcases hpipe : (db.pipeline now).run (db.worklist sql) with ⟨ending, after⟩
  rw [hpipe] at h
  obtain rfl : ending = .report r := h
  rfl

/-- A run over a text leaves the session that its bookkeeping ends with. -/
lemma run_session : (db.run now sql).2.session = (db.progress now sql).state := rfl

/-- The jobs that a run over a text rejects are the same at every level: the text itself if no stage
takes it, and else none. -/
lemma rejected_traced (level : TraceLevel) :
    ((db.traced level).progress now sql).rejected = (db.progress now sql).rejected := by
  cases hopen : StatementKind.opening? (strip sql) with
  | none =>
    have htaker : (Payload.text (strip sql)).taker? (db.surroundings now) = none := by
      rw [Payload.taker?, hopen]
      rfl
    exact congrArg (·.2.rejected) (Pipeline.drain_unaccepted (runName db.nextRun)
      (db.stages_pipeline now) htaker level db.session db.settings.budget.toNat)
  | some kind =>
    obtain ⟨names, r, hpassage, -⟩ :=
      Payload.exists_passage (db.surroundings now) db.session hopen
    have hrejected : ∀ level, ((db.traced level).progress now sql).rejected = [] := by
      intro level
      obtain ⟨-, -, hrejected, -⟩ :=
        Pipeline.drain_along (runName db.nextRun) ((db.traced level).stages_pipeline now) hpassage
          (.new (.text (strip sql)) (runName db.nextRun)) db.settings.budget.toNat [] [] 0 [] rfl
      exact hrejected
    rw [hrejected]
    exact (hrejected db.settings.traceLevel).symm

/-- The run over a text gives the same report or the same abort, and leaves the same session, at
every level.

**Proof sketch.** Both runs end in the same way with the same bookkeeping, records apart, and the
rejected jobs are the same with their records. -/
lemma run_traced_eq (level : TraceLevel) :
    ((db.traced level).run now sql).1 = (db.run now sql).1 ∧
      ((db.traced level).run now sql).2.session = (db.run now sql).2.session := by
  obtain ⟨hstop, hprogress⟩ := Pipeline.drain_atLevel (p := db.pipeline now)
    (ignoresTrace_standardStages (db.surroundings now)) level (runName db.nextRun)
    db.settings.budget.toNat
    (v := ⟨[.new (.text (strip sql)) (runName db.nextRun)], db.session, [], [], 0, []⟩) rfl
  have hrejected := db.rejected_traced now sql level
  rcases hdrain : (db.pipeline now).drain (runName db.nextRun) db.settings.budget.toNat
    ⟨[.new (.text (strip sql)) (runName db.nextRun)], db.session, [], [], 0, []⟩ with ⟨stop, w⟩
  rcases hdrain' : ((db.traced level).pipeline now).drain (runName db.nextRun)
    db.settings.budget.toNat
    ⟨[.new (.text (strip sql)) (runName db.nextRun)], db.session, [], [], 0, []⟩ with ⟨stop', w'⟩
  rw [hdrain] at hstop hprogress
  rw [show ((db.pipeline now).atLevel level).drain (runName db.nextRun) db.settings.budget.toNat
    ⟨[.new (.text (strip sql)) (runName db.nextRun)], db.session, [], [], 0, []⟩ = (stop', w')
    from hdrain'] at hstop hprogress
  obtain rfl : stop = stop' := hstop
  obtain ⟨-, hstate, hcaptured, -, hiterations, htransforms⟩ := Progress.mk.inj hprogress
  obtain ⟨hfinal, hrun⟩ := run_of_drain hdrain
  obtain ⟨hfinal', hrun'⟩ : (db.traced level).progress now sql = w' ∧ _ := run_of_drain hdrain'
  rw [hfinal, hfinal'] at hrejected
  refine ⟨?_, ?_⟩
  · rw [hrun, hrun']
    cases stop with
    | finished =>
      have hreport : ((db.traced level).pipeline now).report (runName db.nextRun) w' =
          (db.pipeline now).report (runName db.nextRun) w := by
        rw [Pipeline.report, Pipeline.report, Pipeline.result, Pipeline.result, ← hcaptured,
          hrejected, ← hiterations, ← htransforms]
        rfl
      exact congrArg Except.ok hreport
    | overrun limit | crashed fault => rfl
  · rw [run_session, run_session, hfinal, hfinal']
    exact hstate.symm

/-- **The level of tracing only observes.** For every database, time and text, with whatever store,
disk and budget, the run over the text at any two levels of tracing gives the same report as a
whole (with the same result, number of jobs, transforms and rejected jobs) or is aborted in the
same way, and it leaves the same store and disk.

What is recorded is right. Every outcome is captured in a visit of the run, and a visit that
captures one ends the run with a report on it. The route of the captured job names just the stages
of the transforms in the report, if the level is not `none`; and it records them with the labels of
their payloads at the level `detailed`, and only there. -/
theorem run_traced :
    (∀ level level' : TraceLevel,
      ((db.traced level).run now sql).1 = ((db.traced level').run now sql).1 ∧
      ((db.traced level).run now sql).2.session = ((db.traced level').run now sql).2.session) ∧
    ∀ level : TraceLevel,
      ((db.traced level).progress now sql).captured =
        ((db.traced level).visits now sql).flatMap Visit.captured ∧
      ∀ v ∈ (db.traced level).visits now sql, v.captured ≠ [] →
        ∃ r o, ((db.traced level).run now sql).1 = .ok r ∧ v.captured = [o] ∧ r.result = some o ∧
          (level = .none → v.routed.route.takenBy = []) ∧
          (level ≠ .none → v.routed.route.takenBy = r.transforms.map Prod.fst) ∧
          (level ≠ .detailed → v.routed.route.history = []) ∧
          (level = .detailed →
            (v.routed.route.history.map fun record => (record.stage, record.kind)) =
              r.transforms) := by
  refine ⟨fun level level' => ?_, fun level => ⟨?_, fun v hv hcaptured => ?_⟩⟩
  · obtain ⟨hresult, hsession⟩ := db.run_traced_eq now sql level
    obtain ⟨hresult', hsession'⟩ := db.run_traced_eq now sql level'
    exact ⟨hresult.trans hresult'.symm, hsession.trans hsession'.symm⟩
  · obtain ⟨left, htraversed, -⟩ := Pipeline.exists_traversed
      (p := (db.traced level).pipeline now) (runName db.nextRun) db.settings.budget.toNat
      (.start ((db.traced level).worklist sql).queue ((db.traced level).worklist sql).state)
    have hprogress : (db.traced level).progress now sql =
        (((db.traced level).pipeline now).work (runName db.nextRun) db.settings.budget.toNat
          (.start ((db.traced level).worklist sql).queue
            ((db.traced level).worklist sql).state)).2 :=
      congrArg Prod.snd (Pipeline.drain_eq_work _ _)
    rw [hprogress]
    exact htraversed.captured
  · obtain ⟨r, o, hrun, hone, hresult, htaken, hhistory⟩ := Pipeline.report_of_captured
      (p := (db.traced level).pipeline now) (handsOn_standardStages (db.surroundings now)) rfl hv
      hcaptured
    refine ⟨r, o, run_of_report hrun, hone, hresult, ?_⟩
    · cases level with
      | none =>
        exact ⟨fun _ => htaken, fun h => absurd rfl h, fun _ => List.map_eq_nil_iff.mp hhistory,
          fun h => TraceLevel.noConfusion h⟩
      | minimal =>
        exact ⟨fun h => TraceLevel.noConfusion h, fun _ => htaken,
          fun _ => List.map_eq_nil_iff.mp hhistory, fun h => TraceLevel.noConfusion h⟩
      | detailed =>
        exact ⟨fun h => TraceLevel.noConfusion h, fun _ => htaken, fun h => absurd rfl h,
          fun _ => hhistory⟩

/-- The outcome of a query has gone through five stages, which its route names if it is traced. -/
theorem run_traced_oneRow :
    ((oneRow.traced .none).run "" "SELECT b FROM t").1 =
        ((oneRow.traced .detailed).run "" "SELECT b FROM t").1 ∧
      ∃ v ∈ (oneRow.traced .detailed).visits "" "SELECT b FROM t", v.captured ≠ [] ∧
        v.routed.route.takenBy =
          ["select.parse", "select.scan", "select.project", "select.format", "result"] := by
  obtain ⟨hsame, hrecords⟩ := run_traced oneRow "" "SELECT b FROM t"
  refine ⟨(hsame .none .detailed).1, ?_⟩
  have hcaptured : (((oneRow.traced .detailed).visits "" "SELECT b FROM t").flatMap
      Visit.captured).isEmpty = false := by
    decide +kernel
  obtain ⟨v, hv, hne⟩ :
      ∃ v ∈ (oneRow.traced .detailed).visits "" "SELECT b FROM t", v.captured ≠ [] := by
    simpa only [List.isEmpty_eq_false_iff, ne_eq, List.flatMap_eq_nil_iff, not_forall,
      exists_prop] using hcaptured
  have hnames : ((oneRow.traced .detailed).run "" "SELECT b FROM t").1.toOption.map
      (fun r => r.transforms.map Prod.fst) =
        some ["select.parse", "select.scan", "select.project", "select.format", "result"] := by
    decide +kernel
  obtain ⟨-, hcaptures⟩ := hrecords .detailed
  obtain ⟨r, o, hrun, -, -, -, htaken, -⟩ := hcaptures v hv hne
  rw [hrun] at hnames
  exact ⟨v, hv, hne, (htaken (by decide)).trans (Option.some.inj hnames)⟩

end Database

end StagedQuery
