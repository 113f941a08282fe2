import StagedQuery.Proofs.Database.Reachable
import StagedQuery.Proofs.Query.Answer

set_option relaxedAutoImplicit false
set_option autoImplicit false

/-!
# What a database answers to a `SELECT`

On a database that statements have built, the standard pipeline answers a `SELECT` as its meaning
says, and takes a text through exactly the stages that the statement asks for.

## Main results

* `Pipeline.run_refused`, `Pipeline.run_answered` — the run over a `SELECT` on any well-formed
  store.
* `Database.Reachable.run_select` — the same on every database of a run, in one statement.
-/

namespace StagedQuery

/-! ## Runs over a `SELECT` -/

namespace Pipeline

variable {p : Pipeline Session Fault} {env : Surroundings} {w : Worklist Session} {text : String}
  {s : Select}

/-- A text that is read as a `SELECT` is read as that statement. -/
lemma readStatement_select (hread : readSelect text = .ok s) :
    readStatement .select text = .ok (.select s) := by
  rw [readStatement, hread]
  rfl

/-- **The run over a `SELECT` that is refused** gives its error, and leaves the session. -/
lemma run_refused (hp : p.stages = standardStages env) (hb : 9 ≤ p.budget) (hw : w.queue = [])
    (hread : readSelect text = .ok s) {e : StatementError}
    (h : s.refusal? w.state.store = some e) :
    ∃ noted, p.run (w.submit (.text text)) =
      (.report ⟨w.origin, some (.error e.message), [], 3, noted⟩, ⟨[], w.state, w.run + 1⟩) := by
  have c := Passage.text_of_statement (readStatement_select hread)
    (Select.passage_refused env h)
  obtain ⟨noted, -, hrun⟩ := run_passage hp c hw (show ((3 : ℕ) : ℤ) ≤ p.budget by omega)
  exact ⟨noted, hrun⟩

/-- **The run over a `SELECT` that is answered** gives the listing of its answer, and leaves the
session. The text goes through two stages to the scan, through one for each operator that is asked
for, and through two from there on. -/
lemma run_answered (hp : p.stages = standardStages env) (hb : 9 ≤ p.budget) (hw : w.queue = [])
    (hread : readSelect text = .ok s) (hstore : w.state.store.WellFormed)
    (h : s.refusal? w.state.store = none) :
    ∃ t shown noted, w.state.store.find? s.table = some t ∧
      listing (s.labels t.schema) (s.answer (s.labels t.schema) t.rows) = .ok shown ∧
      noted.map Prod.fst = ["select.parse", "select.scan"] ++
        (Operator.all.filter (·.asked s)).map (fun op => (operatorStage op).name) ++
          ["select.format", "result"] ∧
      p.run (w.submit (.text text)) = (.report ⟨w.origin, some (.ok shown), [],
        4 + (Operator.all.filter (·.asked s)).length, noted⟩, ⟨[], w.state, w.run + 1⟩) := by
  obtain ⟨t, shown, htable, hshown, c⟩ := Select.passage_answered env hstore h
  have c := Passage.text_of_statement (readStatement_select hread) c
  have hfew : (Operator.all.filter (·.asked s)).length ≤ 5 := List.length_filter_le _ _
  have hlen : ((readingStage .select).name :: (executionStage env .select).name ::
      ((Operator.all.filter (·.asked s)).map (fun op => (operatorStage op).name) ++
        [listingStage.name, resultStage.name])).length =
      4 + (Operator.all.filter (·.asked s)).length := by
    simp only [List.length_cons, List.length_append, List.length_map, List.length_nil]
    omega
  obtain ⟨noted, hnoted, hrun⟩ := run_passage hp c hw (by rw [hlen]; omega)
  refine ⟨t, shown, noted, htable, hshown, hnoted, ?_⟩
  rw [hrun, Pipeline.endingOf, hlen]

end Pipeline

/-! ## Databases that statements build -/

namespace Database

variable {disk : Disk} {settings : Settings} {db : Database} {saved : List (List String)}

/-- **The answer of a database to a `SELECT`.** Let a database be reached by statements, and let a
text be read as a `SELECT`. With a budget of at least nine jobs, the standard pipeline runs over the
text to a report, rejects nothing and leaves the session. If the statement names a missing table or
column, the result is the error for the first one. Otherwise it is the listing of the answer: the
rows of the table are filtered, ordered, projected, made distinct and cut to a page, where a clause
that is lacking changes nothing. The stages are those of reading and scanning, those of the
operators that the statement asks for, each once and in this order, and those of the listing and the
result; each takes one job. -/
theorem Reachable.run_select (h : Reachable disk settings db saved)
    {p : Pipeline Session Fault} {env : Surroundings} (hp : p.stages = standardStages env)
    (hb : 9 ≤ p.budget) {text : String} {s : Select} (hread : readSelect text = .ok s) (run : ℕ) :
    ∃ report : Report,
      p.run ((⟨[], db.session, run⟩ : Worklist Session).submit (.text text)) =
        (.report report, ⟨[], db.session, run + 1⟩) ∧
      report.rejected = [] ∧
      (∀ e, s.refusal? db.store = some e → report.result = some (.error e.message)) ∧
      (s.refusal? db.store = none → ∃ t shown, db.store.find? s.table = some t ∧
        listing (s.labels t.schema) (s.paged (s.unrepeated (s.labels t.schema)
          (s.projected (s.labels t.schema) (s.ordered (s.filtered t.rows))))) = .ok shown ∧
        report.result = some (.ok shown) ∧
        report.transforms.map Prod.fst = ["select.parse", "select.scan"] ++
          (Operator.all.filter (·.asked s)).map (fun op => (operatorStage op).name) ++
            ["select.format", "result"] ∧
        report.iterations = 4 + (Operator.all.filter (·.asked s)).length) := by
  cases hrefusal : s.refusal? db.store with
  | some e =>
    obtain ⟨noted, hrun⟩ :=
      Pipeline.run_refused (w := ⟨[], db.session, run⟩) hp hb rfl hread hrefusal
    refine ⟨_, hrun, rfl, fun e' he => ?_, fun hnone => absurd hnone (by simp)⟩
    rw [Option.some.inj he]
  | none =>
    obtain ⟨t, shown, noted, htable, hshown, hnoted, hrun⟩ := Pipeline.run_answered
      (w := ⟨[], db.session, run⟩) hp hb rfl hread h.kept.store hrefusal
    exact ⟨_, hrun, rfl, fun e he => absurd he (by simp),
      fun _ => ⟨t, shown, htable, hshown, rfl, hnoted, rfl⟩⟩

/-- A statement that asks for all five operators, on a table with one row, takes nine jobs. -/
theorem run_select_oneRow :
    ∃ report : Report,
      (((oneRow.pipeline "").run ((⟨[], oneRow.session, 2⟩ : Worklist Session).submit
        (.text "SELECT DISTINCT b FROM t WHERE a = 7 ORDER BY a LIMIT 1"))).1 = .report report) ∧
      report.iterations = 9 := by
  obtain ⟨saved, hreach⟩ := exists_reachable_oneRow
  have hcheck : ((readSelect "SELECT DISTINCT b FROM t WHERE a = 7 ORDER BY a LIMIT 1").toOption.map
      fun s => ((s.refusal? oneRow.store).isNone, (Operator.all.filter (·.asked s)).length)) =
        some (true, 5) := by
    decide +kernel
  obtain ⟨s, hs, hpair⟩ := Option.map_eq_some_iff.mp hcheck
  obtain ⟨hnone, hcount⟩ := Prod.mk.inj hpair
  obtain ⟨report, hrun, -, -, hanswer⟩ := Reachable.run_select hreach
    (p := oneRow.pipeline "") (oneRow.stages_pipeline "") (by decide +kernel)
    (toOption_eq_some.mp hs) 2
  obtain ⟨-, -, -, -, -, -, hjobs⟩ := hanswer (Option.isNone_iff_eq_none.mp hnone)
  refine ⟨report, congrArg Prod.fst hrun, ?_⟩
  rw [hjobs, hcount]

end Database

end StagedQuery
