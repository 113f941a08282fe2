import StagedQuery.Proofs.Dispatch.Budget
import StagedQuery.Proofs.Dispatch.Fifo

set_option relaxedAutoImplicit false
set_option autoImplicit false

/-!
# What a run leaves in the queue

However a run ends, the jobs that it visited and those that it did not are the jobs that waited,
followed by those that were submitted, in their order. A run that ends by itself has visited all of
them, and a run that its budget cuts off gives up the others. In both cases the next run meets only
jobs that come after. A stage that stops a run, with an overrun of its own or with a fault, leaves
the rest of the queue to the next run. It may do so when it is asked about a job, or when it works
on one.

## Main definitions

* `Visit.StoppedBy` — the stage that stops the run in a visit.
* `Pipeline.Traversed` — what a run has noted of its visits, with the jobs that it did not visit.
* `Pipeline.Leaves` — what becomes of the jobs that a run did not visit, by the way it ends.
* `Worklist.pushAll` — the worklist with several jobs added.

## Main results

* `Pipeline.exists_traversed` — the work on a queue is a sequence of visits, however it ends.
* `Pipeline.run_leaves` — what a run leaves in the queue, and what that means for the next one.
-/

namespace StagedQuery

/-! ## How a visit stops its run -/

/-- A stage stops the run in a visit: it was asked about the job, or it took the job. -/
def Visit.StoppedBy {σ φ : Type} (v : Visit σ φ) (s : Stage σ φ) (stop : Stop φ) : Prop :=
  (v.taker = none ∧ ∃ before answer, s.ask v.routed before = (v.after, answer) ∧
    answer.stop? = some stop) ∨
  (v.taker = some s ∧ (s.handle v.routed v.asked).verdict.stop? = some stop)

namespace Pipeline

variable {σ φ : Type} {p : Pipeline σ φ} {origin : String}

/-- A visit that stops the run is stopped by a stage of the pipeline. -/
lemma exists_stoppedBy {job : Job} {state : σ} {v : Visit σ φ} {stop : Stop φ}
    (hv : p.visit origin job state = v) (hstop : v.stop = some stop) :
    ∃ s ∈ p.stages, v.StoppedBy s stop := by
  have hspec := offer_spec p.stages (job.admitted p.stages.length) state
  have hmem : ∀ s, (offer (job.admitted p.stages.length) state p.stages).taker = .ok (some s) →
      s ∈ p.stages := fun _ => mem_of_offer
  rw [visit] at hv
  rcases hoffer : offer (job.admitted p.stages.length) state p.stages with
    ⟨routed, asked, stop' | _ | s⟩ <;> rw [hoffer] at hv hspec hmem <;> rw [← hv] at hstop ⊢
  · obtain rfl : stop' = stop := Option.some.inj hstop
    obtain ⟨front, rest, hparts, -, ⟨-, htaker⟩ | ⟨s, later, before, answer, rfl, hask,
      ⟨-, htaker⟩ | ⟨other, hanswer, htaker⟩⟩⟩ := hspec
    · cases htaker
    · cases htaker
    · cases htaker
      exact ⟨s, by simp [hparts], .inl ⟨rfl, before, answer, hask, hanswer⟩⟩
  · cases hstop
  · exact ⟨s, hmem s rfl, .inr ⟨rfl, hstop⟩⟩

/-! ## The work on a queue, however it ends -/

/-- The visits to a queue in a run, and the jobs that it does not visit: jobs are visited in the
order in which they came into the queue, each visit goes on from the state that the one before left,
and the run has noted what the visits gave. -/
structure Traversed (w : Progress σ) (visits : List (Visit σ φ)) (left : List Job)
    (final : Progress σ) : Prop where
  order : visits.map Visit.job ++ left = w.queue ++ visits.flatMap Visit.submitted
  states : visits.map Visit.before ++ [final.state] = w.state :: visits.map Visit.after
  captured : final.captured = w.captured ++ visits.flatMap Visit.captured
  iterations : final.iterations = w.iterations + visits.length
  transforms : final.transforms = w.transforms ++ visits.filterMap Visit.transform?

/-- What becomes of the jobs that a run did not visit. There are none if it ended by itself; a
budget gives them up; and they wait on after a stage stopped the run, by the last visit. -/
def Leaves (visits : List (Visit σ φ)) (left queue : List Job) : Option (Stop φ) → Prop
  | some .finished => left = [] ∧ queue = []
  | none => left ≠ [] ∧ queue = []
  | some stop => queue = left ∧ ∃ v, visits.getLast? = some v ∧ v.stop = some stop

/-- A stage that stops a run leaves the jobs that were not visited. -/
lemma Leaves.of_stop {visits : List (Visit σ φ)} {left : List Job} {stop : Stop φ} {v : Visit σ φ}
    (hne : stop ≠ .finished) (hlast : visits.getLast? = some v) (hv : v.stop = some stop) :
    Leaves visits left left (some stop) := by
  cases stop with
  | finished => exact absurd rfl hne
  | overrun limit | crashed fault => exact ⟨rfl, v, hlast, hv⟩

/-- One more visit in front does not change what becomes of the jobs that are left. -/
lemma Leaves.cons {visits : List (Visit σ φ)} {left queue : List Job} {stop? : Option (Stop φ)}
    (h : Leaves visits left queue stop?) (first : Visit σ φ) :
    Leaves (first :: visits) left queue stop? := by
  match stop?, h with
  | none, h | some .finished, h => exact h
  | some (.overrun limit), ⟨hqueue, v, hlast, hv⟩ | some (.crashed fault), ⟨hqueue, v, hlast, hv⟩ =>
    exact ⟨hqueue, v, by rw [List.getLast?_cons, hlast]; rfl, hv⟩

/-- One visit more in front of others. -/
lemma Traversed.cons {job : Job} {rest left : List Job} {w final : Progress σ}
    {visits : List (Visit σ φ)} (hqueue : w.queue = job :: rest) (rejected : List Job)
    (h : Traversed
      ⟨rest ++ (p.visit origin job w.state).submitted, (p.visit origin job w.state).after,
        w.captured ++ (p.visit origin job w.state).captured, rejected, w.iterations + 1,
        w.transforms ++ (p.visit origin job w.state).transform?.toList⟩ visits left final) :
    Traversed w (p.visit origin job w.state :: visits) left final := by
  refine ⟨?_, ?_, ?_, ?_, ?_⟩
  · rw [List.map_cons, List.flatMap_cons, visit_job, hqueue, List.cons_append, h.order,
      List.append_assoc, List.cons_append]
  · rw [List.map_cons, List.map_cons, List.cons_append, h.states, visit_before]
  · rw [h.captured, List.flatMap_cons, List.append_assoc]
  · rw [h.iterations, List.length_cons, Nat.add_right_comm, Nat.add_assoc]
  · rw [h.transforms]
    simp only [List.filterMap_eq_flatMap_toList, List.flatMap_cons, List.append_assoc]

/-- **The work on a queue is a sequence of visits to it**, however it ends.

**Proof sketch.** Induction on the budget that is left. The front of the queue is one visit, and
what it submits goes to the end of the queue, with which the work goes on unless a stage stops
it. -/
lemma exists_traversed (origin : String) (fuel : ℕ) : ∀ w : Progress σ, ∃ left,
    Traversed w (p.visitsFrom origin fuel w.queue w.state) left (p.work origin fuel w).2 ∧
      Leaves (p.visitsFrom origin fuel w.queue w.state) left (p.work origin fuel w).2.queue
        (p.work origin fuel w).1 := by
  induction fuel with
  | zero =>
    rintro ⟨queue, state, captured, rejected, iterations, transforms⟩
    have hnone : ∀ final : Progress σ, final.state = state → final.captured = captured →
        final.iterations = iterations → final.transforms = transforms →
        Traversed (φ := φ) ⟨queue, state, captured, rejected, iterations, transforms⟩ [] queue
          final := by
      rintro final rfl rfl rfl rfl
      exact ⟨by simp, rfl, by simp, rfl, by simp⟩
    refine ⟨queue, ?_⟩
    cases queue with
    | nil => exact ⟨hnone _ rfl rfl rfl rfl, rfl, rfl⟩
    | cons job rest => exact ⟨hnone _ rfl rfl rfl rfl, List.cons_ne_nil _ _, rfl⟩
  | succ fuel ih =>
    rintro ⟨queue, state, captured, rejected, iterations, transforms⟩
    cases queue with
    | nil => exact ⟨[], ⟨rfl, rfl, by simp [visitsFrom, work, next?], rfl,
        by simp [visitsFrom, work, next?]⟩, rfl, rfl⟩
    | cons job rest =>
      rw [work, next?_cons, step_parts]
      generalize (p.step origin job
        ⟨rest, state, captured, rejected, iterations + 1, transforms⟩).1.rejected = rejected'
      rw [visitsFrom]
      cases hstop : (p.visit origin job state).stop with
      | some stop =>
        refine ⟨rest ++ (p.visit origin job state).submitted, ?_, ?_⟩
        · exact Traversed.cons (p := p) rfl rejected'
            ⟨by simp, rfl, by simp, rfl, by simp⟩
        · exact .of_stop (fun h => visit_stop_ne_finished job state (h ▸ hstop)) rfl hstop
      | none =>
        obtain ⟨left, htraversed, hleaves⟩ := ih ⟨rest ++ (p.visit origin job state).submitted,
          (p.visit origin job state).after, captured ++ (p.visit origin job state).captured,
          rejected', iterations + 1,
          transforms ++ (p.visit origin job state).transform?.toList⟩
        exact ⟨left, htraversed.cons rfl rejected', hleaves.cons _⟩

end Pipeline

/-! ## One run after another -/

/-- The worklist with several jobs added in order. -/
def Worklist.pushAll {σ : Type} (w : Worklist σ) (jobs : List Job) : Worklist σ :=
  jobs.foldl Worklist.push w

/-- Jobs that are added wait behind the others. -/
lemma Worklist.pushAll_eq {σ : Type} (w : Worklist σ) (jobs : List Job) :
    w.pushAll jobs = ⟨w.queue ++ jobs, w.state, w.run⟩ := by
  induction jobs generalizing w with
  | nil => rw [List.append_nil]; rfl
  | cons job jobs ih =>
    rw [pushAll, List.foldl_cons, ← pushAll, ih, push, List.append_assoc, List.singleton_append]

namespace Pipeline

variable {σ φ : Type}

/-- A run by the work under its budget. -/
lemma run_eq (p : Pipeline σ φ) (w : Worklist σ) : p.run w =
    (p.endingOfStop w.origin (p.workUnder w p.budget.toNat).2
      ((p.workUnder w p.budget.toNat).1.getD (.overrun p.budget)),
      ⟨(p.workUnder w p.budget.toNat).2.queue, (p.workUnder w p.budget.toNat).2.state,
        w.run + 1⟩) := by
  have hdrain : p.drain w.origin p.budget.toNat (.start w.queue w.state) = _ := drain_eq_work _ _
  rw [run, hdrain, workUnder]
  cases (p.work w.origin p.budget.toNat (.start w.queue w.state)).1.getD (.overrun p.budget) <;> rfl

/-- **What a run leaves in the queue.** For any stages, any queue and any state, a run ends in one
of three ways. It gives a report, and the queue is empty. Its budget cuts it off, and the queue is
empty, since the jobs that were left are given up. Or a stage stops it in its last visit, be it
asked about the job or at work on it, with an overrun of its own or a fault; then the queue holds
just the jobs that were not visited: those that waited, followed by those that were submitted,
without those that were visited.

The next run visits what was left, then what was added after, then what it submits itself. If the
queue was empty, it is the run over the jobs that were added after and over nothing else: no job of
an earlier run has a part in its report. -/
theorem run_leaves (p : Pipeline σ φ) (w : Worklist σ) :
    (((∃ r, (p.run w).1 = .report r) ∧ ¬ p.CutOff w p.budget.toNat ∧ (p.run w).2.queue = []) ∨
      ((p.run w).1 = .overrun p.budget ∧ p.CutOff w p.budget.toNat ∧ (p.run w).2.queue = []) ∨
      ∃ v stop, (p.visits w).getLast? = some v ∧ v.stop = some stop ∧
        (∃ s ∈ p.stages, v.StoppedBy s stop) ∧
        ((∃ limit, stop = .overrun limit ∧ (p.run w).1 = .overrun limit) ∨
          ∃ fault, stop = .crashed fault ∧ (p.run w).1 = .crashed fault) ∧
        (p.visits w).map Visit.job ++ (p.run w).2.queue =
          w.queue ++ (p.visits w).flatMap Visit.submitted) ∧
    (p.run w).2.run = w.run + 1 ∧
    ∀ jobs : List Job,
      (∃ left, (p.visits ((p.run w).2.pushAll jobs)).map Visit.job ++ left =
        (p.run w).2.queue ++ jobs
          ++ (p.visits ((p.run w).2.pushAll jobs)).flatMap Visit.submitted) ∧
      ((p.run w).2.queue = [] →
        p.run ((p.run w).2.pushAll jobs) = p.run ⟨jobs, (p.run w).2.state, w.run + 1⟩) := by
  have hrun : (p.run w).2.run = w.run + 1 := by rw [run_eq]
  have hstage : ∀ {v stop}, (p.visits w).getLast? = some v → v.stop = some stop →
      ∃ s ∈ p.stages, v.StoppedBy s stop := fun hlast hv =>
    exists_stoppedBy (eq_visit_of_mem (List.mem_of_getLast? hlast)).symm hv
  refine ⟨?_, hrun, fun jobs => ⟨?_, fun hqueue => ?_⟩⟩
  · obtain ⟨left, htraversed, hleaves⟩ :=
      exists_traversed (p := p) w.origin p.budget.toNat (.start w.queue w.state)
    rw [run_eq, CutOff]
    rw [← workUnder] at htraversed hleaves
    rcases hwork : p.workUnder w p.budget.toNat with ⟨_ | stop, final⟩
    · rw [hwork] at hleaves
      exact .inr (.inl ⟨rfl, rfl, hleaves.2⟩)
    · rw [hwork] at htraversed hleaves
      cases stop with
      | finished => exact .inl ⟨⟨_, rfl⟩, by simp, hleaves.2⟩
      | overrun limit =>
        obtain ⟨rfl, v, hlast, hv⟩ := hleaves
        exact .inr (.inr ⟨v, _, hlast, hv, hstage hlast hv, .inl ⟨limit, rfl, rfl⟩,
          htraversed.order⟩)
      | crashed fault =>
        obtain ⟨rfl, v, hlast, hv⟩ := hleaves
        exact .inr (.inr ⟨v, _, hlast, hv, hstage hlast hv, .inr ⟨fault, rfl, rfl⟩,
          htraversed.order⟩)
  · obtain ⟨left, htraversed, -⟩ := exists_traversed (p := p)
      ((p.run w).2.pushAll jobs).origin p.budget.toNat
      (.start ((p.run w).2.pushAll jobs).queue ((p.run w).2.pushAll jobs).state)
    refine ⟨left, htraversed.order.trans ?_⟩
    rw [Progress.start, Worklist.pushAll_eq]
    rfl
  · rw [Worklist.pushAll_eq, hqueue, List.nil_append, hrun]

/-- A run that its budget cuts off leaves nothing to the next one, which runs over the text that is
submitted after it. -/
theorem run_leaves_cutOff :
    let w := (⟨[], (), 0⟩ : Worklist Unit).submit (.text "x")
    let later := Job.new (.outcome (.ok "y")) (runName 1)
    ((faltering.withBudget 2).run w).2.queue = [] ∧
      (faltering.withBudget 2).run (((faltering.withBudget 2).run w).2.pushAll [later]) =
        (faltering.withBudget 2).run ⟨[later], (), 1⟩ := by
  intro w later
  obtain ⟨-, -, hnext⟩ := run_leaves (faltering.withBudget 2) w
  have hqueue : ((faltering.withBudget 2).run w).2.queue = [] := rfl
  exact ⟨hqueue, (hnext [later]).2 hqueue⟩

/-- Three stages: the first one takes the text `x` and ends in a fault, the second one makes an
outcome of any other text, the third one captures outcomes. -/
def stumbling : Pipeline Unit String where
  stages :=
    [⟨"fails", Answer.byPayload fun | .text s => s == "x" | _ => false, fun _ state =>
        ⟨state, [], .crashed "broken"⟩⟩,
      ⟨"answer", Answer.byPayload fun | .text _ => true | _ => false, fun job state =>
        ⟨state, [.forward (job.successor (.outcome (.ok job.payload.inspect)))], .done⟩⟩,
      ⟨"result", Answer.byPayload fun | .outcome _ => true | _ => false, fun job state =>
        match job.payload with
        | .outcome o => ⟨state, [.capture o], .done⟩
        | _ => ⟨state, [], .done⟩⟩]
  budget := 9
  traceLevel := .minimal
  explains := true

/-- **A stage that stops a run leaves the rest of its queue to the next run.** Two texts wait, and
the first one leads to a fault. The second one still waits when the run has ended, and the next run,
before which nothing is submitted, answers it. -/
theorem run_leaves_fault :
    let w := ((⟨[], (), 0⟩ : Worklist Unit).submit (.text "x")).submit (.text "y")
    (stumbling.run w).1 = .crashed "broken" ∧ (stumbling.run w).2.queue ≠ [] ∧
      ∃ r, (stumbling.run (stumbling.run w).2).1 = .report r ∧ r.iterations = 2 ∧
        r.text = "y" := by
  intro w
  exact ⟨rfl, List.cons_ne_nil _ _, _, rfl, rfl, rfl⟩

end Pipeline

end StagedQuery
