import Mathlib.Data.List.Nodup
import Mathlib.Data.List.Perm.Basic
import Mathlib.Data.List.TakeWhile
import StagedQuery.Proofs.Dispatch.Drain

set_option relaxedAutoImplicit false
set_option autoImplicit false

/-!
# A run as the processing of a worklist

A run of a pipeline works off its queue first in, first out. Each job that leaves the queue is
visited once: it goes to the first stage that takes it, or it is rejected. What a stage submits goes
to the end of the queue.

A job that no stage takes is rejected only if its route names as many stages as there are. So a run
may not lose a job as long as every route names stages of the pipeline only, each of them once. New
jobs and successors of other jobs name none.

## Main definitions

* `Visit` — what became of one job that left the queue.
* `Pipeline.visit` — how a pipeline treats one job; `Pipeline.visits` — the visits of a whole run.
* `Job.DeclinedAmong` — a route names stages from a list only, each of them once.
* `Pipeline.WorkedOff` — a report is that of the visits to a worklist.

## Main results

* `Pipeline.step_parts`, `Pipeline.step_visit` — one step of a run is one visit.
* `Pipeline.drain_visits` — so the work on a queue is a sequence of visits.
* `Pipeline.run_workedOff` — every run that gives a report worked off its worklist.
-/

namespace StagedQuery

/-! ## What a stage asks for -/

/-- The job that something emitted puts into the queue, if it does. -/
def Emission.job? (origin : String) : Emission → Option Job
  | .forward job => some job
  | .fresh payload => some (.new payload origin)
  | .capture _ => none

/-- The job of a stage's own that something emitted puts into the queue, if it does: not a new one
for a payload. -/
def Emission.passedOn? : Emission → Option Job
  | .forward job => some job
  | _ => none

/-- The outcome that something emitted captures, if it does. -/
def Emission.outcome? : Emission → Option Outcome
  | .capture outcome => some outcome
  | _ => none

/-- The outcome that a stage ends with if it fails. -/
def Verdict.outcome? {φ : Type} : Verdict φ → Option Outcome
  | .failed message => some (.error message)
  | _ => none

/-- How a stage stops the run, if it does. -/
def Verdict.stop? {φ : Type} : Verdict φ → Option (Stop φ)
  | .done => none
  | .failed _ => none
  | .overrun limit => some (.overrun limit)
  | .crashed fault => some (.crashed fault)

/-- No stage stops a run as if its queue were empty. -/
lemma Verdict.stop?_ne_finished {φ : Type} (v : Verdict φ) : v.stop? ≠ some .finished := by
  cases v <;> simp [Verdict.stop?]

/-- What a stage emits, one thing after the other. -/
lemma Progress.foldl_emit {σ : Type} (origin : String) (emissions : List Emission)
    (w : Progress σ) : emissions.foldl (Progress.emit origin) w =
      ⟨w.queue ++ emissions.filterMap (·.job? origin), w.state,
        w.captured ++ emissions.filterMap Emission.outcome?, w.rejected, w.iterations,
        w.transforms⟩ := by
  induction emissions generalizing w with
  | nil => simp
  | cons e rest ih =>
    rw [List.foldl_cons, ih, List.filterMap_cons, List.filterMap_cons]
    cases e <;> simp [Progress.emit, Emission.job?, Emission.outcome?]

/-! ## Visits -/

/-- What became of one job that left the queue: the job as it was in the queue, the state before it
and the one after stages were asked about it, the stage that took the job if one did, the job as its
route has it then, the jobs that were submitted, the outcomes that were captured, the state after,
and how the run stops if it does. -/
structure Visit (σ φ : Type) where
  job : Job
  before : σ
  asked : σ
  taker : Option (Stage σ φ)
  routed : Job
  submitted : List Job
  captured : List Outcome
  after : σ
  stop : Option (Stop φ)

namespace Visit

variable {σ φ : Type}

/-- The stage that took the job, and the label of the payload. -/
def transform? (v : Visit σ φ) : Option (String × String) :=
  v.taker.map fun s => (s.name, v.job.payload.kind)

/-- The job if no stage took it, and none stopped the run. -/
def rejected? (v : Visit σ φ) : Option Job :=
  if v.taker.isNone && v.stop.isNone then some v.routed else none

/-- The jobs that the stage passed on as they are. -/
def passedOn (v : Visit σ φ) : List Job :=
  v.taker.elim [] fun s => (s.handle v.routed v.asked).emissions.filterMap Emission.passedOn?

end Visit

namespace Pipeline

variable {σ φ : Type} (p : Pipeline σ φ) (origin : String)

/-- How the pipeline treats one job. A stage that takes the job gets it; if it fails, the error
follows what it has submitted before. -/
def visit (job : Job) (state : σ) : Visit σ φ :=
  match offer (job.admitted p.stages.length) state p.stages with
  | ⟨routed, asked, .ok none⟩ => ⟨job, state, asked, none, routed, [], [], asked, none⟩
  | ⟨routed, asked, .error stop⟩ => ⟨job, state, asked, none, routed, [], [], asked, some stop⟩
  | ⟨offered, asked, .ok (some s)⟩ =>
    let handed := p.marked offered s.name
    let reaction := s.handle handed asked
    ⟨job, state, asked, some s, handed,
      reaction.emissions.filterMap (·.job? origin)
        ++ (reaction.verdict.outcome?.map fun o => handed.successor (.outcome o)).toList,
      reaction.emissions.filterMap Emission.outcome?, reaction.state, reaction.verdict.stop?⟩

/-- The visits to a queue, at most `bound`: the front of the queue is visited, and what is submitted
goes to the end. -/
def visitsFrom : (bound : ℕ) → List Job → σ → List (Visit σ φ)
  | 0, _, _ => []
  | _ + 1, [], _ => []
  | bound + 1, job :: rest, state =>
    let v := p.visit origin job state
    v :: match v.stop with
      | none => visitsFrom bound (rest ++ v.submitted) v.after
      | some _ => []

/-- The visits of a run. -/
def visits (w : Worklist σ) : List (Visit σ φ) :=
  p.visitsFrom w.origin p.budget.toNat w.queue w.state

end Pipeline

/-! ## Routes -/

namespace Job

/-- The route of a job names only stages from a list, each of them once. -/
def DeclinedAmong (names : List String) (job : Job) : Prop :=
  job.route.declinedBy ⊆ names ∧ job.route.declinedBy.Nodup

instance (names : List String) (job : Job) : Decidable (job.DeclinedAmong names) :=
  inferInstanceAs (Decidable (_ ∧ _))

variable {names : List String}

/-- A new job names no stage. -/
lemma declinedAmong_new (payload : Payload) (origin : String) :
    (Job.new payload origin).DeclinedAmong names := ⟨List.nil_subset _, List.nodup_nil⟩

/-- A successor of another job names no stage. -/
lemma declinedAmong_successor (job : Job) (payload : Payload) :
    (job.successor payload).DeclinedAmong names := ⟨List.nil_subset _, List.nodup_nil⟩

/-- A stage from the list may decline the job. -/
lemma DeclinedAmong.declined {job : Job} (h : job.DeclinedAmong names) {stage : String}
    (hstage : stage ∈ names) : (job.declined stage).DeclinedAmong names := by
  by_cases hmem : stage ∈ job.route.declinedBy
  · rwa [Job.declined, if_pos (by simpa using hmem)]
  · rw [DeclinedAmong, declined_declinedBy job stage hmem]
    exact ⟨List.append_subset.mpr ⟨h.1, by simpa using hstage⟩,
      List.nodup_append.mpr ⟨h.2, List.nodup_singleton _, by
        rintro a ha b hb rfl
        exact hmem (List.mem_singleton.mp hb ▸ ha)⟩⟩

/-- A stage that declines a job is named by its route. -/
lemma mem_declined (job : Job) (stage : String) :
    stage ∈ (job.declined stage).route.declinedBy := by
  by_cases hmem : stage ∈ job.route.declinedBy
  · rwa [Job.declined, if_pos (by simpa using hmem)]
  · rw [declined_declinedBy job stage hmem]
    simp

/-- A stage that declines a job leaves the stages that its route names. -/
lemma subset_declined (job : Job) (stage : String) :
    job.route.declinedBy ⊆ (job.declined stage).route.declinedBy := by
  by_cases hmem : stage ∈ job.route.declinedBy
  · rw [Job.declined, if_pos (by simpa using hmem)]
    exact List.Subset.refl _
  · rw [declined_declinedBy job stage hmem]
    exact List.subset_append_left _ _

/-- Several stages from the list decline a job: each is named by its route, which names none
twice. -/
lemma DeclinedAmong.declinedByAll {stages : List String} (hstages : stages ⊆ names) {job : Job}
    (h : job.DeclinedAmong names) : (job.declinedByAll stages).DeclinedAmong names ∧
      job.route.declinedBy ++ stages ⊆ (job.declinedByAll stages).route.declinedBy := by
  induction stages generalizing job with
  | nil => exact ⟨h, by simp [Job.declinedByAll]⟩
  | cons stage rest ih =>
    rw [List.cons_subset] at hstages
    obtain ⟨hamong, hsub⟩ := ih hstages.2 (h.declined hstages.1)
    refine ⟨hamong, ?_⟩
    rw [List.append_subset] at hsub ⊢
    exact ⟨List.Subset.trans (subset_declined job stage) hsub.1,
      List.cons_subset.mpr ⟨hsub.1 (mem_declined job stage), hsub.2⟩⟩

/-- **A job that all stages declined** counts as exhausted, whichever of them its route named
before. -/
lemma DeclinedAmong.isExhausted {job : Job} (h : job.DeclinedAmong names) (hnames : names.Nodup) :
    ((job.admitted names.length).declinedByAll names).isExhausted = true := by
  have hadmitted : (job.admitted names.length).DeclinedAmong names := h
  obtain ⟨hamong, hsub⟩ := hadmitted.declinedByAll (List.Subset.refl names)
  have hperm : ((job.admitted names.length).declinedByAll names).route.declinedBy.Perm names :=
    (List.perm_ext_iff_of_nodup hamong.2 hnames).mpr fun name =>
      ⟨fun hname => hamong.1 hname, fun hname => (List.append_subset.mp hsub).2 hname⟩
  rw [Job.isExhausted, decide_eq_true_iff, hperm.length_eq, declinedByAll_stageCount]
  rfl

end Job

/-! ## One step is one visit -/

namespace Pipeline

variable {σ φ : Type} {p : Pipeline σ φ} {origin : String}

/-- One step of a run is one visit, whatever the route of the job, but for the jobs that are
rejected. -/
lemma step_parts (job : Job) (w : Progress σ) : p.step origin job w =
    (⟨w.queue ++ (p.visit origin job w.state).submitted, (p.visit origin job w.state).after,
      w.captured ++ (p.visit origin job w.state).captured, (p.step origin job w).1.rejected,
      w.iterations, w.transforms ++ (p.visit origin job w.state).transform?.toList⟩,
    (p.visit origin job w.state).stop) := by
  have hpayload := offer_payload p.stages (job.admitted p.stages.length) w.state
  rw [step, visit]
  generalize offer (job.admitted p.stages.length) w.state p.stages = offered at hpayload
  obtain ⟨routed, asked, stop | _ | s⟩ := offered
  · simp [Progress.inState, Visit.transform?]
  · dsimp only
    split <;> simp [Progress.inState, Visit.transform?]
  · have hkind : routed.payload = job.payload := hpayload
    simp only [react, Progress.foldl_emit, Progress.inState_state, hkind]
    generalize s.handle (p.marked routed s.name) asked = reaction
    cases reaction.verdict <;>
      simp [Progress.emit, Progress.inState, Verdict.outcome?, Verdict.stop?, Visit.transform?]

/-- A visit rejects the job that no stage took, provided that its route names stages of the pipeline
only, each of them once. -/
lemma step_rejected (hnames : p.names.Nodup) {job : Job} (hjob : job.DeclinedAmong p.names)
    (w : Progress σ) : (p.step origin job w).1.rejected =
      w.rejected ++ (p.visit origin job w.state).rejected?.toList := by
  have hdeclined := offer_declined p.stages (job.admitted p.stages.length) w.state
  rw [step, visit]
  generalize offer (job.admitted p.stages.length) w.state p.stages = offered at hdeclined
  obtain ⟨routed, asked, stop | _ | s⟩ := offered
  · simp [Progress.inState, Visit.rejected?]
  · have hexhausted : routed.isExhausted = true := by
      have h := hjob.isExhausted hnames
      rwa [names, List.length_map, ← hdeclined rfl] at h
    simp [hexhausted, Visit.rejected?]
  · simp only [react, Progress.foldl_emit]
    cases (s.handle (p.marked routed s.name) (w.inState asked).state).verdict <;>
      simp [Progress.emit, Progress.inState, Visit.rejected?]

/-- **One step of a run is one visit**, provided that the route of the job names stages of the
pipeline only, each of them once. -/
lemma step_visit (hnames : p.names.Nodup) {job : Job} (hjob : job.DeclinedAmong p.names)
    (w : Progress σ) : p.step origin job w =
      (⟨w.queue ++ (p.visit origin job w.state).submitted, (p.visit origin job w.state).after,
        w.captured ++ (p.visit origin job w.state).captured,
        w.rejected ++ (p.visit origin job w.state).rejected?.toList, w.iterations,
        w.transforms ++ (p.visit origin job w.state).transform?.toList⟩,
      (p.visit origin job w.state).stop) := by
  rw [step_parts, step_rejected hnames hjob]

/-- A visit is to the job that left the queue. -/
lemma visit_job (job : Job) (state : σ) : (p.visit origin job state).job = job := by
  rw [visit]
  split <;> rfl

/-- A visit begins with the state that the visits before have left. -/
lemma visit_before (job : Job) (state : σ) : (p.visit origin job state).before = state := by
  rw [visit]
  split <;> rfl

/-- No visit stops a run as if its queue were empty. -/
lemma visit_stop_ne_finished (job : Job) (state : σ) :
    (p.visit origin job state).stop ≠ some .finished := by
  have hne := offer_ne_finished p.stages (job.admitted p.stages.length) state
  rw [visit]
  generalize offer (job.admitted p.stages.length) state p.stages = offered at hne
  obtain ⟨routed, asked, stop | _ | s⟩ := offered
  · exact fun h => hne (congrArg Except.error (Option.some.inj h))
  · rintro ⟨⟩
  · exact Verdict.stop?_ne_finished _

/-- If the jobs that a stage passes on have routes as described, so have all jobs that it submits:
new jobs and successors of other jobs name no stage. -/
lemma declinedAmong_of_submitted {names : List String} {job : Job} {state : σ}
    (h : ∀ j ∈ (p.visit origin job state).passedOn, j.DeclinedAmong names) :
    ∀ j ∈ (p.visit origin job state).submitted, j.DeclinedAmong names := by
  intro j hj
  rw [visit] at h hj
  generalize offer (job.admitted p.stages.length) state p.stages = offered at h hj
  obtain ⟨routed, asked, stop | _ | s⟩ := offered
  · cases hj
  · cases hj
  · rcases List.mem_append.mp hj with hj | hj
    · obtain ⟨emission, hemission, hjob⟩ := List.mem_filterMap.mp hj
      cases emission with
      | forward job => exact h j (List.mem_filterMap.mpr ⟨_, hemission, hjob⟩)
      | fresh payload =>
        obtain rfl := Option.some.inj hjob
        exact Job.declinedAmong_new payload origin
      | capture outcome => cases hjob
    · obtain ⟨outcome, -, rfl⟩ := Option.map_eq_some_iff.mp (Option.mem_toList.mp hj)
      exact Job.declinedAmong_successor _ _

/-! ## A run is a sequence of visits -/

/-- Every visit of a run is the visit to its job. -/
lemma eq_visit_of_mem {bound : ℕ} : ∀ {queue : List Job} {state : σ} {v : Visit σ φ},
    v ∈ p.visitsFrom origin bound queue state → v = p.visit origin v.job v.before := by
  induction bound with
  | zero =>
    intro queue state v hv
    cases hv
  | succ bound ih =>
    intro queue state v hv
    cases queue with
    | nil => cases hv
    | cons job rest =>
      rw [visitsFrom] at hv
      rcases List.mem_cons.mp hv with rfl | hv
      · rw [visit_job, visit_before]
      · split at hv
        · exact ih hv
        · cases hv

/-- The visits to a queue in a run that leaves nothing in it: jobs are visited in the order in which
they came into the queue, each visit goes on from the state that the one before left, and the run
has noted just what the visits gave. -/
structure Drained (p : Pipeline σ φ) (origin : String) (w : Progress σ)
    (visits : List (Visit σ φ)) (final : Progress σ) : Prop where
  order : visits.map Visit.job = w.queue ++ visits.flatMap Visit.submitted
  states : visits.map Visit.before ++ [final.state] = w.state :: visits.map Visit.after
  shares : ∀ v ∈ visits, v = p.visit origin v.job v.before ∧ v.stop = none
  progress : final = ⟨[], final.state, w.captured ++ visits.flatMap Visit.captured,
    w.rejected ++ visits.filterMap Visit.rejected?, w.iterations + visits.length,
    w.transforms ++ visits.filterMap Visit.transform?⟩

/-- One visit more in front of others. -/
lemma Drained.cons {job : Job} {rest : List Job} {w final : Progress σ}
    (hqueue : w.queue = job :: rest) (hstop : (p.visit origin job w.state).stop = none)
    {later : List (Visit σ φ)} (h : p.Drained origin
      ⟨rest ++ (p.visit origin job w.state).submitted, (p.visit origin job w.state).after,
        w.captured ++ (p.visit origin job w.state).captured,
        w.rejected ++ (p.visit origin job w.state).rejected?.toList, w.iterations + 1,
        w.transforms ++ (p.visit origin job w.state).transform?.toList⟩ later final) :
    p.Drained origin w (p.visit origin job w.state :: later) final := by
  refine ⟨?_, ?_, ?_, ?_⟩
  · rw [List.map_cons, List.flatMap_cons, visit_job, hqueue, h.order, List.append_assoc,
      List.cons_append]
  · rw [List.map_cons, List.map_cons, List.cons_append, h.states, visit_before]
  · intro v hv
    rcases List.mem_cons.mp hv with rfl | hv
    · rw [visit_job, visit_before]
      exact ⟨rfl, hstop⟩
    · exact h.shares v hv
  · rw [h.progress, List.length_cons, Nat.add_right_comm]
    simp only [List.filterMap_eq_flatMap_toList, List.flatMap_cons, List.append_assoc,
      Nat.add_assoc]

/-- **The work on a queue that ends with it empty** is the sequence of visits to it.

**Proof sketch.** Induction on the budget that is left. The front of the queue is one visit; the
jobs that it submits are among those of which the routes are known. -/
lemma drain_visits (hnames : p.names.Nodup) {fuel : ℕ} : ∀ {w final : Progress σ},
    (∀ job ∈ w.queue, job.DeclinedAmong p.names) →
    (∀ v ∈ p.visitsFrom origin fuel w.queue w.state, ∀ job ∈ v.submitted,
      job.DeclinedAmong p.names) →
    p.drain origin fuel w = (.finished, final) →
    p.Drained origin w (p.visitsFrom origin fuel w.queue w.state) final := by
  induction fuel with
  | zero =>
    rintro ⟨queue, state, captured, rejected, iterations, transforms⟩ final - - hdrain
    cases queue with
    | nil =>
      rw [drain_nil] at hdrain
      obtain rfl := (Prod.mk.inj hdrain).2
      exact ⟨rfl, rfl, by simp [visitsFrom], by simp [visitsFrom]⟩
    | cons job rest =>
      rw [drain_cons_zero] at hdrain
      cases (Prod.mk.inj hdrain).1
  | succ fuel ih =>
    rintro ⟨queue, state, captured, rejected, iterations, transforms⟩ final hqueue hsubmitted hdrain
    cases queue with
    | nil =>
      rw [drain_nil] at hdrain
      obtain rfl := (Prod.mk.inj hdrain).2
      exact ⟨rfl, rfl, by simp [visitsFrom], by simp [visitsFrom]⟩
    | cons job rest =>
      rw [drain_cons_succ, step_visit hnames (hqueue job (by simp))] at hdrain
      rw [visitsFrom] at hsubmitted ⊢
      cases hstop : (p.visit origin job state).stop with
      | some stop =>
        simp only [hstop] at hdrain
        obtain rfl := (Prod.mk.inj hdrain).1
        exact absurd hstop (visit_stop_ne_finished job state)
      | none =>
        simp only [hstop] at hdrain hsubmitted ⊢
        refine Drained.cons rfl hstop
          (ih ?_ (fun v hv => hsubmitted v (List.mem_cons_of_mem _ hv)) hdrain)
        rw [List.forall_mem_append]
        exact ⟨fun j hj => hqueue j (List.mem_cons_of_mem _ hj),
          hsubmitted _ List.mem_cons_self⟩

/-! ## Reports -/

/-- A report is that of the visits to a worklist. -/
structure WorkedOff (p : Pipeline σ φ) (w : Worklist σ) (visits : List (Visit σ φ)) (r : Report)
    (after : Worklist σ) : Prop where
  /-- Jobs leave the queue first in, first out: those that waited, then those that were submitted,
  in the order in which they were. -/
  order : visits.map Visit.job = w.queue ++ visits.flatMap Visit.submitted
  /-- Each visit goes on from the state that the one before left. -/
  states : visits.map Visit.before ++ [after.state] = w.state :: visits.map Visit.after
  /-- Each job goes to the first stage that takes it, or it is rejected if there is none; never
  both. -/
  shares : ∀ v ∈ visits, v.routed.payload = v.job.payload ∧
    ((∃ s, p.stages.find? (·.takes v.job v.before) = some s ∧ v.taker = some s ∧
      v.transform? = some (s.name, v.job.payload.kind) ∧ v.rejected? = none) ∨
    (p.stages.find? (·.takes v.job v.before) = none ∧ v.taker = none ∧ v.transform? = none ∧
      v.rejected? = some v.routed ∧ v.submitted = [] ∧ v.captured = [] ∧ v.after = v.before))
  /-- The stages in front of that one have declined the job. -/
  routes : ∀ v ∈ visits, ∃ offered, v.routed = v.taker.elim offered (p.marked offered ·.name) ∧
    offered = (v.job.admitted p.stages.length).declinedByAll
      ((p.stages.takeWhile fun s => !s.takes v.job v.before).map Stage.name)
  /-- What a stage emits is submitted and captured in order; if the stage fails, its error follows
  as one more outcome. -/
  reactions : ∀ v ∈ visits, ∀ s, v.taker = some s →
    v.after = (s.handle v.routed v.before).state ∧
    v.captured = (s.handle v.routed v.before).emissions.filterMap Emission.outcome? ∧
    (((s.handle v.routed v.before).verdict = .done ∧
      v.submitted = (s.handle v.routed v.before).emissions.filterMap (·.job? w.origin)) ∨
    ∃ message, (s.handle v.routed v.before).verdict = .failed message ∧
      v.submitted = (s.handle v.routed v.before).emissions.filterMap (·.job? w.origin)
        ++ [v.routed.successor (.outcome (.error message))])
  /-- What stages took is noted. -/
  transforms : r.transforms = visits.filterMap Visit.transform?
  /-- What no stage took is noted. -/
  rejected : r.rejected = visits.filterMap Visit.rejected?
  /-- No job is lost between the two. -/
  parted : r.iterations = r.transforms.length + r.rejected.length
  /-- Every job that waited or was submitted has left the queue. -/
  complete : r.iterations = w.queue.length + (visits.flatMap Visit.submitted).length
  /-- The queue is empty. -/
  queue : after.queue = []
  /-- The last outcome that was captured counts, else that of the first rejected job. -/
  result : r.result = (visits.flatMap Visit.captured).getLast?.or (r.rejected.head?.map p.rejection)

/-- What becomes of a job in a visit that lets the run go on, if all stages look at nothing but the
payload: it goes to the first stage that takes it, or it is rejected. -/
lemma visit_shares (hlooks : ∀ s ∈ p.stages, s.LooksAtPayload) {job : Job} {state : σ}
    {v : Visit σ φ} (hv : p.visit origin job state = v) (hstop : v.stop = none) :
    v.asked = state ∧ v.routed.payload = job.payload ∧
    p.stages.find? (·.takes job state) = v.taker ∧
    (∃ offered, v.routed = v.taker.elim offered (p.marked offered ·.name) ∧
      offered = (job.admitted p.stages.length).declinedByAll
        ((p.stages.takeWhile fun s => !s.takes job state).map Stage.name)) ∧
    (v.taker = none → v.submitted = [] ∧ v.captured = [] ∧ v.after = state) := by
  have hwhole : (job.admitted p.stages.length).payload = job.payload := rfl
  obtain ⟨hasked, htaker⟩ := offer_of_looksAtPayload hlooks hwhole state
  have hpayload := offer_payload p.stages (job.admitted p.stages.length) state
  rw [visit] at hv
  rcases hoffer : offer (job.admitted p.stages.length) state p.stages with
    ⟨routed, asked, stop | _ | s⟩ <;> rw [hoffer] at hv hasked htaker hpayload
  · rw [← hv] at hstop
    cases hstop
  · obtain rfl : asked = state := hasked
    obtain ⟨hfind, hrouted⟩ := htaker none rfl
    rw [← hv]
    exact ⟨rfl, hpayload, hfind, ⟨routed, rfl, hrouted⟩, fun _ => ⟨rfl, rfl, rfl⟩⟩
  · obtain rfl : asked = state := hasked
    obtain ⟨hfind, hrouted⟩ := htaker (some s) rfl
    rw [← hv]
    exact ⟨rfl, (marked_payload p routed s.name).trans hpayload, hfind, ⟨routed, rfl, hrouted⟩,
      fun h => by cases h⟩

/-- A visit that lets the run go on has the effect that the stage asks for. -/
lemma visit_reaction {job : Job} {state : σ} {v : Visit σ φ} (hv : p.visit origin job state = v)
    (hstop : v.stop = none) {s : Stage σ φ} (hs : v.taker = some s) {reaction : Reaction σ φ}
    (hreaction : s.handle v.routed v.asked = reaction) :
    v.after = reaction.state ∧ v.captured = reaction.emissions.filterMap Emission.outcome? ∧
    ((reaction.verdict = .done ∧ v.submitted = reaction.emissions.filterMap (·.job? origin)) ∨
    ∃ message, reaction.verdict = .failed message ∧
      v.submitted = reaction.emissions.filterMap (·.job? origin)
        ++ [v.routed.successor (.outcome (.error message))]) := by
  rw [visit] at hv
  rcases hoffer : offer (job.admitted p.stages.length) state p.stages with
    ⟨routed, asked, stop | _ | s'⟩ <;> rw [hoffer] at hv <;> rw [← hv] at hstop hs hreaction ⊢
  · cases hs
  · cases hs
  · obtain rfl := Option.some.inj hs
    simp only at hstop hreaction ⊢
    rw [hreaction] at hstop ⊢
    refine ⟨rfl, rfl, ?_⟩
    cases hverdict : reaction.verdict with
    | done => exact .inl ⟨rfl, by simp [Verdict.outcome?]⟩
    | failed message => exact .inr ⟨message, rfl, by simp [Verdict.outcome?]⟩
    | overrun limit => simp [hverdict, Verdict.stop?] at hstop
    | crashed fault => simp [hverdict, Verdict.stop?] at hstop

/-- Each visit that lets the run go on is noted in one of two ways. -/
lemma length_parts {visits : List (Visit σ φ)} (h : ∀ v ∈ visits, v.stop = none) :
    visits.length = (visits.filterMap Visit.transform?).length
      + (visits.filterMap Visit.rejected?).length := by
  induction visits with
  | nil => rfl
  | cons v rest ih =>
    obtain ⟨hv, hrest⟩ := List.forall_mem_cons.mp h
    rw [List.length_cons, ih hrest]
    cases htaker : v.taker with
    | none => simp [Visit.transform?, Visit.rejected?, htaker, hv, Nat.add_assoc]
    | some s => simp [Visit.transform?, Visit.rejected?, htaker, Nat.add_right_comm]

/-- **A run that gives a report has worked off its worklist.** Let the names of the stages differ,
let the stages look at nothing but the payload when they are asked about a job, and let the routes
of all jobs that wait, and of those that stages pass on, name stages of the pipeline only, each of
them once. Then a run that gives a report has visited all jobs that waited or were submitted, first
in, first out. Each of them went to the first stage that takes it, or was rejected. The report holds
just what the visits gave, and its result is the outcome that was captured last, else that of the
first rejected job. -/
theorem run_workedOff (hnames : p.names.Nodup) (hlooks : ∀ s ∈ p.stages, s.LooksAtPayload)
    {w after : Worklist σ} (hqueue : ∀ job ∈ w.queue, job.DeclinedAmong p.names)
    (hpassed : ∀ v ∈ p.visits w, ∀ job ∈ v.passedOn, job.DeclinedAmong p.names) {r : Report}
    (hrun : p.run w = (.report r, after)) : p.WorkedOff w (p.visits w) r after := by
  have hsubmitted : ∀ v ∈ p.visits w, ∀ job ∈ v.submitted, job.DeclinedAmong p.names := by
    intro v hv
    have hvisit := eq_visit_of_mem hv
    have hjobs := hpassed v hv
    rw [hvisit] at hjobs ⊢
    exact declinedAmong_of_submitted hjobs
  rw [run] at hrun
  rcases hdrain : p.drain w.origin p.budget.toNat (.start w.queue w.state) with ⟨stop, final⟩
  rw [hdrain] at hrun
  obtain ⟨hending, rfl⟩ := Prod.mk.inj hrun
  cases stop with
  | overrun limit => cases hending
  | crashed fault => cases hending
  | finished =>
    obtain rfl := Ending.report.inj hending
    have h : p.Drained w.origin (.start w.queue w.state) (p.visits w) final :=
      drain_visits hnames hqueue hsubmitted hdrain
    have htransforms : final.transforms = (p.visits w).filterMap Visit.transform? := by
      rw [h.progress]
      rfl
    have hrejected : final.rejected = (p.visits w).filterMap Visit.rejected? := by
      rw [h.progress]
      rfl
    have hcaptured : final.captured = (p.visits w).flatMap Visit.captured := by
      rw [h.progress]
      rfl
    have hiterations : final.iterations = (p.visits w).length := by
      rw [h.progress]
      exact Nat.zero_add _
    refine ⟨h.order, h.states, fun v hv => ?_, fun v hv => ?_, fun v hv s hs => ?_, htransforms,
      hrejected, ?_, ?_, ?_, ?_⟩
    · obtain ⟨hvisit, hstop⟩ := h.shares v hv
      obtain ⟨-, hpayload, hfind, -, hnone⟩ := visit_shares hlooks hvisit.symm hstop
      refine ⟨hpayload, ?_⟩
      cases htaker : v.taker with
      | some s =>
        rw [htaker] at hfind
        exact .inl ⟨s, hfind, rfl, by rw [Visit.transform?, htaker]; rfl,
          by rw [Visit.rejected?, htaker]; rfl⟩
      | none =>
        rw [htaker] at hfind
        exact .inr ⟨hfind, rfl, by rw [Visit.transform?, htaker]; rfl,
          by rw [Visit.rejected?, htaker, hstop]; rfl, hnone htaker⟩
    · obtain ⟨hvisit, hstop⟩ := h.shares v hv
      exact (visit_shares hlooks hvisit.symm hstop).2.2.2.1
    · obtain ⟨hvisit, hstop⟩ := h.shares v hv
      have hasked := (visit_shares hlooks hvisit.symm hstop).1
      exact visit_reaction hvisit.symm hstop hs (by rw [hasked])
    · show final.iterations = final.transforms.length + final.rejected.length
      rw [htransforms, hrejected, hiterations, length_parts fun v hv => (h.shares v hv).2]
    · show final.iterations = _
      rw [hiterations, ← List.length_append, ← show _ = w.queue ++ _ from h.order, List.length_map]
    · show final.queue = []
      rw [h.progress]
    · show p.result final = ((p.visits w).flatMap Visit.captured).getLast?.or _
      rw [result, hcaptured]
      cases ((p.visits w).flatMap Visit.captured).getLast? <;> rfl

/-- Two stages: the first one takes a text, passes on a job that the second one is said to have
declined before, and fails; the second one captures outcomes. -/
def faltering : Pipeline Unit Unit where
  stages :=
    [⟨"split", Answer.byPayload fun | .text _ => true | _ => false, fun _ state =>
        ⟨state, [.forward ⟨.value .null, "", ⟨["result"], [], 0, []⟩⟩], .failed "no"⟩⟩,
      ⟨"result", Answer.byPayload fun | .outcome _ => true | _ => false, fun job state =>
        match job.payload with
        | .outcome o => ⟨state, [.capture o], .done⟩
        | _ => ⟨state, [], .done⟩⟩]
  budget := 3
  traceLevel := .minimal
  explains := true

/-- The text that fails there leads to three visits. The job that it passed on is rejected, although
its route named one of the stages before, and the error behind it is the result. -/
theorem run_workedOff_faltering :
    ∃ (w after : Worklist Unit) (r : Report), faltering.run w = (.report r, after) ∧
      faltering.WorkedOff w (faltering.visits w) r after ∧ r.iterations = 3 ∧
      r.rejected.map (·.route.declinedBy) = [["result", "split"]] ∧
      r.result = some (.error "no") := by
  refine ⟨(⟨[], (), 0⟩ : Worklist Unit).submit (.text "x"), _, _, rfl, ?_, rfl, by decide +kernel,
    by decide +kernel⟩
  have hlooks : ∀ s ∈ faltering.stages, s.LooksAtPayload := by
    rintro s (_ | ⟨_, _ | ⟨_, ⟨⟩⟩⟩) <;> exact (Stage.decidesByPayload _ _ _).looksAtPayload
  exact run_workedOff (by decide +kernel) hlooks (by decide +kernel) (by decide +kernel) rfl

end Pipeline

end StagedQuery
