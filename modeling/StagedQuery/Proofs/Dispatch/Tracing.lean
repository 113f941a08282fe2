import StagedQuery.Proofs.Dispatch.Leftovers
import StagedQuery.Proofs.Dispatch.Reordering

set_option relaxedAutoImplicit false
set_option autoImplicit false

/-!
# Tracing observes a run

What the route of a job records of the stages that took it is of no account for the work, as long as
no stage looks at it. So a run at one level of tracing is, with these records erased, the run at any
other level: it ends in the same way, with the same state, captures, bookkeeping and queue, and
rejects the same payloads.

What is recorded is right: if every stage hands on at most one successor of its job, the route of
each job that a stage takes names just the stages that have taken a job so far.

## Main definitions

* `Job.untraced`, `Reaction.untraced`, `Progress.untraced` — jobs, reactions and runs without the
  records of the stages that took a job.
* `Stage.IgnoresTrace` — a stage that does not look at these records.
* `Pipeline.atLevel` — the pipeline with another level of tracing.
* `Stage.HandsOn` — a stage that hands on at most one successor of its job, or captures outcomes.
* `TraceLevel.namesOf`, `TraceLevel.recordsOf` — what routes record at a level.

## Main results

* `Pipeline.step_untraced`, `Pipeline.drain_atLevel` — one job and whole runs, at two levels.
* `Pipeline.lineage` — what the route of a job records when a stage takes it.
* `Pipeline.report_of_captured` — a run that captures an outcome ends with it.
-/

namespace StagedQuery

/-! ## Routes without records -/

/-- The job without what its route records of the stages that took it. -/
def Job.untraced (j : Job) : Job :=
  ⟨j.payload, j.origin, ⟨j.route.declinedBy, [], j.route.stageCount, []⟩⟩

/-- What is emitted, with the job that is forwarded untraced. -/
def Emission.untraced : Emission → Emission
  | .forward job => .forward job.untraced
  | .fresh payload => .fresh payload
  | .capture outcome => .capture outcome

/-- The reaction with the jobs that are forwarded untraced. -/
def Reaction.untraced {σ φ : Type} (r : Reaction σ φ) : Reaction σ φ :=
  ⟨r.state, r.emissions.map Emission.untraced, r.verdict⟩

/-- The run with all of its jobs untraced. -/
def Progress.untraced {σ : Type} (w : Progress σ) : Progress σ :=
  ⟨w.queue.map Job.untraced, w.state, w.captured, w.rejected.map Job.untraced, w.iterations,
    w.transforms⟩

/-- A stage that does not look at what routes record of the stages that took a job, neither when it
is asked about the job nor when it works on it. -/
structure Stage.IgnoresTrace {σ φ : Type} (s : Stage σ φ) : Prop where
  ask : ∀ (job : Job) (state : σ), s.ask job state = s.ask job.untraced state
  handle : ∀ (job : Job) (state : σ),
    (s.handle job state).untraced = (s.handle job.untraced state).untraced

/-- A job that was untraced already stays as it is. -/
@[simp]
lemma Job.untraced_untraced (j : Job) : j.untraced.untraced = j.untraced := rfl

/-- Declining a job has nothing to do with who took it. -/
lemma Job.untraced_declined (j : Job) (stage : String) :
    (j.declined stage).untraced = j.untraced.declined stage := by
  simp only [Job.declined, show j.untraced.route.declinedBy = j.route.declinedBy from rfl]
  split <;> rfl

/-- The jobs that are submitted, untraced. -/
lemma Emission.untraced_jobs (origin : String) (emissions : List Emission) :
    (emissions.filterMap (·.job? origin)).map Job.untraced =
      (emissions.map Emission.untraced).filterMap (·.job? origin) := by
  rw [List.map_filterMap, List.filterMap_map]
  congr 1
  funext e
  cases e <;> rfl

/-- The outcomes that are captured do not depend on routes. -/
lemma Emission.untraced_outcomes (emissions : List Emission) :
    (emissions.map Emission.untraced).filterMap Emission.outcome? =
      emissions.filterMap Emission.outcome? := by
  rw [List.filterMap_map]
  congr 1
  funext e
  cases e <;> rfl

/-- Runs are the same when untraced if they match, with jobs that are the same when untraced. -/
lemma Progress.untraced_eq_iff {σ : Type} {v w : Progress σ} : v.untraced = w.untraced ↔
    v.Matches (fun a b => a.untraced = b.untraced) (fun a b => a.untraced = b.untraced) w := by
  have hjobs : ∀ {l l' : List Job}, List.Forall₂ (fun a b => a.untraced = b.untraced) l l' ↔
      l.map Job.untraced = l'.map Job.untraced := by
    intro l l'
    rw [← List.forall₂_eq_eq_eq, List.forall₂_map_left_iff, List.forall₂_map_right_iff]
  constructor
  · intro h
    obtain ⟨hqueue, hstate, hcaptured, hrejected, hiterations, htransforms⟩ := Progress.mk.inj h
    exact ⟨hjobs.mpr hqueue, hstate, hcaptured, hjobs.mpr hrejected, hiterations, htransforms⟩
  · rintro ⟨hqueue, hstate, hcaptured, hrejected, hiterations, htransforms⟩
    rw [Progress.untraced, Progress.untraced, hjobs.mp hqueue, hstate, hcaptured,
      hjobs.mp hrejected, hiterations, htransforms]

/-! ## Runs at two levels -/

namespace Pipeline

variable {σ φ : Type} {p : Pipeline σ φ} {origin : String}

/-- The pipeline with another level of tracing. -/
def atLevel (p : Pipeline σ φ) (level : TraceLevel) : Pipeline σ φ :=
  ⟨p.stages, p.budget, level, p.explains⟩

/-- What comes of asking stages about an untraced job. -/
lemma offer_untraced {stages : List (Stage σ φ)} (hstages : ∀ s ∈ stages, s.IgnoresTrace)
    (job : Job) (state : σ) : offer job.untraced state stages =
      ⟨(offer job state stages).job.untraced, (offer job state stages).state,
        (offer job state stages).taker⟩ := by
  induction stages generalizing job state with
  | nil => rfl
  | cons s rest ih =>
    obtain ⟨hs, hrest⟩ := List.forall_mem_cons.mp hstages
    rw [offer, offer, ← hs.ask]
    rcases s.ask job state with ⟨after, _ | _ | _ | _⟩
    · rfl
    · rw [← Job.untraced_declined]
      exact ih hrest _ after
    · rfl
    · rfl

/-- Marking a job only adds records to its route. -/
lemma untraced_marked (job : Job) (stage : String) :
    (p.marked job stage).untraced = job.untraced := by
  unfold marked
  split <;> rfl

/-- **A stage that takes a job** does the same at both levels, records apart. -/
lemma react_untraced (level : TraceLevel) {s : Stage σ φ} (hs : s.IgnoresTrace) (job : Job)
    (w : Progress σ) :
    (p.react origin job s w).1.untraced =
        ((p.atLevel level).react origin job.untraced s w.untraced).1.untraced ∧
      (p.react origin job s w).2 =
        ((p.atLevel level).react origin job.untraced s w.untraced).2 := by
  have hreaction : (s.handle (p.marked job s.name) w.state).untraced =
      (s.handle ((p.atLevel level).marked job.untraced s.name) w.state).untraced := by
    rw [hs.handle, hs.handle ((p.atLevel level).marked job.untraced s.name), untraced_marked,
      untraced_marked, Job.untraced_untraced]
  -- an error goes on in a successor of the marked job, which has the records that are erased
  have herror : ∀ o : Outcome, ((p.marked job s.name).successor (.outcome o)).untraced =
      (((p.atLevel level).marked job.untraced s.name).successor (.outcome o)).untraced := by
    intro o
    have horigin : ∀ (q : Pipeline σ φ) (j : Job), (q.marked j s.name).origin = j.origin := by
      intro q j
      unfold marked
      split <;> rfl
    simp only [Job.untraced, Job.successor, horigin]
  simp only [react, Progress.foldl_emit, show w.untraced.state = w.state from rfl]
  generalize s.handle (p.marked job s.name) w.state = r at hreaction
  generalize s.handle ((p.atLevel level).marked job.untraced s.name) w.state = r' at hreaction
  obtain ⟨state, emissions, verdict⟩ := r
  obtain ⟨state', emissions', verdict'⟩ := r'
  obtain ⟨rfl, hemissions, rfl⟩ := Reaction.mk.inj hreaction
  have hjobs : (emissions.filterMap (·.job? origin)).map Job.untraced =
      (emissions'.filterMap (·.job? origin)).map Job.untraced := by
    rw [Emission.untraced_jobs, Emission.untraced_jobs]
    exact congrArg _ hemissions
  have houtcomes : emissions.filterMap Emission.outcome? =
      emissions'.filterMap Emission.outcome? := by
    rw [← Emission.untraced_outcomes emissions, ← Emission.untraced_outcomes emissions']
    exact congrArg _ hemissions
  have hqueue : (w.queue.map Job.untraced).map Job.untraced = w.queue.map Job.untraced := by
    rw [List.map_map]
    rfl
  have hrejected : (w.rejected.map Job.untraced).map Job.untraced =
      w.rejected.map Job.untraced := by
    rw [List.map_map]
    rfl
  cases verdict <;>
    simp [Progress.untraced, Progress.emit, hjobs, houtcomes, hqueue, hrejected, herror,
      show job.untraced.payload = job.payload from rfl]

/-- **One job at two levels**: the runs are the same afterwards, records apart. -/
lemma step_untraced (hstages : ∀ s ∈ p.stages, s.IgnoresTrace) (level : TraceLevel)
    (origin : String) (job : Job) (w : Progress σ) :
    (p.step origin job w).1.untraced =
        ((p.atLevel level).step origin job.untraced w.untraced).1.untraced ∧
      (p.step origin job w).2 = ((p.atLevel level).step origin job.untraced w.untraced).2 := by
  have hmem : ∀ s, (offer (job.admitted p.stages.length) w.state p.stages).taker = .ok (some s) →
      s ∈ p.stages := fun _ => mem_of_offer
  have hoffer : offer (job.untraced.admitted (p.atLevel level).stages.length) w.untraced.state
      (p.atLevel level).stages = _ :=
    offer_untraced hstages (job.admitted p.stages.length) w.state
  rw [step, step, hoffer]
  generalize offer (job.admitted p.stages.length) w.state p.stages = offered at hmem
  obtain ⟨routed, asked, stop | _ | s⟩ := offered
  · simp [Progress.untraced, Progress.inState]
  · have hexhausted : routed.untraced.isExhausted = routed.isExhausted := rfl
    simp only [hexhausted]
    split <;> simp [Progress.untraced, Progress.inState]
  · exact react_untraced level (hstages s (hmem s rfl)) routed (w.inState asked)

/-- **Whole runs at two levels** end in the same way, and are the same in the end, records apart. -/
theorem drain_atLevel (hstages : ∀ s ∈ p.stages, s.IgnoresTrace) (level : TraceLevel)
    (origin : String) (fuel : ℕ) {v w : Progress σ} (h : v.untraced = w.untraced) :
    (p.drain origin fuel v).1 = ((p.atLevel level).drain origin fuel w).1 ∧
      (p.drain origin fuel v).2.untraced = ((p.atLevel level).drain origin fuel w).2.untraced := by
  rw [Progress.untraced_eq_iff] at h ⊢
  refine drain_matches (p := p) (q := p.atLevel level) rfl (fun {a b v w} hjob hmatches => ?_)
    fuel h
  rw [← Progress.untraced_eq_iff] at hmatches ⊢
  -- both steps are compared with the step of the first pipeline from the untraced run
  obtain ⟨hafter, hstop⟩ := step_untraced hstages p.traceLevel origin a v
  obtain ⟨hafter', hstop'⟩ :=
    step_untraced (p := p.atLevel level) hstages p.traceLevel origin b w
  rw [hjob, hmatches] at hafter hstop
  exact ⟨hafter.trans hafter'.symm, hstop.trans hstop'.symm⟩

end Pipeline

/-! ## What routes record -/

/-- The names of stages that a route records at a level, for the transforms that led to a job. -/
def TraceLevel.namesOf (level : TraceLevel) (transforms : List (String × String)) : List String :=
  match level with
  | .none => []
  | .minimal | .detailed => transforms.map Prod.fst

/-- The stages and labels of payloads that a route records at a level. -/
def TraceLevel.recordsOf (level : TraceLevel) (transforms : List (String × String)) :
    List (String × String) :=
  match level with
  | .none | .minimal => []
  | .detailed => transforms

/-- The route of a job records certain transforms, as far as a level asks for it. -/
structure Job.Records (level : TraceLevel) (transforms : List (String × String)) (j : Job) :
    Prop where
  takenBy : j.route.takenBy = level.namesOf transforms
  history : (j.route.history.map fun r => (r.stage, r.kind)) = level.recordsOf transforms

/-- A new job records nothing. -/
lemma Job.records_new (level : TraceLevel) (payload : Payload) (origin : String) :
    (Job.new payload origin).Records level [] := by
  cases level <;> exact ⟨rfl, rfl⟩

/-- A stage that hands on one successor of its job or captures one outcome, or emits nothing. -/
def Stage.HandsOn {σ φ : Type} (s : Stage σ φ) : Prop :=
  ∀ (job : Job) (state : σ),
    ((s.handle job state).verdict = .done ∧
      ((∃ payload, (s.handle job state).emissions = [.forward (job.successor payload)]) ∨
        ∃ o, (s.handle job state).emissions = [.capture o])) ∨
    (s.handle job state).emissions = []

namespace Pipeline

variable {σ φ : Type} {p : Pipeline σ φ} {origin : String}

/-- What a route records after one more stage took the job. -/
lemma records_marked {transforms : List (String × String)} {job : Job}
    (h : job.Records p.traceLevel transforms) (stage : String) :
    (p.marked job stage).Records p.traceLevel (transforms ++ [(stage, job.payload.kind)]) := by
  obtain ⟨htaken, hhistory⟩ := h
  unfold marked
  cases hlevel : p.traceLevel <;> rw [hlevel] at htaken hhistory <;>
    constructor <;>
    simp [Job.taken, TraceLevel.namesOf, TraceLevel.recordsOf, htaken, hhistory]

/-- Stages that are asked about a job add nothing to what its route records. -/
lemma records_offer {transforms : List (String × String)} {job : Job}
    (h : job.Records p.traceLevel transforms) (state : σ) :
    (offer (job.admitted p.stages.length) state p.stages).job.Records p.traceLevel transforms := by
  have hcourse := sameCourse_offer p.stages (job.admitted p.stages.length) state
  exact ⟨hcourse.takenBy.trans h.takenBy, by rw [hcourse.history]; exact h.history⟩

/-- **One visit**: if the route of the job has recorded what led to it, the route that the stage
gets also records the visit. -/
lemma records_visit {transforms : List (String × String)} {job : Job}
    (h : job.Records p.traceLevel transforms) (state : σ)
    (htaker : (p.visit origin job state).taker.isSome) :
    (p.visit origin job state).routed.Records p.traceLevel
      (transforms ++ (p.visit origin job state).transform?.toList) := by
  have hrecords := records_offer h state
  have hpayload := offer_payload p.stages (job.admitted p.stages.length) state
  rw [visit] at htaker ⊢
  generalize offer (job.admitted p.stages.length) state p.stages = offered at *
  obtain ⟨routed, asked, stop | _ | s⟩ := offered
  · cases htaker
  · cases htaker
  · have hmarked := records_marked hrecords s.name
    rwa [show routed.payload = job.payload from hpayload] at hmarked

/-- Only a stage that takes a job captures outcomes. -/
lemma isSome_taker_of_captured {job : Job} {state : σ}
    (h : (p.visit origin job state).captured ≠ []) : (p.visit origin job state).taker.isSome := by
  rw [visit] at h ⊢
  generalize offer (job.admitted p.stages.length) state p.stages = offered at h ⊢
  obtain ⟨routed, asked, stop | _ | s⟩ := offered
  · exact absurd rfl h
  · exact absurd rfl h
  · rfl

/-- A list whose items yield at most one item each yields at most as many. -/
lemma length_flatMap_le {α β : Type} {f : α → List β} {l : List α}
    (h : ∀ a ∈ l, (f a).length ≤ 1) : (l.flatMap f).length ≤ l.length := by
  induction l with
  | nil => rfl
  | cons a l ih =>
    obtain ⟨ha, hl⟩ := List.forall_mem_cons.mp h
    rw [List.flatMap_cons, List.length_append, List.length_cons, Nat.add_comm]
    exact Nat.add_le_add (ih hl) ha

section Lines

variable (hstages : ∀ s ∈ p.stages, s.HandsOn)
include hstages

/-- A visit captures nothing and submits at most one successor of its job, or it captures one
outcome, submits nothing and lets the run go on. -/
lemma visit_handsOn (origin : String) (job : Job) (state : σ) :
    ((p.visit origin job state).captured = [] ∧ ((p.visit origin job state).submitted = [] ∨
      (p.visit origin job state).taker.isSome ∧ ∃ payload, (p.visit origin job state).submitted =
        [(p.visit origin job state).routed.successor payload])) ∨
    ∃ o, (p.visit origin job state).captured = [o] ∧ (p.visit origin job state).submitted = [] ∧
      (p.visit origin job state).stop = none := by
  have hmem : ∀ s, (offer (job.admitted p.stages.length) state p.stages).taker = .ok (some s) →
      s ∈ p.stages := fun _ => mem_of_offer
  rw [visit]
  generalize offer (job.admitted p.stages.length) state p.stages = offered at hmem
  obtain ⟨routed, asked, stop | _ | s⟩ := offered
  · exact .inl ⟨rfl, .inl rfl⟩
  · exact .inl ⟨rfl, .inl rfl⟩
  · dsimp only
    rcases hstages s (hmem s rfl) (p.marked routed s.name) asked with
      ⟨hdone, ⟨payload, hemits⟩ | ⟨o, hemits⟩⟩ | hemits
    · rw [hdone, hemits]
      exact .inl ⟨rfl, .inr ⟨rfl, payload, rfl⟩⟩
    · rw [hdone, hemits]
      exact .inr ⟨o, rfl, rfl, rfl⟩
    · rw [hemits]
      refine .inl ⟨rfl, ?_⟩
      cases (s.handle (p.marked routed s.name) asked).verdict with
      | done | overrun limit | crashed fault => exact .inl rfl
      | failed message => exact .inr ⟨rfl, _, rfl⟩

/-- The visits to a queue of one job: the first one is to this job, and the others to the one that
it submits. -/
lemma visitsFrom_single {bound : ℕ} {job : Job} {state : σ} {u : Visit σ φ}
    {later : List (Visit σ φ)} (h : p.visitsFrom origin bound [job] state = u :: later) :
    u = p.visit origin job state ∧ (later = [] ∨ u.taker.isSome ∧ ∃ n payload,
      later = p.visitsFrom origin n [u.routed.successor payload] u.after) := by
  cases bound with
  | zero => cases h
  | succ n =>
    rw [visitsFrom] at h
    obtain ⟨rfl, hlater⟩ := List.cons.inj h
    refine ⟨rfl, ?_⟩
    cases hstop : (p.visit origin job state).stop with
    | some stop =>
      rw [hstop] at hlater
      exact .inl hlater.symm
    | none =>
      rw [hstop] at hlater
      dsimp only at hlater
      have hempty : (p.visit origin job state).submitted = [] → later = [] := by
        intro hsubmitted
        rw [hsubmitted] at hlater
        rw [← hlater]
        cases n <;> rfl
      rcases visit_handsOn hstages origin job state with
        ⟨-, hsubmitted | ⟨htaker, payload, hsubmitted⟩⟩ | ⟨-, -, hsubmitted, -⟩
      · exact .inl (hempty hsubmitted)
      · rw [hsubmitted] at hlater
        exact .inr ⟨htaker, n, payload, hlater.symm⟩
      · exact .inl (hempty hsubmitted)

/-- **The lineage of a job.** In a run over one new job, the route of each job that a stage takes
records exactly the transforms of the run so far.

**Proof sketch.** Induction on the visits before. Each of them records itself and hands its records
on to the next job. -/
lemma lineage {front : List (Visit σ φ)} : ∀ {bound : ℕ} {job : Job} {state : σ}
    {v : Visit σ φ} {rest : List (Visit σ φ)} {transforms : List (String × String)},
    job.Records p.traceLevel transforms →
    p.visitsFrom origin bound [job] state = front ++ v :: rest → v.taker.isSome →
    v.routed.Records p.traceLevel (transforms ++ (front ++ [v]).filterMap Visit.transform?) := by
  induction front with
  | nil =>
    intro bound job state v rest transforms hjob hvisits htaker
    obtain ⟨rfl, -⟩ := visitsFrom_single hstages hvisits
    rw [List.nil_append, List.filterMap_eq_flatMap_toList, List.flatMap_singleton]
    exact records_visit hjob state htaker
  | cons u front ih =>
    intro bound job state v rest transforms hjob hvisits htaker
    obtain ⟨rfl, hlater | ⟨hfirst, n, payload, hlater⟩⟩ := visitsFrom_single hstages hvisits
    · simp at hlater
    · have hrecords := records_visit hjob state hfirst
      have hhanded : ((p.visit origin job state).routed.successor payload).Records p.traceLevel
          (transforms ++ (p.visit origin job state).transform?.toList) :=
        ⟨hrecords.takenBy, hrecords.history⟩
      have hnext := ih hhanded hlater.symm htaker
      rw [List.append_assoc] at hnext
      rw [List.cons_append, List.filterMap_eq_flatMap_toList, List.flatMap_cons,
        ← List.filterMap_eq_flatMap_toList]
      exact hnext

/-- A visit that captures an outcome is the last one of a run over one job. -/
lemma eq_nil_of_captured {front : List (Visit σ φ)} : ∀ {bound : ℕ} {job : Job} {state : σ}
    {v : Visit σ φ} {rest : List (Visit σ φ)},
    p.visitsFrom origin bound [job] state = front ++ v :: rest → v.captured ≠ [] → rest = [] := by
  induction front with
  | nil =>
    intro bound job state v rest hvisits hcaptured
    cases bound with
    | zero => cases hvisits
    | succ n =>
      rw [visitsFrom] at hvisits
      obtain ⟨rfl, rfl⟩ := List.cons.inj hvisits
      rcases visit_handsOn hstages origin job state with
        ⟨hnone, -⟩ | ⟨o, -, hsubmitted, hstop⟩
      · exact absurd hnone hcaptured
      · rw [hstop, hsubmitted]
        cases n <;> rfl
  | cons u front ih =>
    intro bound job state v rest hvisits hcaptured
    obtain ⟨rfl, hlater | ⟨-, n, payload, hlater⟩⟩ := visitsFrom_single hstages hvisits
    · simp at hlater
    · exact ih hlater.symm hcaptured

/-- **A run over one job that captures an outcome ends with it**: it gives a report with this
outcome. If the job was new, the route of the job that was captured records just the transforms of
the report.

**Proof sketch.** Every visit submits at most one job, and the one that captures submits none. So no
job is left after it, and the run has ended by itself. -/
theorem report_of_captured {w : Worklist σ} {payload : Payload}
    (hqueue : w.queue = [.new payload w.origin]) {v : Visit σ φ} (hv : v ∈ p.visits w)
    (hcaptured : v.captured ≠ []) :
    ∃ r o, (p.run w).1 = .report r ∧ v.captured = [o] ∧ r.result = some o ∧
      v.routed.Records p.traceLevel r.transforms := by
  obtain ⟨left, htraversed, hleaves⟩ :=
    exists_traversed (p := p) w.origin p.budget.toNat (.start w.queue w.state)
  have hvisits : p.visitsFrom w.origin p.budget.toNat (Progress.start w.queue w.state).queue
      (Progress.start w.queue w.state).state = p.visits w := rfl
  rw [hvisits] at htraversed hleaves
  obtain ⟨front, rest, hparts⟩ := List.append_of_mem hv
  have hone : p.visitsFrom w.origin p.budget.toNat [.new payload w.origin] w.state =
      front ++ v :: rest := by
    rw [← hqueue]
    exact hparts
  obtain rfl := eq_nil_of_captured hstages hone hcaptured
  have hlength : ∀ u ∈ p.visits w, u.submitted.length ≤ 1 := by
    intro u hu
    rw [eq_visit_of_mem hu]
    rcases visit_handsOn hstages w.origin u.job u.before with
      ⟨-, h | ⟨-, _, h⟩⟩ | ⟨_, -, h, -⟩ <;> simp [h]
  obtain ⟨o, houtcome, hsubmitted, hstop⟩ :
      ∃ o, v.captured = [o] ∧ v.submitted = [] ∧ v.stop = none := by
    have h := visit_handsOn hstages w.origin v.job v.before
    rw [← eq_visit_of_mem hv] at h
    exact h.resolve_left fun hnone => hcaptured hnone.1
  have htaker : v.taker.isSome := by
    have hvisit := eq_visit_of_mem hv
    rw [hvisit] at hcaptured ⊢
    exact isSome_taker_of_captured hcaptured
  -- One job waited, and each visit took one job and submitted at most one; the last one none.
  have hleft : left = [] := by
    have horder := congrArg List.length htraversed.order
    have hfront : (front.flatMap Visit.submitted).length ≤ front.length :=
      length_flatMap_le fun u hu => hlength u (hparts ▸ List.mem_append_left _ hu)
    simp only [hparts, Progress.start, hqueue, List.flatMap_append, List.flatMap_cons,
      List.flatMap_nil, hsubmitted, List.length_append, List.length_map, List.length_cons,
      List.length_nil] at horder
    exact List.eq_nil_of_length_eq_zero (by omega)
  have hlast : (p.visits w).getLast? = some v := by
    rw [hparts]
    simp
  rw [run_eq, workUnder]
  generalize p.work w.origin p.budget.toNat (.start w.queue w.state) = worked at htraversed hleaves
  obtain ⟨_ | stop, final⟩ := worked
  · exact absurd hleft hleaves.1
  cases stop with
  | overrun limit | crashed fault =>
    obtain ⟨-, u, hu, hstopped⟩ := hleaves
    obtain rfl := Option.some.inj (hlast.symm.trans hu)
    rw [hstop] at hstopped
    cases hstopped
  | finished =>
    have htransforms : final.transforms = (front ++ [v]).filterMap Visit.transform? := by
      rw [htraversed.transforms, hparts]
      rfl
    refine ⟨_, o, rfl, houtcome, ?_, ?_⟩
    · show p.result final = some o
      rw [result, htraversed.captured, hparts, List.flatMap_append, List.flatMap_singleton,
        houtcome, ← List.append_assoc, List.getLast?_concat]
    · show v.routed.Records p.traceLevel final.transforms
      rw [htransforms]
      exact lineage hstages (Job.records_new _ payload w.origin) hone htaker

end Lines

end Pipeline

end StagedQuery
