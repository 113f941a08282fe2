import Mathlib.Data.List.Find
import Mathlib.Data.List.Forall2
import StagedQuery.Dispatch.Pipeline

set_option relaxedAutoImplicit false
set_option autoImplicit false

/-!
# One job, and one job after the other

How a pipeline treats a single job: what comes of asking its stages about it, what is recorded of
those that declined it, and how the work on a queue goes on from one job to the next.

## Main definitions

* `Job.declinedByAll` — a job after stages declined it one after the other.
* `Stage.takes`, `Answer.stop?` — what an answer means for the job and for the run.
* `Stage.LooksAtPayload` — a stage whose answer depends on the payload of the job alone.
* `Stage.DecidesByPayload` — such a stage that stops no run when it is asked.
* `Progress.Matches` — runs that have come equally far, up to relations between their jobs.

## Main results

* `Pipeline.offer_spec` — all that can come of asking stages about a job.
* `Pipeline.offer_declined`, `Pipeline.isExhausted_offer` — a new job that no stage takes was
  declined by all of them, in order.
* `Pipeline.offer_of_looksAtPayload`, `Pipeline.offer_taker` — the first stage that takes the
  payload takes the job.
* `Pipeline.drain_nil`, `Pipeline.drain_cons_zero`, `Pipeline.drain_cons_succ` — the work on a
  queue, by the front of the queue and by what is left of the budget.
* `Pipeline.drain_matches` — two pipelines that go in step on one job do so on whole queues.
-/

namespace StagedQuery

/-! ## Jobs that were declined -/

namespace Job

/-- A stage that declines a job leaves its payload. -/
@[simp]
lemma declined_payload (j : Job) (stage : String) : (j.declined stage).payload = j.payload := by
  unfold declined
  split <;> rfl

/-- A stage that declines a job leaves the number of stages in its route. -/
@[simp]
lemma declined_stageCount (j : Job) (stage : String) :
    (j.declined stage).route.stageCount = j.route.stageCount := by
  unfold declined
  split <;> rfl

/-- A stage that declines a job for the first time is recorded behind the others. -/
lemma declined_declinedBy (j : Job) (stage : String) (h : stage ∉ j.route.declinedBy) :
    (j.declined stage).route.declinedBy = j.route.declinedBy ++ [stage] := by
  unfold declined
  rw [if_neg (by simpa using h)]

/-- The job after stages declined it one after the other. -/
def declinedByAll (j : Job) (stages : List String) : Job := stages.foldl declined j

/-- Stages that decline a job leave its payload. -/
@[simp]
lemma declinedByAll_payload (j : Job) (stages : List String) :
    (j.declinedByAll stages).payload = j.payload := by
  induction stages generalizing j with
  | nil => rfl
  | cons stage rest ih => exact (ih _).trans (j.declined_payload stage)

/-- Stages that decline a job leave the number of stages in its route. -/
@[simp]
lemma declinedByAll_stageCount (j : Job) (stages : List String) :
    (j.declinedByAll stages).route.stageCount = j.route.stageCount := by
  induction stages generalizing j with
  | nil => rfl
  | cons stage rest ih => exact (ih _).trans (j.declined_stageCount stage)

/-- Different stages that decline a job for the first time are recorded behind the others, in
order. -/
lemma declinedByAll_declinedBy {stages : List String} (hnames : stages.Nodup) {j : Job}
    (hfresh : ∀ stage ∈ stages, stage ∉ j.route.declinedBy) :
    (j.declinedByAll stages).route.declinedBy = j.route.declinedBy ++ stages := by
  induction stages generalizing j with
  | nil => exact (List.append_nil _).symm
  | cons stage rest ih =>
    rw [List.nodup_cons] at hnames
    have hfirst := j.declined_declinedBy stage (hfresh stage List.mem_cons_self)
    have hlater : ∀ other ∈ rest, other ∉ (j.declined stage).route.declinedBy := by
      intro other hother
      rw [hfirst, List.mem_append, List.mem_singleton]
      rintro (h | rfl)
      · exact hfresh other (List.mem_cons_of_mem _ hother) h
      · exact hnames.1 hother
    rw [declinedByAll, List.foldl_cons, ← declinedByAll, ih hnames.2 hlater, hfirst,
      List.append_assoc, List.singleton_append]

end Job

/-! ## What stages answer -/

/-- How an answer stops the run, if it does. -/
def Answer.stop? {φ : Type} : Answer φ → Option (Stop φ)
  | .takes => none
  | .declines => none
  | .overrun limit => some (.overrun limit)
  | .crashed fault => some (.crashed fault)

/-- No answer stops a run as if its queue were empty. -/
lemma Answer.stop?_ne_finished {φ : Type} (a : Answer φ) : a.stop? ≠ some .finished := by
  cases a <;> simp [Answer.stop?]

namespace Stage

variable {σ φ : Type}

/-- Whether a stage takes a job when it is asked about it. -/
def takes (s : Stage σ φ) (job : Job) (state : σ) : Bool :=
  match (s.ask job state).2 with
  | .takes => true
  | _ => false

/-- A stage that looks at nothing but the payload of a job: its answer depends on the payload alone,
and asking it changes nothing. It may stop the run when it sees certain payloads. -/
def LooksAtPayload (s : Stage σ φ) : Prop :=
  ∃ answer : Payload → Answer φ, ∀ job state, s.ask job state = (state, answer job.payload)

/-- A stage that takes the jobs whose payload passes a test, and declines all others. -/
def DecidesByPayload (s : Stage σ φ) : Prop :=
  ∃ accepts : Payload → Bool, s.ask = Answer.byPayload accepts

/-- A stage that is asked for a test on payloads decides by the payload. -/
lemma decidesByPayload (name : String) (accepts : Payload → Bool)
    (handle : Job → σ → Reaction σ φ) :
    (⟨name, Answer.byPayload accepts, handle⟩ : Stage σ φ).DecidesByPayload := ⟨accepts, rfl⟩

/-- A stage that is asked for a test on payloads takes the jobs whose payload passes it. -/
lemma takes_byPayload (name : String) (accepts : Payload → Bool)
    (handle : Job → σ → Reaction σ φ) (job : Job) (state : σ) :
    (⟨name, Answer.byPayload accepts, handle⟩ : Stage σ φ).takes job state =
      accepts job.payload := by
  simp only [takes, Answer.byPayload]
  cases accepts job.payload <;> rfl

/-- A stage that decides by the payload looks at nothing else. -/
lemma DecidesByPayload.looksAtPayload {s : Stage σ φ} (h : s.DecidesByPayload) :
    s.LooksAtPayload := by
  obtain ⟨accepts, h⟩ := h
  exact ⟨fun payload => if accepts payload then .takes else .declines, fun job state => by
    rw [h]; rfl⟩

/-- A stage that looks at nothing but the payload takes a job whatever its route, in any state. -/
lemma LooksAtPayload.takes_eq {s : Stage σ φ} (h : s.LooksAtPayload) {a b : Job}
    (hpayload : a.payload = b.payload) (state state' : σ) : s.takes a state = s.takes b state' := by
  obtain ⟨answer, h⟩ := h
  rw [takes, takes, h, h, hpayload]

end Stage

/-- The run is in the state that it was put in. -/
@[simp]
lemma Progress.inState_state {σ : Type} (w : Progress σ) (state : σ) :
    (w.inState state).state = state := rfl

namespace Pipeline

variable {σ φ : Type}

/-! ## Which stage takes a job -/

/-- **All that can come of asking stages about a job.** The first stages decline it. Either these
are all of them, or the next one takes the job or stops the run when it is asked about the job, as
it has come through those before.

**Proof sketch.** Induction on the stages. A stage that declines the job is one more of the first
ones. -/
lemma offer_spec (stages : List (Stage σ φ)) (job : Job) (state : σ) : ∃ front rest,
    stages = front ++ rest ∧
      (offer job state stages).job = job.declinedByAll (front.map Stage.name) ∧
      ((rest = [] ∧ (offer job state stages).taker = .ok none) ∨
        ∃ (s : Stage σ φ) (later : List (Stage σ φ)) (before : σ) (answer : Answer φ),
          rest = s :: later ∧
          s.ask (offer job state stages).job before = ((offer job state stages).state, answer) ∧
          ((answer = .takes ∧ (offer job state stages).taker = .ok (some s)) ∨
            ∃ stop, answer.stop? = some stop ∧
              (offer job state stages).taker = .error stop)) := by
  induction stages generalizing job state with
  | nil => exact ⟨[], [], rfl, rfl, .inl ⟨rfl, rfl⟩⟩
  | cons s rest ih =>
    rw [offer]
    rcases hask : s.ask job state with ⟨after, answer⟩
    cases answer with
    | takes =>
      exact ⟨[], s :: rest, rfl, rfl, .inr ⟨s, rest, state, .takes, rfl, hask, .inl ⟨rfl, rfl⟩⟩⟩
    | declines =>
      obtain ⟨front, later, rfl, hjob, hanswer⟩ := ih (job.declined s.name) after
      exact ⟨s :: front, later, rfl, hjob, hanswer⟩
    | overrun limit =>
      exact ⟨[], s :: rest, rfl, rfl,
        .inr ⟨s, rest, state, _, rfl, hask, .inr ⟨.overrun limit, rfl, rfl⟩⟩⟩
    | crashed fault =>
      exact ⟨[], s :: rest, rfl, rfl,
        .inr ⟨s, rest, state, _, rfl, hask, .inr ⟨.crashed fault, rfl, rfl⟩⟩⟩

/-- Asking stages about a job leaves its payload. -/
@[simp]
lemma offer_payload (stages : List (Stage σ φ)) (job : Job) (state : σ) :
    (offer job state stages).job.payload = job.payload := by
  obtain ⟨front, -, -, hjob, -⟩ := offer_spec stages job state
  rw [hjob, Job.declinedByAll_payload]

/-- A job that no stage takes is declined by all stages, in order. -/
lemma offer_declined (stages : List (Stage σ φ)) (job : Job) (state : σ)
    (h : (offer job state stages).taker = .ok none) :
    (offer job state stages).job = job.declinedByAll (stages.map Stage.name) := by
  obtain ⟨front, rest, rfl, hjob, ⟨rfl, -⟩ | ⟨s, _, _, _, -, -, ⟨-, htaker⟩ | ⟨_, -, htaker⟩⟩⟩ :=
    offer_spec stages job state
  · rwa [List.append_nil] at hjob ⊢
  · rw [htaker] at h
    cases h
  · rw [htaker] at h
    cases h

/-- A stage that takes a job is one of those that were asked. -/
lemma mem_of_offer {stages : List (Stage σ φ)} {job : Job} {state : σ} {s : Stage σ φ}
    (h : (offer job state stages).taker = .ok (some s)) : s ∈ stages := by
  obtain ⟨front, rest, rfl, -, ⟨-, htaker⟩ | ⟨t, later, _, _, rfl, -, ⟨-, htaker⟩ |
    ⟨_, -, htaker⟩⟩⟩ := offer_spec stages job state <;> rw [htaker] at h
  · cases h
  · obtain rfl : t = s := by simpa using h
    simp
  · cases h

/-- No stage that is asked stops a run as if its queue were empty. -/
lemma offer_ne_finished (stages : List (Stage σ φ)) (job : Job) (state : σ) :
    (offer job state stages).taker ≠ .error .finished := by
  obtain ⟨-, -, -, -, ⟨-, htaker⟩ | ⟨_, _, _, answer, -, -, ⟨-, htaker⟩ | ⟨stop, hstop, htaker⟩⟩⟩ :=
    offer_spec stages job state <;> rw [htaker] <;> rintro ⟨⟩
  exact answer.stop?_ne_finished hstop

/-- A new job that no stage takes counts as declined by all stages. -/
lemma isExhausted_offer {stages : List (Stage σ φ)} {payload : Payload} {origin : String}
    {state : σ}
    (h : (offer ((Job.new payload origin).admitted stages.length) state stages).taker = .ok none)
    (hnames : (stages.map Stage.name).Nodup) :
    (offer ((Job.new payload origin).admitted stages.length) state stages).job.isExhausted =
      true := by
  rw [offer_declined _ _ _ h, Job.isExhausted, decide_eq_true_iff, Job.declinedByAll_stageCount,
    Job.declinedByAll_declinedBy hnames (by simp [Job.new, Job.admitted, Route.start])]
  simp [Job.new, Job.admitted, Route.start]

/-! ## Stages that look at the payload -/

/-- **If all stages look at nothing but the payload**, asking them changes nothing. If none of them
stops the run, the first one that takes the payload takes the job, as it has come through the stages
before that one.

**Proof sketch.** Induction on the stages. A stage answers the same about a job that other stages
have declined before. -/
lemma offer_of_looksAtPayload {stages : List (Stage σ φ)} (h : ∀ s ∈ stages, s.LooksAtPayload)
    {job whole : Job} (hpayload : job.payload = whole.payload) (state : σ) :
    (offer job state stages).state = state ∧ ∀ taker, (offer job state stages).taker = .ok taker →
      stages.find? (·.takes whole state) = taker ∧ (offer job state stages).job =
        job.declinedByAll ((stages.takeWhile fun s => !s.takes whole state).map Stage.name) := by
  induction stages generalizing job with
  | nil => exact ⟨rfl, fun taker htaker => ⟨Except.ok.inj htaker, rfl⟩⟩
  | cons s rest ih =>
    obtain ⟨hs, hrest⟩ := List.forall_mem_cons.mp h
    have htakes := hs.takes_eq hpayload state state
    obtain ⟨answer, hask⟩ := hs
    rw [Stage.takes, hask] at htakes
    rw [offer, List.find?_cons, List.takeWhile_cons, ← htakes, hask]
    cases answer job.payload with
    | takes => exact ⟨rfl, fun taker htaker => ⟨Except.ok.inj htaker, rfl⟩⟩
    | declines => exact ih hrest ((job.declined_payload s.name).trans hpayload)
    | overrun limit | crashed fault => exact ⟨rfl, fun taker htaker => by cases htaker⟩

/-- **If all stages decide by the payload**, the first one that takes the payload takes the job. -/
lemma offer_taker {stages : List (Stage σ φ)} (h : ∀ s ∈ stages, s.DecidesByPayload)
    {job whole : Job} (hpayload : job.payload = whole.payload) (state : σ) :
    (offer job state stages).taker = .ok (stages.find? (·.takes whole state)) := by
  obtain ⟨-, htaker⟩ :=
    offer_of_looksAtPayload (fun s hs => (h s hs).looksAtPayload) hpayload state
  obtain ⟨front, rest, hparts, -, ⟨-, hoffer⟩ | ⟨s, later, before, answer, rfl, hask, hanswer⟩⟩ :=
    offer_spec stages job state
  · rw [(htaker none hoffer).1, hoffer]
  · rcases hanswer with ⟨-, hoffer⟩ | ⟨stop, hstop, -⟩
    · rw [(htaker (some s) hoffer).1, hoffer]
    · -- a test has two answers, and neither of them stops the run
      obtain ⟨accepts, hs⟩ := h s (by simp [hparts])
      rw [hs, Answer.byPayload] at hask
      obtain rfl := (Prod.mk.inj hask).2
      split at hstop <;> cases hstop

/-- Marking a job leaves its payload. -/
@[simp]
lemma marked_payload (p : Pipeline σ φ) (job : Job) (stage : String) :
    (p.marked job stage).payload = job.payload := by
  unfold marked
  split <;> rfl

/-! ## The work on a queue -/

variable (p : Pipeline σ φ) (origin : String)

/-- With an empty queue the work ends. -/
lemma drain_nil (fuel : ℕ) (state : σ) (captured : List Outcome) (rejected : List Job)
    (iterations : ℕ) (transforms : List (String × String)) :
    p.drain origin fuel ⟨[], state, captured, rejected, iterations, transforms⟩ =
      (.finished, ⟨[], state, captured, rejected, iterations, transforms⟩) := by
  cases fuel <;> rfl

/-- Without any budget left, the jobs that wait are given up. -/
lemma drain_cons_zero (job : Job) (rest : List Job) (state : σ) (captured : List Outcome)
    (rejected : List Job) (iterations : ℕ) (transforms : List (String × String)) :
    p.drain origin 0 ⟨job :: rest, state, captured, rejected, iterations, transforms⟩ =
      (.overrun p.budget, ⟨[], state, captured, rejected, iterations, transforms⟩) := rfl

/-- With budget left, the front of the queue is worked on first. -/
lemma drain_cons_succ (fuel : ℕ) (job : Job) (rest : List Job) (state : σ)
    (captured : List Outcome) (rejected : List Job) (iterations : ℕ)
    (transforms : List (String × String)) :
    p.drain origin (fuel + 1) ⟨job :: rest, state, captured, rejected, iterations, transforms⟩ =
      match p.step origin job ⟨rest, state, captured, rejected, iterations + 1, transforms⟩ with
      | (after, none) => p.drain origin fuel after
      | (after, some stop) => (stop, after) := rfl

end Pipeline

/-! ## Two pipelines in step -/

/-- Runs that have come equally far: the jobs that wait and the jobs that were rejected are related
one by one, and all else is the same. -/
structure Progress.Matches {σ : Type} (waiting rejection : Job → Job → Prop) (v w : Progress σ) :
    Prop where
  queue : List.Forall₂ waiting v.queue w.queue
  state : v.state = w.state
  captured : v.captured = w.captured
  rejected : List.Forall₂ rejection v.rejected w.rejected
  iterations : v.iterations = w.iterations
  transforms : v.transforms = w.transforms

/-- **Pipelines that go in step on one job do so on whole queues**: their runs end in the same way,
having come equally far.

**Proof sketch.** Induction on the budget, one job at a time. -/
lemma Pipeline.drain_matches {σ φ : Type} {p q : Pipeline σ φ} {origin : String}
    {waiting rejection : Job → Job → Prop} (hbudget : p.budget = q.budget)
    (hstep : ∀ {a b : Job} {v w : Progress σ}, waiting a b → v.Matches waiting rejection w →
      (p.step origin a v).1.Matches waiting rejection (q.step origin b w).1 ∧
        (p.step origin a v).2 = (q.step origin b w).2) (fuel : ℕ) :
    ∀ {v w : Progress σ}, v.Matches waiting rejection w →
      (p.drain origin fuel v).1 = (q.drain origin fuel w).1 ∧
        (p.drain origin fuel v).2.Matches waiting rejection (q.drain origin fuel w).2 := by
  induction fuel with
  | zero =>
    rintro ⟨queue, state, captured, rejected, iterations, transforms⟩ w hmatches
    obtain ⟨hqueue, rfl, rfl, hrejected, rfl, rfl⟩ := hmatches
    rcases w with ⟨queue', _, _, rejected', _, _⟩
    dsimp only at hqueue hrejected ⊢
    cases hqueue with
    | nil =>
      rw [drain_nil, drain_nil]
      exact ⟨rfl, .nil, rfl, rfl, hrejected, rfl, rfl⟩
    | cons hjob hrest =>
      rw [drain_cons_zero, drain_cons_zero, hbudget]
      exact ⟨rfl, .nil, rfl, rfl, hrejected, rfl, rfl⟩
  | succ fuel ih =>
    rintro ⟨queue, state, captured, rejected, iterations, transforms⟩ w hmatches
    obtain ⟨hqueue, rfl, rfl, hrejected, rfl, rfl⟩ := hmatches
    rcases w with ⟨queue', state, captured, rejected', iterations, transforms⟩
    dsimp only at hqueue hrejected ⊢
    cases hqueue with
    | nil =>
      rw [drain_nil, drain_nil]
      exact ⟨rfl, .nil, rfl, rfl, hrejected, rfl, rfl⟩
    | @cons a b rest rest' hjob hrest =>
      rw [drain_cons_succ, drain_cons_succ]
      obtain ⟨hafter, hstop⟩ := hstep hjob
        (v := ⟨rest, state, captured, rejected, iterations + 1, transforms⟩)
        (w := ⟨rest', state, captured, rejected', iterations + 1, transforms⟩)
        ⟨hrest, rfl, rfl, hrejected, rfl, rfl⟩
      generalize p.step origin a
        ⟨rest, state, captured, rejected, iterations + 1, transforms⟩ = next at hafter hstop ⊢
      generalize q.step origin b
        ⟨rest', state, captured, rejected', iterations + 1, transforms⟩ = next' at hafter hstop ⊢
      obtain ⟨after, stop⟩ := next
      obtain ⟨after', stop'⟩ := next'
      obtain rfl : stop = stop' := hstop
      cases stop with
      | none => exact ih hafter
      | some stop => exact ⟨rfl, hafter⟩

end StagedQuery
