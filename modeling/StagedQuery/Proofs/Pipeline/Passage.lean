import Mathlib.Data.Int.Notation
import StagedQuery.Proofs.Pipeline.Stages

set_option relaxedAutoImplicit false
set_option autoImplicit false

/-!
# The passage of a payload through the standard pipeline

The queue of the standard pipeline never holds more than one job: each stage makes at most one job
out of the one that it took. What becomes of a text is therefore one chain of payloads, its
*passage*, and a run with a given budget goes as far along it as the budget allows.

## Main definitions

* `Passage` — the stages that a payload goes through, the session that they leave, and the outcome
  or the fault at the end.

## Main results

* `Pipeline.drain_passage`, `Pipeline.drain_short` — the work on one payload with enough budget
  follows the passage to its end, and with too little budget overruns.
* `Pipeline.drain_unread` — the work on a payload that no stage takes.
* `Pipeline.run_passage`, `Pipeline.run_short`, `Pipeline.run_unread`, `Pipeline.run_zero` — the
  same for whole runs, and the run over a payload that no stage takes.
-/

namespace StagedQuery

/-! ## Passages -/

/-- The passage of a payload from a session: the names of the stages that it goes through, the
session that they leave, and the outcome that is captured at the end, or the fault that ends the
run. -/
inductive Passage (env : Surroundings) :
    Payload → Session → List String → Session → Except Fault Outcome → Prop
  | capture (o : Outcome) (s : Session) :
    Passage env (.outcome o) s [resultStage.name] s (.ok o)
  | pass {p q : Payload} {s after : Session} {name : String} {a : Advance} {names : List String}
    {r : Except Fault Outcome} (h : p.advance? env s = some (name, a)) (hq : a.follower = .ok q)
    (c : Passage env q a.session names after r) : Passage env p s (name :: names) after r
  | crash {p : Payload} {s : Session} {name : String} {a : Advance} {f : Fault}
    (h : p.advance? env s = some (name, a)) (hf : a.follower = .error f) :
    Passage env p s [name] a.session (.error f)

namespace Pipeline

variable {p : Pipeline Session Fault} {env : Surroundings} (origin : String)

/-- How a run stops at the end of a passage. -/
def stopOf (r : Except Fault Outcome) : Stop Fault :=
  match r with
  | .ok _ => .finished
  | .error f => .crashed f

/-- **A run with enough budget** follows the passage of its only job to the end. It takes one job
out of the queue for each stage, and notes the stages in their order.

**Proof sketch.** Induction on the passage. An outcome is captured by one step, after which the
queue is empty. A payload with an advance is replaced by its follower in one step, and the induction
hypothesis applies with one unit of budget less. -/
lemma drain_passage (hp : p.stages = standardStages env) {payload : Payload} {s after : Session}
    {names : List String} {r : Except Fault Outcome} (c : Passage env payload s names after r) :
    ∀ (job : Job) (fuel : ℕ) (captured : List Outcome) (rejected : List Job) (iterations : ℕ)
      (transforms : List (String × String)), job.payload = payload → names.length ≤ fuel →
      ∃ noted : List (String × String), noted.map Prod.fst = names ∧
        p.drain origin fuel ⟨[job], s, captured, rejected, iterations, transforms⟩ =
          (stopOf r, ⟨[], after, captured ++ r.toOption.toList, rejected,
            iterations + names.length, transforms ++ noted⟩) := by
  induction c with
  | capture o s =>
    intro job fuel captured rejected iterations transforms hjob hfuel
    obtain ⟨fuel, rfl⟩ : ∃ n, fuel = n + 1 := ⟨fuel - 1, by simp at hfuel; omega⟩
    refine ⟨[(resultStage.name, job.payload.kind)], rfl, ?_⟩
    rw [drain_cons_succ, step_capture origin job _ hp o hjob]
    exact drain_nil p origin fuel _ _ _ _ _
  | @pass payload q s after name a names r h hq c ih =>
    intro job fuel captured rejected iterations transforms hjob hfuel
    obtain ⟨fuel, rfl⟩ : ∃ n, fuel = n + 1 := ⟨fuel - 1, by simp at hfuel; omega⟩
    obtain ⟨next, hnext, hstep⟩ := step_advance origin job
      ⟨[], s, captured, rejected, iterations + 1, transforms⟩ hp name a (by rw [hjob, h])
    obtain ⟨noted, hnoted, hdrain⟩ := ih (next q) fuel captured rejected (iterations + 1)
      (transforms ++ [(name, job.payload.kind)]) (hnext q) (by simpa using hfuel)
    refine ⟨(name, job.payload.kind) :: noted, by rw [List.map_cons, hnoted], ?_⟩
    rw [drain_cons_succ, hstep, hq]
    simp only [List.nil_append]
    rw [hdrain]
    simp only [List.length_cons, List.append_assoc, List.cons_append, List.nil_append]
    rw [show iterations + 1 + names.length = iterations + (names.length + 1) by omega]
  | @crash payload s name a f h hf =>
    intro job fuel captured rejected iterations transforms hjob hfuel
    obtain ⟨fuel, rfl⟩ : ∃ n, fuel = n + 1 := ⟨fuel - 1, by simp at hfuel; omega⟩
    obtain ⟨next, hnext, hstep⟩ := step_advance origin job
      ⟨[], s, captured, rejected, iterations + 1, transforms⟩ hp name a (by rw [hjob, h])
    refine ⟨[(name, job.payload.kind)], rfl, ?_⟩
    rw [drain_cons_succ, hstep, hf]
    simp [stopOf, Except.toOption]

/-- **A run with too little budget** for the passage of its only job overruns. -/
lemma drain_short (hp : p.stages = standardStages env) {payload : Payload} {s after : Session}
    {names : List String} {r : Except Fault Outcome} (c : Passage env payload s names after r) :
    ∀ (job : Job) (fuel : ℕ) (captured : List Outcome) (rejected : List Job) (iterations : ℕ)
      (transforms : List (String × String)), job.payload = payload → fuel < names.length →
      (p.drain origin fuel ⟨[job], s, captured, rejected, iterations, transforms⟩).1 =
        .overrun p.budget := by
  induction c with
  | capture o s =>
    intro job fuel captured rejected iterations transforms hjob hfuel
    obtain rfl : fuel = 0 := by simpa using hfuel
    rw [drain_cons_zero]
  | @pass payload q s after name a names r h hq c ih =>
    intro job fuel captured rejected iterations transforms hjob hfuel
    rcases fuel with _ | fuel
    · rw [drain_cons_zero]
    · obtain ⟨next, hnext, hstep⟩ := step_advance origin job
        ⟨[], s, captured, rejected, iterations + 1, transforms⟩ hp name a (by rw [hjob, h])
      rw [drain_cons_succ, hstep, hq]
      exact ih (next q) fuel _ _ _ _ (hnext q) (by simpa using hfuel)
  | @crash payload s name a f h hf =>
    intro job fuel captured rejected iterations transforms hjob hfuel
    obtain rfl : fuel = 0 := by simpa using hfuel
    rw [drain_cons_zero]

/-- **A run over a payload that no stage takes** rejects its only job. -/
lemma drain_unread (hp : p.stages = standardStages env) {payload : Payload}
    (h : payload.taker? env = none) (s : Session) {fuel : ℕ} (hfuel : 1 ≤ fuel) :
    ∃ job : Job, job.payload = payload ∧ job.route.declinedBy = p.names ∧
      p.drain origin fuel ⟨[.new payload origin], s, [], [], 0, []⟩ =
        (.finished, ⟨[], s, [], [job], 1, []⟩) := by
  obtain ⟨fuel, rfl⟩ : ∃ n, fuel = n + 1 := ⟨fuel - 1, by omega⟩
  obtain ⟨job, hpay, hroute, hstep⟩ := step_reject origin ⟨[], s, [], [], 1, []⟩ hp payload h
  refine ⟨job, hpay, hroute, ?_⟩
  rw [drain_cons_succ]
  simp only [Nat.zero_add]
  rw [hstep]
  exact drain_nil p origin fuel _ _ _ _ _

/-! ## Whole runs -/

/-- A payload that is submitted to an empty queue is the only job of the run. -/
lemma start_submit {w : Worklist Session} (hw : w.queue = []) (payload : Payload) :
    Progress.start (w.submit payload).queue (w.submit payload).state =
      ⟨[.new payload w.origin], w.state, [], [], 0, []⟩ := by
  simp [Worklist.submit, Worklist.push, Progress.start, hw]

/-- Submitting a payload leaves the name of the next run. -/
lemma origin_submit (w : Worklist Session) (payload : Payload) :
    (w.submit payload).origin = w.origin := rfl

/-- How a run ends at the end of a passage: with a report on it, or with its fault. -/
def endingOf (origin : String) (names : List String) (noted : List (String × String))
    (r : Except Fault Outcome) : Ending Fault :=
  match r with
  | .ok o => .report ⟨origin, some o, [], names.length, noted⟩
  | .error f => .crashed f

/-- **A run over one payload** with enough budget ends as its passage does, and leaves an empty
queue. -/
lemma run_passage (hp : p.stages = standardStages env) {payload : Payload} {w : Worklist Session}
    {after : Session} {names : List String} {r : Except Fault Outcome}
    (c : Passage env payload w.state names after r) (hw : w.queue = [])
    (hb : (names.length : ℤ) ≤ p.budget) :
    ∃ noted : List (String × String), noted.map Prod.fst = names ∧
      p.run (w.submit payload) = (endingOf w.origin names noted r, ⟨[], after, w.run + 1⟩) := by
  obtain ⟨noted, hnoted, hdrain⟩ := drain_passage w.origin hp c (.new payload w.origin)
    p.budget.toNat [] [] 0 [] rfl (by omega)
  refine ⟨noted, hnoted, ?_⟩
  rw [run, start_submit hw, origin_submit, hdrain]
  cases r <;> simp [stopOf, endingOf, report, result, Except.toOption, Worklist.submit,
    Worklist.push]

/-- **A run over one payload** with too little budget overruns. -/
lemma run_short (hp : p.stages = standardStages env) {payload : Payload} {w : Worklist Session}
    {after : Session} {names : List String} {r : Except Fault Outcome}
    (c : Passage env payload w.state names after r) (hw : w.queue = [])
    (hb : p.budget < (names.length : ℤ)) : (p.run (w.submit payload)).1 = .overrun p.budget := by
  have hlen : 0 < names.length := by cases c <;> simp
  have hdrain := drain_short w.origin hp c (.new payload w.origin) p.budget.toNat [] [] 0 [] rfl
    (by omega)
  rw [run, start_submit hw, origin_submit]
  dsimp only
  rw [hdrain]

/-- **A run over a payload that no stage takes** rejects it: the result is the outcome of the
rejection, and the session stays as it was. -/
lemma run_unread (hp : p.stages = standardStages env) (payload : Payload) {w : Worklist Session}
    (h : payload.taker? env = none) (hw : w.queue = []) (hb : 1 ≤ p.budget) :
    ∃ job : Job, p.run (w.submit payload) =
      (.report ⟨w.origin, some (p.rejection job), [job], 1, []⟩, ⟨[], w.state, w.run + 1⟩) := by
  have hfuel : 1 ≤ p.budget.toNat := by omega
  obtain ⟨job, -, -, hdrain⟩ := drain_unread w.origin hp h w.state hfuel
  refine ⟨job, ?_⟩
  rw [run, start_submit hw, origin_submit, hdrain]
  rfl

/-- A run over one payload without any budget overruns and leaves the session as it was. -/
lemma run_zero (payload : Payload) {w : Worklist Session} (hw : w.queue = [])
    (hb : p.budget < 1) :
    p.run (w.submit payload) = (.overrun p.budget, ⟨[], w.state, w.run + 1⟩) := by
  rw [run, start_submit hw, origin_submit, show p.budget.toNat = 0 by omega, drain_cons_zero]
  rfl

end Pipeline

end StagedQuery
