import Mathlib.Data.List.Nodup
import StagedQuery.Pipeline.Standard
import StagedQuery.Proofs.Dispatch.Drain

set_option relaxedAutoImplicit false
set_option autoImplicit false

/-!
# The stages of the standard pipeline, payload by payload

Which stage of the standard pipeline takes a payload, and what becomes of the run when it does.
Every payload but an outcome has at most one continuation, which does not depend on the route of its
job.

## Main definitions

* `StatementKind.opening?` — the kind of statement that a text begins.
* `Operator.next?` — the operator that a selection meets next.
* `Payload.advance?` — the stage that takes a payload, and what it leaves.
* `Advance.follower` — the payload that follows.

## Main results

* `nodup_standardStages` — the stages have different names.
* `decidesByPayload_standardStages` — they look at nothing but the payload of a job.
* `find?_standardStages` — the stage that takes a job, by its payload.
* `handle_standardStages` — a stage makes one job out of another, captures an outcome, or does
  nothing, whatever the route of the job.
* `Pipeline.step_advance`, `Pipeline.step_capture`, `Pipeline.step_reject` — the run after one job.
-/

namespace StagedQuery

/-! ## Which stage takes a payload -/

/-- The kind of statement that a text begins, by its first words. -/
def StatementKind.opening? (text : String) : Option StatementKind :=
  readingOrder.find? (·.opens text)

/-- The operator that a selection meets next. -/
def Operator.next? (s : Selection) : Option Operator := Operator.all.find? (·.accepts s)

/-- The stage of the standard pipeline that takes a payload. -/
def Payload.taker? (env : Surroundings) : Payload → Option (Stage Session Fault)
  | .text s => (StatementKind.opening? s).map readingStage
  | .statement s => some (executionStage env s.kind)
  | .selection s => some (((Operator.next? s).map operatorStage).getD listingStage)
  | .outcome _ => some resultStage
  | .value _ => none

/-- The stages of the standard pipeline have different names. -/
lemma nodup_standardStages (env : Surroundings) :
    ((standardStages env).map Stage.name).Nodup := by
  have h : (standardStages env).map Stage.name = ["create_table.parse", "drop_table.parse",
      "insert.parse", "select.parse", "update.parse", "delete.parse", "save.parse", "load.parse",
      "create_table.execute", "drop_table.execute", "insert.execute", "update.execute",
      "delete.execute", "save.execute", "load.execute", "select.scan", "select.filter",
      "select.order", "select.project", "select.distinct", "select.limit", "select.format",
      "result"] := rfl
  rw [h]
  decide +kernel

/-- The stage that reads statements of a kind takes the texts that begin one. -/
lemma takes_readingStage (kind : StatementKind) (job : Job) (session : Session) :
    (readingStage kind).takes job session =
      match job.payload with
      | .text s => kind.opens s
      | _ => false :=
  Stage.takes_byPayload _ _ _ job session

/-- The stage that executes statements of a kind takes the statements of the kind. -/
lemma takes_executionStage (env : Surroundings) (kind : StatementKind) (job : Job)
    (session : Session) : (executionStage env kind).takes job session =
      match job.payload with
      | .statement s => decide (s.kind = kind)
      | _ => false :=
  Stage.takes_byPayload _ _ _ job session

/-- The stage that applies an operator takes the selections that meet it next. -/
lemma takes_operatorStage (op : Operator) (job : Job) (session : Session) :
    (operatorStage op).takes job session =
      match job.payload with
      | .selection s => op.accepts s
      | _ => false :=
  Stage.takes_byPayload _ _ _ job session

/-- The stage that makes listings takes all selections. -/
lemma takes_listingStage (job : Job) (session : Session) : listingStage.takes job session =
      match job.payload with
      | .selection _ => true
      | _ => false :=
  Stage.takes_byPayload _ _ _ job session

/-- The stage that captures outcomes takes all outcomes. -/
lemma takes_resultStage (job : Job) (session : Session) : resultStage.takes job session =
      match job.payload with
      | .outcome _ => true
      | _ => false :=
  Stage.takes_byPayload _ _ _ job session

/-- The stages of the standard pipeline decide by the payload. -/
lemma decidesByPayload_standardStages (env : Surroundings) :
    ∀ s ∈ standardStages env, s.DecidesByPayload := by
  intro s hs
  simp only [standardStages, List.mem_append, List.mem_map, List.mem_cons, List.not_mem_nil,
    or_false] at hs
  rcases hs with ((⟨kind, -, rfl⟩ | ⟨kind, -, rfl⟩) | ⟨op, -, rfl⟩) | rfl | rfl <;>
    exact Stage.decidesByPayload _ _ _

/-- A search through the stages of the standard pipeline goes through its four parts in order. -/
lemma find?_standardStages_parts (env : Surroundings) (job : Job) (session : Session) :
    (standardStages env).find? (·.takes job session) =
      ((((readingOrder.find? fun k => (readingStage k).takes job session).map readingStage).or
        ((executionOrder.find? fun k => (executionStage env k).takes job session).map
          (executionStage env))).or
        ((Operator.all.find? fun op => (operatorStage op).takes job session).map operatorStage)).or
        ([listingStage, resultStage].find? (·.takes job session)) := by
  simp only [standardStages, List.find?_append, List.find?_map, Function.comp_def]

/-- A search for something that does not exist finds nothing. -/
private lemma find?_never {α : Type} (l : List α) : (l.find? fun _ => false) = none :=
  List.find?_eq_none.mpr (by simp)

/-- The first stage of the standard pipeline that takes a job, by its payload. -/
lemma find?_standardStages (env : Surroundings) (job : Job) (session : Session) :
    (standardStages env).find? (·.takes job session) = job.payload.taker? env := by
  rw [find?_standardStages_parts]
  simp only [takes_readingStage, takes_executionStage, takes_operatorStage, List.find?_cons,
    List.find?_nil, takes_listingStage, takes_resultStage]
  cases job.payload with
  | text s =>
    simp only [find?_never]
    simp [Payload.taker?, StatementKind.opening?]
  | statement s =>
    have hkind : executionOrder.find? (fun k => decide (s.kind = k)) = some s.kind := by
      cases s.kind <;> rfl
    simp only [hkind, find?_never]
    rfl
  | selection s =>
    simp only [find?_never, Payload.taker?, Operator.next?]
    cases Operator.all.find? fun op => op.accepts s <;> rfl
  | outcome o =>
    simp only [find?_never]
    rfl
  | value v =>
    simp only [find?_never]
    rfl

/-! ## What becomes of a payload -/

/-- The stage that takes a payload, and what it leaves: a session, and the next payload or a
failure. An outcome is captured instead, and what no stage takes leads nowhere. -/
def Payload.advance? (env : Surroundings) (session : Session) : Payload → Option (String × Advance)
  | .text s => (StatementKind.opening? s).map fun kind => ((readingStage kind).name,
      ⟨session, ((readStatement kind s).mapError Failure.ofReadError).map .statement⟩)
  | .statement s => some ((executionStage env s.kind).name, s.perform env session)
  | .selection s =>
    match Operator.next? s with
    | some op => some ((operatorStage op).name,
        ⟨session, ((op.apply s).mapError Failure.fault).map .selection⟩)
    | none => some (listingStage.name,
        ⟨session, ((listing s.labels s.rows).mapError Failure.fault).map fun text =>
          .outcome (.ok text)⟩)
  | .outcome _ => none
  | .value _ => none

/-- The payload that follows an advance: an error goes on as an outcome, and a fault ends the
run. -/
def Advance.follower (a : Advance) : Except Fault Payload :=
  match a.result with
  | .ok q => .ok q
  | .error (.error e) => .ok (.outcome (.error e.message))
  | .error (.fault f) => .error f

/-- The stage that takes a payload reacts to a job as its advance says, whatever the route of the
job. -/
lemma handle_of_advance (env : Surroundings) (session : Session) (p : Payload) (name : String)
    (a : Advance) (h : p.advance? env session = some (name, a)) :
    ∃ stage, p.taker? env = some stage ∧ stage.name = name ∧
      ∀ job : Job, job.payload = p → stage.handle job session = a.reaction job := by
  cases p with
  | text s =>
    obtain ⟨kind, hkind, heq⟩ := Option.map_eq_some_iff.mp h
    rw [Prod.mk.injEq] at heq
    obtain ⟨rfl, rfl⟩ := heq
    refine ⟨readingStage kind, by simp [Payload.taker?, hkind], rfl, fun job hjob => ?_⟩
    simp only [readingStage, hjob]
  | statement s =>
    simp only [Payload.advance?, Option.some.injEq, Prod.mk.injEq] at h
    obtain ⟨rfl, rfl⟩ := h
    refine ⟨executionStage env s.kind, rfl, rfl, fun job hjob => ?_⟩
    simp only [executionStage, hjob]
  | selection s =>
    cases hnext : Operator.next? s with
    | some op =>
      simp only [Payload.advance?, hnext, Option.some.injEq, Prod.mk.injEq] at h
      obtain ⟨rfl, rfl⟩ := h
      refine ⟨operatorStage op, by simp [Payload.taker?, hnext], rfl, fun job hjob => ?_⟩
      simp only [operatorStage, hjob]
    | none =>
      simp only [Payload.advance?, hnext, Option.some.injEq, Prod.mk.injEq] at h
      obtain ⟨rfl, rfl⟩ := h
      refine ⟨listingStage, by simp [Payload.taker?, hnext], rfl, fun job hjob => ?_⟩
      simp only [listingStage, hjob]
  | outcome o => simp [Payload.advance?] at h
  | value v => simp [Payload.advance?] at h

/-- What a stage of the standard pipeline does with a payload: it makes an advance, captures an
outcome, or does nothing, and does not look at the route of the job. -/
lemma handle_standardStages {env : Surroundings} {s : Stage Session Fault}
    (hs : s ∈ standardStages env) (payload : Payload) (session : Session) :
    (∃ a : Advance, ∀ job : Job, job.payload = payload →
      s.handle job session = a.reaction job) ∨
    ∃ emissions : List Emission, (emissions = [] ∨ ∃ o, emissions = [.capture o]) ∧
      ∀ job : Job, job.payload = payload → s.handle job session = ⟨session, emissions, .done⟩ := by
  simp only [standardStages, List.mem_append, List.mem_map, List.mem_cons, List.not_mem_nil,
    or_false] at hs
  rcases hs with ((⟨kind, -, rfl⟩ | ⟨kind, -, rfl⟩) | ⟨op, -, rfl⟩) | rfl | rfl
  · cases payload with
    | text s =>
      exact .inl ⟨⟨session, ((readStatement kind s).mapError Failure.ofReadError).map .statement⟩,
        fun job hjob => by simp only [readingStage, hjob]⟩
    | statement | selection | outcome | value =>
      exact .inr ⟨[], .inl rfl, fun job hjob => by simp only [readingStage, hjob, ignored]⟩
  · cases payload with
    | statement s =>
      exact .inl ⟨s.perform env session, fun job hjob => by simp only [executionStage, hjob]⟩
    | text | selection | outcome | value =>
      exact .inr ⟨[], .inl rfl, fun job hjob => by simp only [executionStage, hjob, ignored]⟩
  · cases payload with
    | selection s =>
      exact .inl ⟨⟨session, ((op.apply s).mapError Failure.fault).map .selection⟩,
        fun job hjob => by simp only [operatorStage, hjob]⟩
    | text | statement | outcome | value =>
      exact .inr ⟨[], .inl rfl, fun job hjob => by simp only [operatorStage, hjob, ignored]⟩
  · cases payload with
    | selection s =>
      exact .inl ⟨⟨session, ((listing s.labels s.rows).mapError Failure.fault).map fun text =>
        .outcome (.ok text)⟩, fun job hjob => by simp only [listingStage, hjob]⟩
    | text | statement | outcome | value =>
      exact .inr ⟨[], .inl rfl, fun job hjob => by simp only [listingStage, hjob, ignored]⟩
  · cases payload with
    | outcome o =>
      exact .inr ⟨[.capture o], .inr ⟨o, rfl⟩, fun job hjob => by simp only [resultStage, hjob]⟩
    | text | statement | selection | value =>
      exact .inr ⟨[], .inl rfl, fun job hjob => by simp only [resultStage, hjob, ignored]⟩

/-! ## One job of a run -/

namespace Pipeline

variable {p : Pipeline Session Fault} {env : Surroundings} (origin : String) (job : Job)
  (w : Progress Session)

/-- What comes of asking the stages of the standard pipeline about a job: the stage that takes its
payload takes it, and the session stays as it is. -/
lemma offer_standardStages (hp : p.stages = standardStages env) (session : Session) :
    ∃ declined : Job, declined.payload = job.payload ∧
      offer (job.admitted p.stages.length) session p.stages =
        ⟨declined, session, .ok (job.payload.taker? env)⟩ := by
  have hdecides : ∀ s ∈ p.stages, s.DecidesByPayload := by
    rw [hp]
    exact decidesByPayload_standardStages env
  have hpay := offer_payload p.stages (job.admitted p.stages.length) session
  have hwhole : (job.admitted p.stages.length).payload = job.payload := rfl
  have htaker := offer_taker hdecides hwhole session
  obtain ⟨hstate, -⟩ :=
    offer_of_looksAtPayload (fun s hs => (hdecides s hs).looksAtPayload) hwhole session
  rw [show p.stages.find? (·.takes job session) = job.payload.taker? env by
    rw [hp, find?_standardStages]] at htaker
  rcases hoffer : offer (job.admitted p.stages.length) session p.stages with
    ⟨declined, state, taker⟩
  rw [hoffer] at hpay htaker hstate
  obtain rfl : state = session := hstate
  obtain rfl : taker = _ := htaker
  exact ⟨declined, hpay, rfl⟩

/-- One job goes to the stage that takes its payload. -/
lemma step_taker (hp : p.stages = standardStages env) (stage : Stage Session Fault)
    (h : job.payload.taker? env = some stage) :
    ∃ declined : Job, declined.payload = job.payload ∧
      p.step origin job w = p.react origin declined stage w := by
  obtain ⟨declined, hpay, hoffer⟩ := offer_standardStages job hp w.state
  rw [h] at hoffer
  refine ⟨declined, hpay, ?_⟩
  rw [step, hoffer]
  rfl

/-- **One job with a continuation.** The stage is noted, the session is the one that the stage
leaves, and one job follows with the payload of the advance. A fault stops the run. -/
lemma step_advance (hp : p.stages = standardStages env) (name : String) (a : Advance)
    (h : job.payload.advance? env w.state = some (name, a)) :
    ∃ next : Payload → Job, (∀ q, (next q).payload = q) ∧
      p.step origin job w = match a.follower with
        | .ok q => (⟨w.queue ++ [next q], a.session, w.captured, w.rejected, w.iterations,
            w.transforms ++ [(name, job.payload.kind)]⟩, none)
        | .error f => (⟨w.queue, a.session, w.captured, w.rejected, w.iterations,
            w.transforms ++ [(name, job.payload.kind)]⟩, some (.crashed f)) := by
  obtain ⟨stage, htaker, rfl, hhandle⟩ := handle_of_advance env w.state job.payload name a h
  obtain ⟨declined, hpay, hstep⟩ := step_taker origin job w hp stage htaker
  refine ⟨(p.marked declined stage.name).successor, fun _ => rfl, ?_⟩
  rw [hstep, react, hhandle _ (by rw [marked_payload, hpay]), hpay, Advance.reaction,
    Advance.follower]
  rcases a.result with (e | f) | q <;> rfl

/-- **One outcome** is captured. -/
lemma step_capture (hp : p.stages = standardStages env) (o : Outcome)
    (h : job.payload = .outcome o) :
    p.step origin job w = (⟨w.queue, w.state, w.captured ++ [o], w.rejected, w.iterations,
      w.transforms ++ [(resultStage.name, job.payload.kind)]⟩, none) := by
  obtain ⟨declined, hpay, hstep⟩ := step_taker origin job w hp resultStage (by rw [h]; rfl)
  rw [hstep, react]
  simp only [resultStage, marked_payload, hpay, h, List.foldl_cons, List.foldl_nil, Progress.emit]

/-- **A new job that no stage takes** is rejected, and all stages have declined it, in order. -/
lemma step_reject (hp : p.stages = standardStages env) (payload : Payload)
    (h : payload.taker? env = none) :
    ∃ rejected : Job, rejected.payload = payload ∧ rejected.route.declinedBy = p.names ∧
      p.step origin (.new payload origin) w =
        (⟨w.queue, w.state, w.captured, w.rejected ++ [rejected], w.iterations, w.transforms⟩,
          none) := by
  have hnames : (p.stages.map Stage.name).Nodup := by
    rw [hp]
    exact nodup_standardStages env
  obtain ⟨declined, hpay, hoffer⟩ := offer_standardStages (.new payload origin) hp w.state
  rw [show (Job.new payload origin).payload.taker? env = none from h] at hoffer
  have htaker : (offer ((Job.new payload origin).admitted p.stages.length) w.state
      p.stages).taker = .ok none := by rw [hoffer]
  have hroute := offer_declined _ _ _ htaker
  have hexhausted := isExhausted_offer htaker hnames
  rw [hoffer] at hroute hexhausted
  refine ⟨declined, hpay, ?_, ?_⟩
  · rw [show declined = _ from hroute, Job.declinedByAll_declinedBy hnames
      (by simp [Job.new, Job.admitted, Route.start])]
    rfl
  · rw [step, hoffer]
    simp only [hexhausted, ↓reduceIte]

end Pipeline

end StagedQuery
