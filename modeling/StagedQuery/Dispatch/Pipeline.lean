import StagedQuery.Dispatch.Report

/-!
# Pipelines

A pipeline is a list of stages that work off a queue of jobs. The stages are asked in order about
each job that leaves the queue; the first one that does not decline the job takes it, and may put
further jobs into the queue and capture outcomes. A job that every stage declines is rejected. A run
ends when the queue is empty, when more jobs would leave the queue than the budget of the pipeline
allows, or when a stage stops it, be it asked about a job or at work on one.

## Main definitions

* `Stage` — what a stage answers when it is asked about a job, and what it does with one.
* `Answer` — what a stage says of a job; `Answer.byPayload` looks at nothing but the payload.
* `Reaction` — what a stage does: the state after it, what it emits, and how it ends.
* `Pipeline` — the stages with the budget, the level of tracing and the form of rejections.
* `Pipeline.offer` — what comes of asking the stages about a job.
* `Pipeline.step`, `Pipeline.drain`, `Pipeline.run` — one job, all jobs, and a whole run.

## Design

A stage is asked about the whole job, with the stages before it that declined the job in its route.
Its answer may depend on the state, change the state, and stop the run.

`Pipeline.drain` keeps its bookkeeping in a `Progress` that it gives back whatever way it ends, so
that a run that was cut off can be compared with one that was not.
-/

namespace StagedQuery

/-! ## Stages -/

/-- How much of the routes of jobs is kept: nothing of the stages that took them, their names, or
also labels and previews of the payloads. -/
inductive TraceLevel where
  | none
  | minimal
  | detailed
deriving DecidableEq

/-- What a stage emits: a job as it is, a payload as a new job of the run, or an outcome of the
run. -/
inductive Emission where
  | forward (job : Job)
  | fresh (payload : Payload)
  | capture (outcome : Outcome)

/-- How a stage ends: normally, with an error that becomes an outcome, or in one of two ways that
end the run. -/
inductive Verdict (φ : Type) where
  | done
  | failed (message : String)
  | overrun (limit : Int)
  | crashed (fault : φ)

/-- What a stage does with a job: the state after it, what it emits in order, and how it ends. -/
structure Reaction (σ φ : Type) where
  state : σ
  emissions : List Emission
  verdict : Verdict φ

/-- What a stage answers when it is asked about a job: it takes the job, it declines it, or it ends
the run in one of two ways. -/
inductive Answer (φ : Type) where
  | takes
  | declines
  | overrun (limit : Int)
  | crashed (fault : φ)

/-- The answer by the payload alone: the job is taken if its payload passes a test. -/
def Answer.byPayload {σ φ : Type} (accepts : Payload → Bool) (job : Job) (state : σ) :
    σ × Answer φ :=
  (state, if accepts job.payload then .takes else .declines)

/-- A stage: its name, what it answers when it is asked about a job, with the state after that, and
what it does with a job that it takes. -/
structure Stage (σ φ : Type) where
  name : String
  ask : Job → σ → σ × Answer φ
  handle : Job → σ → Reaction σ φ

/-! ## Pipelines -/

/-- Stages in order, the number of jobs that may leave the queue in one run, the level of tracing,
and whether a rejection is explained in full. -/
structure Pipeline (σ φ : Type) where
  stages : List (Stage σ φ)
  budget : Int
  traceLevel : TraceLevel
  explains : Bool

/-- A stage whose name is that of an earlier one. -/
structure RepeatedStage where
  name : String
deriving DecidableEq

/-- The message of a repeated stage. -/
def RepeatedStage.message (e : RepeatedStage) : String :=
  "Stage name already registered: " ++ e.name

namespace Pipeline

variable {σ φ : Type}

/-- The names of the stages. -/
def names (p : Pipeline σ φ) : List String := p.stages.map Stage.name

/-- The pipeline with a stage added after the others. -/
def register (p : Pipeline σ φ) (s : Stage σ φ) : Except RepeatedStage (Pipeline σ φ) :=
  if p.names.contains s.name then .error ⟨s.name⟩
  else .ok ⟨p.stages ++ [s], p.budget, p.traceLevel, p.explains⟩

end Pipeline

/-! ## Runs -/

/-- A run on its way: the queue, the state of the stages, and the bookkeeping. -/
structure Progress (σ : Type) where
  queue : List Job
  state : σ
  captured : List Outcome
  rejected : List Job
  iterations : Nat
  transforms : List (String × String)

namespace Progress

variable {σ : Type}

/-- A run that has not begun. -/
def start (queue : List Job) (state : σ) : Progress σ := ⟨queue, state, [], [], 0, []⟩

/-- The run with the stages in another state. -/
def inState (w : Progress σ) (state : σ) : Progress σ :=
  ⟨w.queue, state, w.captured, w.rejected, w.iterations, w.transforms⟩

/-- The run after something was emitted by a stage; new jobs belong to the run `origin`. -/
def emit (origin : String) (w : Progress σ) : Emission → Progress σ
  | .forward job =>
    ⟨w.queue ++ [job], w.state, w.captured, w.rejected, w.iterations, w.transforms⟩
  | .fresh payload =>
    ⟨w.queue ++ [.new payload origin], w.state, w.captured, w.rejected, w.iterations, w.transforms⟩
  | .capture outcome =>
    ⟨w.queue, w.state, w.captured ++ [outcome], w.rejected, w.iterations, w.transforms⟩

end Progress

/-- How a run stops: with an empty queue, or in one of the two ways that give no report. -/
inductive Stop (φ : Type) where
  | finished
  | overrun (limit : Int)
  | crashed (fault : φ)

/-- The message of a run that would take more jobs than its limit. -/
def overrunMessage (limit : Int) : String :=
  "Dispatcher exceeded maximum iterations (" ++ intText limit
    ++ "). Possible infinite loop detected."

/-- What comes of asking stages about a job: the job as the last of them was asked about it, the
state after that, and the stage that takes the job if one does, or how one of them stops the run. -/
structure Offer (σ φ : Type) where
  job : Job
  state : σ
  taker : Except (Stop φ) (Option (Stage σ φ))

namespace Pipeline

variable {σ φ : Type}

/-- Asks stages in order about a job, until one of them takes it or stops the run. Each stage that
declines the job is noted in its route. -/
def offer (job : Job) (state : σ) : List (Stage σ φ) → Offer σ φ
  | [] => ⟨job, state, .ok none⟩
  | s :: rest =>
    match s.ask job state with
    | (state, .takes) => ⟨job, state, .ok (some s)⟩
    | (state, .declines) => offer (job.declined s.name) state rest
    | (state, .overrun limit) => ⟨job, state, .error (.overrun limit)⟩
    | (state, .crashed fault) => ⟨job, state, .error (.crashed fault)⟩

/-- The job as a stage gets it. -/
def marked (p : Pipeline σ φ) (job : Job) (stage : String) : Job :=
  match p.traceLevel with
  | .none => job
  | .minimal => job.taken stage false
  | .detailed => job.taken stage true

/-- The run after a stage took a job, and how the run stops if it does. -/
def react (p : Pipeline σ φ) (origin : String) (job : Job) (s : Stage σ φ) (w : Progress σ) :
    Progress σ × Option (Stop φ) :=
  let marked := p.marked job s.name
  let reaction := s.handle marked w.state
  let noted : Progress σ := ⟨w.queue, reaction.state, w.captured, w.rejected, w.iterations,
    w.transforms ++ [(s.name, job.payload.kind)]⟩
  let after := reaction.emissions.foldl (Progress.emit origin) noted
  match reaction.verdict with
  | .done => (after, none)
  | .failed message =>
    (after.emit origin (.forward (marked.successor (.outcome (.error message)))), none)
  | .overrun limit => (after, some (.overrun limit))
  | .crashed fault => (after, some (.crashed fault))

/-- The run after one job, and how the run stops if it does. -/
def step (p : Pipeline σ φ) (origin : String) (job : Job) (w : Progress σ) :
    Progress σ × Option (Stop φ) :=
  match offer (job.admitted p.stages.length) w.state p.stages with
  | ⟨job, state, .ok (some s)⟩ => p.react origin job s (w.inState state)
  | ⟨job, state, .ok none⟩ =>
    if job.isExhausted then
      (⟨w.queue, state, w.captured, w.rejected ++ [job], w.iterations, w.transforms⟩, none)
    else (w.inState state, none)
  | ⟨_, state, .error stop⟩ => (w.inState state, some stop)

/-- Works off the queue; at most `fuel` jobs leave it, and if more would, it is emptied. -/
def drain (p : Pipeline σ φ) (origin : String) : (fuel : Nat) → Progress σ → Stop φ × Progress σ
  | fuel, w =>
    match w.queue, fuel with
    | [], _ => (.finished, w)
    | _ :: _, 0 =>
      (.overrun p.budget, ⟨[], w.state, w.captured, w.rejected, w.iterations, w.transforms⟩)
    | job :: rest, fuel + 1 =>
      match p.step origin job
          ⟨rest, w.state, w.captured, w.rejected, w.iterations + 1, w.transforms⟩ with
      | (after, none) => drain p origin fuel after
      | (after, some stop) => (stop, after)

/-- The outcome for a job that no stage took. -/
def rejection (p : Pipeline σ φ) (job : Job) : Outcome :=
  .error (if p.explains then job.explanation else "Invalid SQL syntax")

/-- The outcome of a run: the last that was captured, else that of the first rejected job. -/
def result (p : Pipeline σ φ) (w : Progress σ) : Option Outcome :=
  match w.captured.getLast? with
  | some o => some o
  | none => w.rejected.head?.map p.rejection

/-- The report on a run. -/
def report (p : Pipeline σ φ) (origin : String) (w : Progress σ) : Report :=
  ⟨origin, p.result w, w.rejected, w.iterations, w.transforms⟩

end Pipeline

/-! ## Worklists -/

/-- The name of a run: its number in 32 hexadecimal digits. -/
def runName (run : Nat) : String := String.ofList (Quoted.hex 32 run)

/-- The jobs that wait for a run, the state of the stages, and the number of the next run. -/
structure Worklist (σ : Type) where
  queue : List Job
  state : σ
  run : Nat

namespace Worklist

variable {σ : Type}

/-- The run that jobs submitted now belong to. -/
def origin (w : Worklist σ) : String := runName w.run

/-- The worklist with a job added. -/
def push (w : Worklist σ) (job : Job) : Worklist σ := ⟨w.queue ++ [job], w.state, w.run⟩

/-- The worklist with a payload added as a new job of the next run. -/
def submit (w : Worklist σ) (payload : Payload) : Worklist σ := w.push (.new payload w.origin)

end Worklist

/-- How a run ended: with a report, with more jobs than its limit, or with a fault. -/
inductive Ending (φ : Type) where
  | report (r : Report)
  | overrun (limit : Int)
  | crashed (fault : φ)

/-- A run over the jobs that wait; jobs submitted after it belong to another run. -/
def Pipeline.run {σ φ : Type} (p : Pipeline σ φ) (w : Worklist σ) : Ending φ × Worklist σ :=
  let (stop, after) := p.drain w.origin p.budget.toNat (.start w.queue w.state)
  let ending : Ending φ := match stop with
    | .finished => .report (p.report w.origin after)
    | .overrun limit => .overrun limit
    | .crashed fault => .crashed fault
  (ending, ⟨after.queue, after.state, w.run + 1⟩)

end StagedQuery
