import StagedQuery.Dispatch.Payload
import StagedQuery.Store.Message

/-!
# Jobs

A job is one payload in the queue of a pipeline, with the run that it belongs to and the route that
it took through the stages.

## Main definitions

* `Route` — which stages declined a job, which took it or an ancestor of it, and how many stages
  there were.
* `Job` — a payload, its run and its route.
* `Job.admitted`, `Job.declined`, `Job.taken`, `Job.successor` — the job as it moves on.
* `Job.isExhausted` — whether as many stages declined the job as there are.
* `Job.explanation` — why no stage took the job.
-/

namespace StagedQuery

/-- A record of one stage that took a job: the stage, and the label and preview of the payload. -/
structure RouteRecord where
  stage : String
  kind : String
  preview : String
deriving DecidableEq

/-- The route of a job through the stages. -/
structure Route where
  declinedBy : List String
  takenBy : List String
  stageCount : Int
  history : List RouteRecord
deriving DecidableEq

/-- The route before any stage. -/
def Route.start : Route := ⟨[], [], 0, []⟩

/-- A payload with the run that it belongs to and its route. -/
structure Job where
  payload : Payload
  origin : String
  route : Route

namespace Job

/-- A job at the start of its route. -/
def new (payload : Payload) (origin : String) : Job := ⟨payload, origin, .start⟩

/-- Whether as many stages declined the job as there are stages. -/
def isExhausted (j : Job) : Bool := decide ((j.route.declinedBy.length : Int) = j.route.stageCount)

/-- The job as it enters a pipeline with a number of stages. -/
def admitted (j : Job) (stages : Int) : Job :=
  ⟨j.payload, j.origin, ⟨j.route.declinedBy, j.route.takenBy, stages, j.route.history⟩⟩

/-- The job after a stage declined it; a stage is recorded once. -/
def declined (j : Job) (stage : String) : Job :=
  if j.route.declinedBy.contains stage then j
  else ⟨j.payload, j.origin,
    ⟨j.route.declinedBy ++ [stage], j.route.takenBy, j.route.stageCount, j.route.history⟩⟩

/-- The job after a stage took it, with a record of its payload if that is asked for. -/
def taken (j : Job) (stage : String) (recorded : Bool) : Job :=
  let history := if recorded then
      j.route.history ++ [⟨stage, j.payload.kind, preview routeWidth j.payload⟩]
    else j.route.history
  ⟨j.payload, j.origin,
    ⟨j.route.declinedBy, j.route.takenBy ++ [stage], j.route.stageCount, history⟩⟩

/-- A job that follows from another one: it keeps the run and the stages that took it, and no stage
has declined it yet. -/
def successor (j : Job) (payload : Payload) : Job :=
  ⟨payload, j.origin, ⟨[], j.route.takenBy, 0, j.route.history⟩⟩

/-- One line for each name. -/
def itemLines (names : List String) : List String := names.map ("  - " ++ ·)

/-- Why no stage took the job. -/
def explanation (j : Job) : String :=
  let taken := if j.route.takenBy.isEmpty then []
    else "" :: "Transformed by:" :: itemLines j.route.takenBy
  String.intercalate "\n"
    (["=== UNIT PROCESSING ERROR ===",
        "Input: " ++ preview reportWidth j.payload,
        "Run ID: " ++ j.origin,
        "Stages attempted: " ++ intText j.route.stageCount,
        "Declined by:"]
      ++ itemLines j.route.declinedBy ++ taken
      ++ ["", "Suggestion: check the statement syntax."])

end Job

end StagedQuery
