import StagedQuery.Dispatch.Job

/-!
# Reports

What a run of a pipeline produced.

## Main definitions

* `Report` — the result of a run with its bookkeeping.
* `Report.text`, `Report.summary` — the text of the result, and the bookkeeping in lines.
-/

namespace StagedQuery

/-- What a run produced: the outcome, the jobs that no stage took, the number of jobs that left the
queue, and for each job that a stage took, that stage and the label of the payload. -/
structure Report where
  origin : String
  result : Option Outcome
  rejected : List Job
  iterations : Nat
  transforms : List (String × String)

namespace Report

/-- The text of the result, empty if there is none. -/
def text (r : Report) : String :=
  match r.result with
  | some o => o.render
  | none => ""

/-- Names with their numbers, from one on. -/
def numbered (names : List String) : List String :=
  names.mapIdx fun i name => (i + 1).repr ++ ". " ++ name

/-- Lines under a heading, nothing if there are none. -/
def sectionLines (heading : String) (lines : List String) : List String :=
  if lines.isEmpty then [] else heading :: lines

/-- The bookkeeping of a run in lines, with the names of the stages if they are given. -/
def summary (r : Report) (stages : List String) : String :=
  String.intercalate "\n"
    (["=== Dispatch Report ===",
        "Run ID: " ++ r.origin,
        "Iterations: " ++ r.iterations.repr,
        "Result: " ++ (if r.text.isEmpty then "(none)" else r.text),
        "Rejected units: " ++ r.rejected.length.repr]
      ++ sectionLines "--- Pipeline ---" (numbered stages)
      ++ sectionLines "--- Transforms ---" (r.transforms.map fun t => t.1 ++ " <- " ++ t.2))

end Report

end StagedQuery
