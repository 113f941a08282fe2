import StagedQuery.Query.Selection

/-!
# Payloads

What travels through a pipeline: the text of a statement, the statement that was read from it, a
selection, and at last an outcome.

## Main definitions

* `Outcome` — the final text of a run, as a success or an error.
* `Payload` — the payloads; `Payload.kind` labels them.
* `preview` — the beginning of a text on one line.
-/

namespace StagedQuery

/-- The final text of a run. -/
structure Outcome where
  text : String
  isError : Bool
deriving DecidableEq

namespace Outcome

/-- A success. -/
def ok (text : String) : Outcome := ⟨text, false⟩

/-- An error. -/
def error (text : String) : Outcome := ⟨text, true⟩

/-- The text of an outcome, in which an error is marked as one. -/
def render (o : Outcome) : String := if o.isError then "ERROR: " ++ o.text else o.text

/-- The inspected form of an outcome. -/
def inspect (o : Outcome) : String :=
  Value.recordText "Outcome"
    [("text", Quoted.encode o.text), ("is_error", Value.boolText o.isError)]

end Outcome

/-- What travels through a pipeline. Plain values belong to no stage of a statement; pipelines of
other stages may use them. -/
inductive Payload where
  | text (s : String)
  | statement (s : Statement)
  | selection (s : Selection)
  | outcome (o : Outcome)
  | value (v : Value)

namespace Payload

/-- The label of a payload. -/
def kind : Payload → String
  | text _ => "text"
  | statement s => s.kind.name
  | selection s => "rowset:" ++ s.phase.label
  | outcome o => if o.isError then "error" else "outcome"
  | value v => v.kindName

/-- The text of a payload: a text itself, the inspected form of all else. -/
def inspect : Payload → String
  | text s => s
  | statement s => s.inspect
  | selection s => s.inspect
  | outcome o => o.inspect
  | value v => v.inspect

end Payload

/-! ## Previews -/

/-- The first `n` characters of a sequence; for a negative `n`, all but the last `-n`. -/
def front {α : Type} (n : Int) (cs : List α) : List α :=
  match n with
  | .ofNat n => cs.take n
  | .negSucc n => cs.take (cs.length - (n + 1))

/-- A text on one line. One that is longer than `width` is cut three short of it, and dots
follow. -/
def previewText (width : Int) (s : String) : String :=
  let line := collapse s
  if line.length ≤ width then line
  else String.ofList (front (width - 3) line.toList) ++ "..."

/-- A payload on one line of at most `width` characters. -/
def preview (width : Int) (p : Payload) : String := previewText width p.inspect

/-- The width of a preview in a route. -/
def routeWidth : Int := 60

/-- The width of a preview in the report on a rejected job. -/
def reportWidth : Int := 200

end StagedQuery
