import Mathlib.Data.List.Pairwise
import StagedQuery.Proofs.Pipeline.Passage

set_option relaxedAutoImplicit false
set_option autoImplicit false

/-!
# The operators that a selection goes through

The stages of a `SELECT` are never called in sequence. A selection is put back into the queue after
each operator, and the next stage that accepts it is found by search. This file turns the search
into a list: the operators that are still pending, in order, each of which is applied once.

## Main definitions

* `Operator.pending` — the operators that are still to be applied to a selection, in order.
* `Selection.finish` — the stages that a selection goes through, and the end of its passage.

## Main results

* `Operator.pending_apply` — applying the first pending operator leaves exactly the others pending.
* `Selection.passage_finish` — a selection has a passage, whose stages are the pending operators and
  the two that make and capture its listing.
-/

namespace StagedQuery

/-- Above the key of the first element that a filter of a sorted list keeps, it keeps the others.

**Proof sketch.** Induction on the list. If its head is kept, all later keys are larger, so the
bound makes no difference to them. If it is dropped, it lies below the first kept element and is
dropped under the larger bound as well. -/
lemma filter_above {α : Type} (key : α → ℕ) (f : α → Bool) (l : List α)
    (hl : l.Pairwise fun a b => key a < key b) (k : ℕ) (x : α) (rest : List α)
    (h : (l.filter fun a => decide (k < key a) && f a) = x :: rest) :
    (l.filter fun a => decide (key x < key a) && f a) = rest := by
  induction l with
  | nil => simp at h
  | cons a l ih =>
    obtain ⟨hlt, hl⟩ := List.pairwise_cons.mp hl
    rw [List.filter_cons] at h ⊢
    by_cases ha : (decide (k < key a) && f a) = true
    · rw [if_pos ha, List.cons.injEq] at h
      obtain ⟨rfl, hrest⟩ := h
      rw [if_neg (by simp), ← hrest]
      refine List.filter_congr fun b hb => ?_
      have hka : k < key a := by
        rw [Bool.and_eq_true, decide_eq_true_iff] at ha
        exact ha.1
      have hab := hlt b hb
      rw [decide_eq_true hab, decide_eq_true (show k < key b by omega)]
    · rw [if_neg ha] at h
      have hx : x ∈ l.filter fun a => decide (k < key a) && f a := by rw [h]; simp
      have hax := hlt x (List.mem_filter.mp hx).1
      have hdrop : ¬(decide (key x < key a) && f a) = true := by simp; omega
      rw [if_neg hdrop]
      exact ih hl h

namespace Operator

/-! ## Pending operators -/

/-- The operators that are still to be applied to a selection, in order. -/
def pending (s : Selection) : List Operator := all.filter (·.accepts s)

/-- The operators are listed in the order of their phases. -/
lemma pairwise_all : all.Pairwise fun a b => a.phase.rank < b.phase.rank := by decide

/-- The operator that a selection meets next is the first pending one. -/
lemma next?_eq_head? (s : Selection) : next? s = (pending s).head? := by
  rw [next?, pending, List.head?_filter]

/-- What an operator leaves of a selection: only its rows and its phase change. -/
lemma apply_eq_ok {op : Operator} {s after : Selection} (h : op.apply s = .ok after) :
    ∃ rows, op.rowsOf s = .ok rows ∧ after = ⟨rows, s.labels, s.select, op.phase⟩ := by
  rw [apply] at h
  cases hrows : op.rowsOf s with
  | error f => rw [hrows] at h; simp [Except.map] at h
  | ok rows =>
    rw [hrows] at h
    exact ⟨rows, rfl, (Except.ok.inj h).symm⟩

/-- **Applying the first pending operator** leaves exactly the others pending. -/
lemma pending_apply {op : Operator} {ops : List Operator} {s after : Selection}
    (hops : pending s = op :: ops) (h : op.apply s = .ok after) : pending after = ops := by
  obtain ⟨rows, -, rfl⟩ := apply_eq_ok h
  unfold pending accepts at hops ⊢
  exact filter_above (fun o => o.phase.rank) (fun o => o.asked s.select) all pairwise_all
    s.phase.rank op ops hops

/-- At the start, the operators that the statement asks for are pending. -/
lemma pending_scanned (rows : List Row) (labels : List Value) (s : Select) :
    pending ⟨rows, labels, s, .scanned⟩ = all.filter (·.asked s) := by
  refine List.filter_congr fun op _ => ?_
  cases op <;> simp [accepts, phase, Phase.rank]

end Operator

/-! ## The passage of a selection -/

namespace Selection

/-- The stages that a selection with some pending operators goes through, and the outcome or the
fault at the end. -/
def finish : List Operator → Selection → List String × Except Fault Outcome
  | [], s =>
    match listing s.labels s.rows with
    | .ok text => ([listingStage.name, resultStage.name], .ok (.ok text))
    | .error f => ([listingStage.name], .error f)
  | op :: ops, s =>
    match op.apply s with
    | .ok after => ((operatorStage op).name :: (finish ops after).1, (finish ops after).2)
    | .error f => ([(operatorStage op).name], .error f)

/-- **The passage of a selection**: the pending operators one after the other, and then its listing.

**Proof sketch.** Induction on the pending operators. The first of them is the one that the
selection meets next. After it the others are pending, and the induction hypothesis gives the rest
of the passage. -/
lemma passage_finish (env : Surroundings) (session : Session) (ops : List Operator) :
    ∀ s : Selection, Operator.pending s = ops →
      Passage env (.selection s) session (finish ops s).1 session (finish ops s).2 := by
  induction ops with
  | nil =>
    intro s hs
    have hnext : Operator.next? s = none := by rw [Operator.next?_eq_head?, hs]; rfl
    have hadv : (Payload.selection s).advance? env session = some (listingStage.name,
        ⟨session, ((listing s.labels s.rows).mapError Failure.fault).map fun text =>
          .outcome (.ok text)⟩) := by
      rw [Payload.advance?, hnext]
    rw [finish]
    cases hlist : listing s.labels s.rows with
    | ok text =>
      rw [hlist] at hadv
      exact .pass hadv rfl (.capture (.ok text) session)
    | error f =>
      rw [hlist] at hadv
      exact .crash hadv rfl
  | cons op ops ih =>
    intro s hs
    have hnext : Operator.next? s = some op := by rw [Operator.next?_eq_head?, hs]; rfl
    have hadv : (Payload.selection s).advance? env session = some ((operatorStage op).name,
        ⟨session, ((op.apply s).mapError Failure.fault).map .selection⟩) := by
      rw [Payload.advance?, hnext]
    rw [finish]
    cases happ : op.apply s with
    | ok after =>
      rw [happ] at hadv
      exact .pass hadv rfl (ih after (Operator.pending_apply hs happ))
    | error f =>
      rw [happ] at hadv
      exact .crash hadv rfl

/-- The passage of a selection is at most two stages longer than its pending operators. -/
lemma length_finish (ops : List Operator) (s : Selection) :
    (finish ops s).1.length ≤ ops.length + 2 := by
  induction ops generalizing s with
  | nil =>
    rw [finish]
    split <;> simp
  | cons op ops ih =>
    rw [finish]
    split
    · have := ih ‹_›
      simp only [List.length_cons]
      omega
    · simp

end Selection

end StagedQuery
