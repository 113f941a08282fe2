import StagedQuery.Proofs.Dispatch.Fifo

set_option relaxedAutoImplicit false
set_option autoImplicit false

/-!
# Runs with and without a budget

The budget of a pipeline only cuts runs off. A run without any budget takes one job after the other
until the queue is empty or a stage stops it, or it goes on for ever. Under a budget of `n` jobs the
run is the same as long as no more than `n` jobs leave the queue; otherwise it is cut off after
exactly `n` of them.

## Main definitions

* `Pipeline.next?` — one job of a run, without regard to a budget.
* `Pipeline.Reaches`, `Pipeline.Ends` — what a run without a budget reaches after a number of jobs,
  and how it ends.
* `Pipeline.work` — the work on a queue under a budget; it tells a run that was cut off from one
  that a stage stopped.
* `Pipeline.withBudget` — the pipeline with another budget.
* `Pipeline.CutOff`, `Pipeline.Outlasts` — a run is cut off by a budget, and it would take more jobs
  than the budget allows.

## Main results

* `Pipeline.work_eq_ended`, `Pipeline.work_eq_cutOff` — the work under a budget by the run without
  one.
* `Pipeline.run_withBudget` — what a larger budget changes, in one statement.
-/

namespace StagedQuery

namespace Pipeline

variable {σ φ : Type}

/-! ## Runs without a budget -/

section Unbudgeted

variable (p : Pipeline σ φ) (origin : String)

/-- What a run comes to when one more job leaves the queue, and how it stops there if it does;
nothing if no job waits. -/
def next? (w : Progress σ) : Option (Progress σ × Option (Stop φ)) :=
  match w.queue with
  | [] => none
  | job :: rest => some (p.step origin job
      ⟨rest, w.state, w.captured, w.rejected, w.iterations + 1, w.transforms⟩)

/-- What a run without a budget has reached after a number of jobs, none of which stopped it. -/
inductive Reaches : ℕ → Progress σ → Progress σ → Prop
  | start (w : Progress σ) : Reaches 0 w w
  | next {n : ℕ} {w after reached : Progress σ} (h : p.next? origin w = some (after, none))
    (hrest : Reaches n after reached) : Reaches (n + 1) w reached

/-- How a run without a budget ends, and after how many jobs: the queue is empty, or a stage stops
it. -/
inductive Ends : ℕ → Progress σ → Stop φ → Progress σ → Prop
  | finished {w : Progress σ} (h : p.next? origin w = none) : Ends 0 w .finished w
  | stopped {w after : Progress σ} {stop : Stop φ}
    (h : p.next? origin w = some (after, some stop)) : Ends 1 w stop after
  | next {n : ℕ} {w after final : Progress σ} {stop : Stop φ}
    (h : p.next? origin w = some (after, none)) (hrest : Ends n after stop final) :
    Ends (n + 1) w stop final

/-- The work on a queue under a budget: how the run ends by itself, or nothing if it is cut off. -/
def work : (budget : ℕ) → Progress σ → Option (Stop φ) × Progress σ
  | 0, w =>
    match p.next? origin w with
    | none => (some .finished, w)
    | some _ => (none, ⟨[], w.state, w.captured, w.rejected, w.iterations, w.transforms⟩)
  | budget + 1, w =>
    match p.next? origin w with
    | none => (some .finished, w)
    | some (after, none) => work budget after
    | some (after, some stop) => (some stop, after)

end Unbudgeted

variable {p : Pipeline σ φ} {origin : String}

/-- There is no next job exactly if none waits. -/
lemma next?_eq_none {w : Progress σ} : p.next? origin w = none ↔ w.queue = [] := by
  rw [next?]
  cases w.queue <;> simp

/-- The next job is the front of the queue. -/
lemma next?_cons (job : Job) (rest : List Job) (state : σ) (captured : List Outcome)
    (rejected : List Job) (iterations : ℕ) (transforms : List (String × String)) :
    p.next? origin ⟨job :: rest, state, captured, rejected, iterations, transforms⟩ =
      some (p.step origin job
        ⟨rest, state, captured, rejected, iterations + 1, transforms⟩) := rfl

/-- **The work on a queue** is the work under the budget that is left; a run that is cut off reports
the budget of its pipeline. -/
lemma drain_eq_work (fuel : ℕ) (w : Progress σ) : p.drain origin fuel w =
    ((p.work origin fuel w).1.getD (.overrun p.budget), (p.work origin fuel w).2) := by
  induction fuel generalizing w with
  | zero =>
    obtain ⟨queue, state, captured, rejected, iterations, transforms⟩ := w
    cases queue with
    | nil => rfl
    | cons job rest => rfl
  | succ fuel ih =>
    obtain ⟨queue, state, captured, rejected, iterations, transforms⟩ := w
    cases queue with
    | nil => rfl
    | cons job rest =>
      rw [drain_cons_succ, work, next?_cons]
      rcases p.step origin job ⟨rest, state, captured, rejected, iterations + 1, transforms⟩ with
        ⟨after, _ | stop⟩
      · exact ih after
      · rfl

/-! ## The work under a budget by the run without one -/

/-- **A run ends by itself under a budget** exactly if it does so without one, after no more jobs
than the budget allows. -/
lemma work_eq_ended {budget : ℕ} {w final : Progress σ} {stop : Stop φ} :
    p.work origin budget w = (some stop, final) ↔ ∃ n ≤ budget, p.Ends origin n w stop final := by
  induction budget generalizing w with
  | zero =>
    rw [work]
    cases hnext : p.next? origin w with
    | none =>
      constructor
      · rintro ⟨⟩
        exact ⟨0, le_rfl, .finished hnext⟩
      · rintro ⟨n, hn, hends⟩
        cases hends with
        | finished => rfl
        | stopped h => simp [hnext] at h
        | next h => simp [hnext] at h
    | some next =>
      constructor
      · rintro ⟨⟩
      · rintro ⟨n, hn, hends⟩
        cases hends with
        | finished h => simp [hnext] at h
        | stopped h => omega
        | next h => omega
  | succ budget ih =>
    rw [work]
    rcases hnext : p.next? origin w with _ | ⟨after, _ | stop'⟩
    · constructor
      · rintro ⟨⟩
        exact ⟨0, Nat.zero_le _, .finished hnext⟩
      · rintro ⟨n, hn, hends⟩
        cases hends with
        | finished => rfl
        | stopped h => simp [hnext] at h
        | next h => simp [hnext] at h
    · rw [ih]
      constructor
      · rintro ⟨n, hn, hends⟩
        exact ⟨n + 1, Nat.succ_le_succ hn, .next hnext hends⟩
      · rintro ⟨n, hn, hends⟩
        cases hends with
        | finished h => simp [hnext] at h
        | stopped h => simp [hnext] at h
        | next h hrest =>
          obtain rfl : after = _ := by simpa [hnext] using h
          exact ⟨_, Nat.le_of_succ_le_succ hn, hrest⟩
    · constructor
      · rintro ⟨⟩
        exact ⟨1, by omega, .stopped hnext⟩
      · rintro ⟨n, hn, hends⟩
        cases hends with
        | finished h => simp [hnext] at h
        | stopped h =>
          obtain ⟨rfl, rfl⟩ : after = _ ∧ stop' = _ := by simpa [hnext] using h
          rfl
        | next h => simp [hnext] at h

/-- **A run is cut off by a budget** exactly if jobs wait after as many jobs as the budget allows;
these jobs are given up. -/
lemma work_eq_cutOff {budget : ℕ} {w final : Progress σ} :
    p.work origin budget w = (none, final) ↔ ∃ reached, p.Reaches origin budget w reached ∧
      reached.queue ≠ [] ∧ final = ⟨[], reached.state, reached.captured, reached.rejected,
        reached.iterations, reached.transforms⟩ := by
  induction budget generalizing w with
  | zero =>
    rw [work]
    cases hnext : p.next? origin w with
    | none =>
      constructor
      · rintro ⟨⟩
      · rintro ⟨reached, hreaches, hqueue, -⟩
        cases hreaches
        exact absurd (next?_eq_none.mp hnext) hqueue
    | some next =>
      have hqueue : w.queue ≠ [] := fun h => by simp [next?_eq_none.mpr h] at hnext
      constructor
      · rintro ⟨⟩
        exact ⟨w, .start w, hqueue, rfl⟩
      · rintro ⟨reached, hreaches, -, rfl⟩
        cases hreaches
        rfl
  | succ budget ih =>
    rw [work]
    rcases hnext : p.next? origin w with _ | ⟨after, _ | stop⟩
    · constructor
      · rintro ⟨⟩
      · rintro ⟨reached, hreaches, -⟩
        cases hreaches with | next h => simp [hnext] at h
    · rw [ih]
      constructor
      · rintro ⟨reached, hreaches, hrest⟩
        exact ⟨reached, .next hnext hreaches, hrest⟩
      · rintro ⟨reached, hreaches, hrest⟩
        cases hreaches with
        | next h hlater =>
          obtain rfl : after = _ := by simpa [hnext] using h
          exact ⟨reached, hlater, hrest⟩
    · constructor
      · rintro ⟨⟩
      · rintro ⟨reached, hreaches, -⟩
        cases hreaches with | next h => simp [hnext] at h

/-! ## Counting -/

/-- The work on one job leaves the number of jobs that have left the queue. -/
lemma step_iterations (job : Job) (w : Progress σ) :
    (p.step origin job w).1.iterations = w.iterations := by
  rw [step_parts]

/-- A run counts the jobs that leave the queue. -/
lemma Reaches.iterations {n : ℕ} {w reached : Progress σ} (h : p.Reaches origin n w reached) :
    reached.iterations = w.iterations + n := by
  induction h with
  | start => rfl
  | @next n w after reached h _ ih =>
    obtain ⟨queue, state, captured, rejected, iterations, transforms⟩ := w
    cases queue with
    | nil => cases h
    | cons job rest =>
      rw [next?_cons, Option.some.injEq] at h
      rw [ih, ← congrArg (·.1.iterations) h, step_iterations]
      exact Nat.add_right_comm _ _ _

/-! ## Two budgets -/

/-- The pipeline with another budget. -/
def withBudget (p : Pipeline σ φ) (budget : ℕ) : Pipeline σ φ :=
  ⟨p.stages, budget, p.traceLevel, p.explains⟩

/-- The work of a run under a budget. -/
def workUnder (p : Pipeline σ φ) (w : Worklist σ) (budget : ℕ) : Option (Stop φ) × Progress σ :=
  p.work w.origin budget (.start w.queue w.state)

/-- Whether a run is cut off by a budget. -/
def CutOff (p : Pipeline σ φ) (w : Worklist σ) (budget : ℕ) : Prop :=
  (p.workUnder w budget).1 = none

/-- Whether more jobs than a number leave the queue in a run without a budget. -/
def Outlasts (p : Pipeline σ φ) (w : Worklist σ) (n : ℕ) : Prop :=
  ∃ reached, p.Reaches w.origin n (.start w.queue w.state) reached ∧ reached.queue ≠ []

/-- The budget of a pipeline is of no account for the work on one job. -/
lemma next?_withBudget (budget : ℕ) (w : Progress σ) :
    (p.withBudget budget).next? origin w = p.next? origin w := rfl

/-- The budget that a pipeline reports is of no account for the work under a budget. -/
lemma work_withBudget (reported budget : ℕ) (w : Progress σ) :
    (p.withBudget reported).work origin budget w = p.work origin budget w := by
  induction budget generalizing w with
  | zero => rfl
  | succ budget ih =>
    rw [work, work, next?_withBudget]
    rcases p.next? origin w with _ | ⟨after, _ | stop⟩
    · rfl
    · exact ih after
    · rfl

/-- The work of a pipeline under its budget. -/
lemma drain_withBudget (w : Worklist σ) (n : ℕ) :
    (p.withBudget n).drain w.origin n (.start w.queue w.state) =
      ((p.workUnder w n).1.getD (.overrun n), (p.workUnder w n).2) := by
  rw [drain_eq_work, work_withBudget]
  rfl

/-- The ending of a run that stops by itself. -/
def endingOfStop (p : Pipeline σ φ) (origin : String) (final : Progress σ) : Stop φ → Ending φ
  | .finished => .report (p.report origin final)
  | .overrun limit => .overrun limit
  | .crashed fault => .crashed fault

/-- A run under a budget, by the work under it. -/
lemma run_withBudget_eq (w : Worklist σ) (n : ℕ) : (p.withBudget n).run w =
    (p.endingOfStop w.origin (p.workUnder w n).2 ((p.workUnder w n).1.getD (.overrun n)),
      ⟨(p.workUnder w n).2.queue, (p.workUnder w n).2.state, w.run + 1⟩) := by
  have hdrain : (p.withBudget n).drain w.origin (p.withBudget n).budget.toNat
      (.start w.queue w.state) = _ := drain_withBudget w n
  rw [run, hdrain]
  cases (p.workUnder w n).1.getD (.overrun n) <;> rfl

/-- **The budget only cuts runs off.** A run that ends by itself under a budget, with a report or
because a stage stops it, ends as it would without a budget. Under a larger budget it ends in the
same way, with the same report, captures, rest of the queue and state. A run is cut off exactly if
more jobs than the budget allows would leave the queue without it; then just as many jobs as the
budget allows have been worked on, the rest are given up, and the run ends with the error of its
budget. -/
theorem run_withBudget (p : Pipeline σ φ) (w : Worklist σ) :
    (∀ n, (p.withBudget n).drain w.origin n (.start w.queue w.state) =
      ((p.workUnder w n).1.getD (.overrun n), (p.workUnder w n).2)) ∧
    (∀ n, ¬ p.CutOff w n → ∃ k ≤ n, ∃ stop, (p.workUnder w n).1 = some stop ∧
      p.Ends w.origin k (.start w.queue w.state) stop (p.workUnder w n).2) ∧
    (∀ n m, n ≤ m → ¬ p.CutOff w n → ¬ p.CutOff w m ∧ p.workUnder w m = p.workUnder w n ∧
      (p.withBudget m).run w = (p.withBudget n).run w) ∧
    (∀ n, p.CutOff w n ↔ p.Outlasts w n) ∧
    (∀ n, p.CutOff w n → ∃ reached, p.Reaches w.origin n (.start w.queue w.state) reached ∧
      reached.iterations = n ∧
      p.workUnder w n = (none, ⟨[], reached.state, reached.captured, reached.rejected,
        reached.iterations, reached.transforms⟩) ∧
      (p.withBudget n).run w = (.overrun n, ⟨[], reached.state, w.run + 1⟩)) := by
  have hended : ∀ n, ¬ p.CutOff w n → ∃ k ≤ n, ∃ stop, (p.workUnder w n).1 = some stop ∧
      p.Ends w.origin k (.start w.queue w.state) stop (p.workUnder w n).2 := by
    intro n hn
    obtain ⟨stop, hstop⟩ := Option.ne_none_iff_exists'.mp hn
    obtain ⟨k, hk, hends⟩ := work_eq_ended.mp (show p.workUnder w n = (some stop, _) from
      Prod.ext hstop rfl)
    exact ⟨k, hk, stop, hstop, hends⟩
  have hcutOff : ∀ n, p.CutOff w n → ∃ reached,
      p.Reaches w.origin n (.start w.queue w.state) reached ∧ reached.queue ≠ [] ∧
        (p.workUnder w n).2 = ⟨[], reached.state, reached.captured, reached.rejected,
          reached.iterations, reached.transforms⟩ := fun n hn =>
    work_eq_cutOff.mp (show p.workUnder w n = (none, _) from Prod.ext hn rfl)
  refine ⟨drain_withBudget w, hended, fun n m hnm hn => ?_, fun n => ⟨fun hn => ?_, ?_⟩,
    fun n hn => ?_⟩
  · obtain ⟨k, hk, stop, hstop, hends⟩ := hended n hn
    have hm : p.workUnder w m = (some stop, (p.workUnder w n).2) :=
      work_eq_ended.mpr ⟨k, hk.trans hnm, hends⟩
    have hsame : p.workUnder w m = p.workUnder w n := hm.trans (Prod.ext hstop.symm rfl)
    refine ⟨by rw [CutOff, hm]; simp, hsame, ?_⟩
    rw [run_withBudget_eq, run_withBudget_eq, hsame, hstop]
    rfl
  · obtain ⟨reached, hreaches, hqueue, -⟩ := hcutOff n hn
    exact ⟨reached, hreaches, hqueue⟩
  · rintro ⟨reached, hreaches, hqueue⟩
    exact congrArg Prod.fst (work_eq_cutOff.mpr ⟨reached, hreaches, hqueue, rfl⟩)
  · obtain ⟨reached, hreaches, -, hfinal⟩ := hcutOff n hn
    refine ⟨reached, hreaches, hreaches.iterations.trans (Nat.zero_add n), Prod.ext hn hfinal, ?_⟩
    rw [run_withBudget_eq, hn, hfinal]
    rfl

/-- The run with three jobs is cut off by a budget of two, and not by one of three. -/
theorem run_withBudget_faltering :
    let w := (⟨[], (), 0⟩ : Worklist Unit).submit (.text "x")
    faltering.Outlasts w 2 ∧ ¬ faltering.Outlasts w 3 ∧
      (faltering.withBudget 9).run w = (faltering.withBudget 3).run w := by
  intro w
  have hthree : ¬ faltering.CutOff w 3 := by
    intro h
    cases h
  obtain ⟨-, -, hlarger, hcutOff, -⟩ := run_withBudget faltering w
  exact ⟨(hcutOff 2).mp rfl, mt (hcutOff 3).mpr hthree, (hlarger 3 9 (by omega) hthree).2.2⟩

end Pipeline

end StagedQuery
