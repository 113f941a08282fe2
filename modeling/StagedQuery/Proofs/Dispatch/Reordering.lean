import StagedQuery.Proofs.Dispatch.Drain

set_option relaxedAutoImplicit false
set_option autoImplicit false

/-!
# Pipelines with their stages in another order

If the same stage takes every job in two pipelines that differ only in the order of their stages,
where the stages decide by the payload and none asks which others declined a job, then no run tells
the two apart, but for the order in which the stages that declined a job are listed when it is
rejected.

## Main definitions

* `Job.SameCourse` — jobs that differ at most in what is recorded of the stages that declined them.
* `Job.Alike` — jobs that differ at most in the order in which stages declined them.
* `Progress.Alike` — runs that have come equally far, with rejected jobs that are alike.
* `Pipeline.Reorders` — pipelines that differ in the order of their stages, with the same taker for
  each job.

## Main results

* `Pipeline.Reorders.step_alike` — one job, in both pipelines.
* `Pipeline.Reorders.drain_alike` — whole runs, in both pipelines.
-/

namespace StagedQuery

/-! ## Jobs -/

namespace Job

/-- Jobs that differ at most in what is recorded of the stages that declined them. -/
structure SameCourse (a b : Job) : Prop where
  payload : a.payload = b.payload
  origin : a.origin = b.origin
  takenBy : a.route.takenBy = b.route.takenBy
  history : a.route.history = b.route.history

/-- Jobs that differ at most in the order in which stages declined them. -/
structure Alike (a b : Job) : Prop extends SameCourse a b where
  declinedBy : a.route.declinedBy.Perm b.route.declinedBy
  stageCount : a.route.stageCount = b.route.stageCount

variable {a b c : Job} {stage other : String}

/-- A job on the same course as another one, the other way round. -/
lemma SameCourse.symm (h : a.SameCourse b) : b.SameCourse a :=
  ⟨h.payload.symm, h.origin.symm, h.takenBy.symm, h.history.symm⟩

/-- Jobs on the same course as a third one are on the same course. -/
lemma SameCourse.trans (hab : a.SameCourse b) (hbc : b.SameCourse c) : a.SameCourse c :=
  ⟨hab.payload.trans hbc.payload, hab.origin.trans hbc.origin, hab.takenBy.trans hbc.takenBy,
    hab.history.trans hbc.history⟩

/-- Jobs on the same course have the same successors. -/
lemma SameCourse.successor (h : a.SameCourse b) (payload : Payload) :
    a.successor payload = b.successor payload := by
  rw [Job.successor, Job.successor, h.origin, h.takenBy, h.history]

/-- A stage that declines a job leaves its course. -/
lemma sameCourse_declined (a : Job) (stage : String) : (a.declined stage).SameCourse a := by
  unfold declined
  split <;> exact ⟨rfl, rfl, rfl, rfl⟩

/-- A stage that takes two jobs on the same course leaves them on the same course. -/
lemma SameCourse.taken (h : a.SameCourse b) (stage : String) (recorded : Bool) :
    (a.taken stage recorded).SameCourse (b.taken stage recorded) := by
  refine ⟨h.payload, h.origin, ?_, ?_⟩
  · simp only [Job.taken, h.takenBy]
  · simp only [Job.taken, h.history, h.payload]

/-- Every job is like itself. -/
lemma Alike.refl (a : Job) : a.Alike a := ⟨⟨rfl, rfl, rfl, rfl⟩, .refl _, rfl⟩

/-- Jobs like a third one are alike. -/
lemma Alike.trans (hab : a.Alike b) (hbc : b.Alike c) : a.Alike c :=
  ⟨hab.toSameCourse.trans hbc.toSameCourse, hab.declinedBy.trans hbc.declinedBy,
    hab.stageCount.trans hbc.stageCount⟩

/-- Jobs that are alike are alike after a stage declined them. -/
lemma Alike.declined (h : a.Alike b) (stage : String) :
    (a.declined stage).Alike (b.declined stage) := by
  unfold Job.declined
  by_cases hmem : stage ∈ b.route.declinedBy
  · rwa [if_pos (by simpa using h.declinedBy.mem_iff.mpr hmem), if_pos (by simpa using hmem)]
  · rw [if_neg (by simpa using mt h.declinedBy.mem_iff.mp hmem), if_neg (by simpa using hmem)]
    exact ⟨⟨h.payload, h.origin, h.takenBy, h.history⟩, h.declinedBy.append_right _, h.stageCount⟩

/-- Whether a job is exhausted does not depend on the order in which stages declined it. -/
lemma Alike.isExhausted (h : a.Alike b) : a.isExhausted = b.isExhausted := by
  rw [Job.isExhausted, Job.isExhausted, h.declinedBy.length_eq, h.stageCount]

/-- The stages that declined a job after one more did. -/
lemma declinedBy_declined (a : Job) (stage : String) :
    (a.declined stage).route.declinedBy =
      if stage ∈ a.route.declinedBy then a.route.declinedBy
      else a.route.declinedBy ++ [stage] := by
  unfold declined
  by_cases h : stage ∈ a.route.declinedBy <;> simp [h]

/-- Two stages may decline a job in either order. -/
lemma declined_comm (a : Job) (stage other : String) :
    ((a.declined stage).declined other).Alike ((a.declined other).declined stage) := by
  have hcourse : ∀ s t, ((a.declined s).declined t).SameCourse a := fun s t =>
    ((a.declined s).sameCourse_declined t).trans (a.sameCourse_declined s)
  refine ⟨(hcourse stage other).trans (hcourse other stage).symm, ?_, by simp⟩
  by_cases hsame : stage = other
  · rw [hsame]
  simp only [declinedBy_declined]
  by_cases hstage : stage ∈ a.route.declinedBy <;> by_cases hother : other ∈ a.route.declinedBy <;>
    simp [hstage, hother, hsame, Ne.symm hsame]
  exact (List.Perm.swap other stage []).append_left _

end Job

/-! ## Offers -/

namespace Job

variable {a b : Job}

/-- Stages that decline a job leave its course. -/
lemma sameCourse_declinedByAll (a : Job) (stages : List String) :
    (a.declinedByAll stages).SameCourse a := by
  induction stages generalizing a with
  | nil => exact ⟨rfl, rfl, rfl, rfl⟩
  | cons stage rest ih => exact (ih (a.declined stage)).trans (a.sameCourse_declined stage)

/-- Jobs that are alike are alike after the same stages declined them. -/
lemma Alike.declinedByAll (h : a.Alike b) (stages : List String) :
    (a.declinedByAll stages).Alike (b.declinedByAll stages) := by
  induction stages generalizing a b with
  | nil => exact h
  | cons stage rest ih => exact ih (h.declined stage)

/-- The order of the stages that decline a job changes only the order in which they are recorded.

**Proof sketch.** Induction on the reordering. Two stages next to each other may change places. -/
lemma declinedByAll_perm {stages stages' : List String} (h : stages.Perm stages') (a : Job) :
    (a.declinedByAll stages).Alike (a.declinedByAll stages') := by
  induction h generalizing a with
  | nil => exact .refl a
  | cons stage _ ih => exact ih (a.declined stage)
  | swap stage other rest => exact (a.declined_comm other stage).declinedByAll rest
  | trans _ _ ih ih' => exact (ih a).trans (ih' a)

end Job

/-- Asking stages about a job leaves its course. -/
lemma Pipeline.sameCourse_offer {σ φ : Type} (stages : List (Stage σ φ)) (job : Job) (state : σ) :
    (offer job state stages).job.SameCourse job := by
  obtain ⟨front, -, -, hjob, -⟩ := offer_spec stages job state
  rw [hjob]
  exact job.sameCourse_declinedByAll _

/-! ## Runs -/

/-- Runs that have come equally far, with rejected jobs that are alike. -/
structure Progress.Alike {σ : Type} (v w : Progress σ) : Prop where
  queue : v.queue = w.queue
  state : v.state = w.state
  captured : v.captured = w.captured
  rejected : List.Forall₂ Job.Alike v.rejected w.rejected
  iterations : v.iterations = w.iterations
  transforms : v.transforms = w.transforms

namespace Progress.Alike

variable {σ : Type} {v w : Progress σ} (origin : String)

/-- A run has come as far as itself. -/
lemma refl (w : Progress σ) : w.Alike w :=
  ⟨rfl, rfl, rfl, List.forall₂_same.mpr fun job _ => .refl job, rfl, rfl⟩

/-- Runs are alike if they match, with the same jobs waiting. -/
lemma iff_matches : v.Alike w ↔ v.Matches Eq Job.Alike w := by
  refine ⟨fun h => ⟨?_, h.2, h.3, h.4, h.5, h.6⟩, fun h => ⟨?_, h.2, h.3, h.4, h.5, h.6⟩⟩
  · rw [List.forall₂_eq_eq_eq]
    exact h.queue
  · rw [← List.forall₂_eq_eq_eq]
    exact h.queue

/-- Runs stay alike when the same is emitted in both. -/
lemma emit (h : v.Alike w) (e : Emission) : (v.emit origin e).Alike (w.emit origin e) := by
  obtain ⟨hqueue, hstate, hcaptured, hrejected, hiterations, htransforms⟩ := h
  cases e with
  | forward job | fresh payload =>
    exact ⟨congrArg (· ++ [_]) hqueue, hstate, hcaptured, hrejected, hiterations, htransforms⟩
  | capture o =>
    exact ⟨hqueue, hstate, congrArg (· ++ [o]) hcaptured, hrejected, hiterations, htransforms⟩

/-- Runs stay alike when the same is emitted in both, one after the other. -/
lemma emitAll (h : v.Alike w) (emissions : List Emission) :
    (emissions.foldl (Progress.emit origin) v).Alike
      (emissions.foldl (Progress.emit origin) w) := by
  induction emissions generalizing v w with
  | nil => exact h
  | cons e emissions ih => exact ih (h.emit origin e)

end Progress.Alike

/-- A stage that does not ask which others declined a job. -/
def Stage.IgnoresDeclined {σ φ : Type} (s : Stage σ φ) : Prop :=
  ∀ (a b : Job) (state : σ), a.SameCourse b → s.handle a state = s.handle b state

namespace Pipeline

variable {σ φ : Type}

/-- Pipelines that differ in the order of their stages and in what they say of rejected jobs. The
stages decide by the payload, the same stage takes every job, and no stage asks which others
declined it. -/
structure Reorders (p q : Pipeline σ φ) : Prop where
  stages : p.stages.Perm q.stages
  decides : ∀ s ∈ q.stages, s.DecidesByPayload
  taker : ∀ (job : Job) (state : σ),
    p.stages.find? (·.takes job state) = q.stages.find? (·.takes job state)
  ignores : ∀ s ∈ q.stages, s.IgnoresDeclined
  budget : p.budget = q.budget
  traceLevel : p.traceLevel = q.traceLevel

namespace Reorders

variable {p q : Pipeline σ φ} {v w : Progress σ}

/-- A stage that takes a job does the same in both pipelines. -/
lemma react_alike (h : p.Reorders q) (origin : String) {a b : Job} (hcourse : a.SameCourse b)
    {s : Stage σ φ} (hs : s ∈ q.stages) (hw : v.Alike w) :
    (p.react origin a s v).1.Alike (q.react origin b s w).1 ∧
      (p.react origin a s v).2 = (q.react origin b s w).2 := by
  have hmarked : (p.marked a s.name).SameCourse (q.marked b s.name) := by
    rw [marked, marked, h.traceLevel]
    cases q.traceLevel with
    | none => exact hcourse
    | minimal => exact hcourse.taken s.name false
    | detailed => exact hcourse.taken s.name true
  have hreaction := h.ignores s hs _ _ w.state hmarked
  rw [react, react, hw.state, hreaction]
  generalize s.handle (q.marked b s.name) w.state = reaction
  have hnoted : (⟨v.queue, reaction.state, v.captured, v.rejected, v.iterations,
      v.transforms ++ [(s.name, a.payload.kind)]⟩ : Progress σ).Alike
      ⟨w.queue, reaction.state, w.captured, w.rejected, w.iterations,
        w.transforms ++ [(s.name, b.payload.kind)]⟩ :=
    ⟨hw.queue, rfl, hw.captured, hw.rejected, hw.iterations,
      by rw [hw.transforms, hcourse.payload]⟩
  have hafter := hnoted.emitAll origin reaction.emissions
  cases reaction.verdict with
  | done | overrun limit | crashed fault => exact ⟨hafter, rfl⟩
  | failed message =>
    refine ⟨?_, rfl⟩
    dsimp only
    rw [hmarked.successor]
    exact hafter.emit origin _

/-- **One job leads both pipelines equally far.** Either the same stage takes it, or both reject it
after all stages have declined it, in their orders. -/
lemma step_alike (h : p.Reorders q) (origin : String) (job : Job) (hw : v.Alike w) :
    (p.step origin job v).1.Alike (q.step origin job w).1 ∧
      (p.step origin job v).2 = (q.step origin job w).2 := by
  have hdecides : ∀ s ∈ p.stages, s.DecidesByPayload := fun s hs =>
    h.decides s (h.stages.mem_iff.mp hs)
  rw [step, step, h.stages.length_eq, hw.state]
  generalize job.admitted q.stages.length = admitted
  have hsame : admitted.payload = admitted.payload := rfl
  have hp := offer_taker hdecides hsame w.state
  have hq := offer_taker h.decides hsame w.state
  obtain ⟨hstate, -⟩ :=
    offer_of_looksAtPayload (fun s hs => (hdecides s hs).looksAtPayload) hsame w.state
  obtain ⟨hstate', -⟩ :=
    offer_of_looksAtPayload (fun s hs => (h.decides s hs).looksAtPayload) hsame w.state
  have hcourse := sameCourse_offer p.stages admitted w.state
  have hcourse' := sameCourse_offer q.stages admitted w.state
  have hdeclined := offer_declined p.stages admitted w.state
  have hdeclined' := offer_declined q.stages admitted w.state
  rw [h.taker] at hp
  generalize offer admitted w.state p.stages = offered at hp hstate hcourse hdeclined ⊢
  generalize offer admitted w.state q.stages = offered' at hq hstate' hcourse' hdeclined' ⊢
  obtain ⟨a, state, taker⟩ := offered
  obtain ⟨b, state', taker'⟩ := offered'
  obtain rfl : state = w.state := hstate
  obtain rfl : state' = w.state := hstate'
  obtain rfl : taker = _ := hp
  obtain rfl : taker' = _ := hq
  have hasked : (v.inState w.state).Alike (w.inState w.state) :=
    ⟨hw.queue, rfl, hw.captured, hw.rejected, hw.iterations, hw.transforms⟩
  cases hfind : q.stages.find? (·.takes admitted w.state) with
  | some s =>
    exact h.react_alike origin (hcourse.trans hcourse'.symm) (List.mem_of_find?_eq_some hfind)
      hasked
  | none =>
    rw [hfind] at hdeclined hdeclined'
    have hjobs : a.Alike b := by
      have hperm := Job.declinedByAll_perm (h.stages.map Stage.name) admitted
      rwa [← hdeclined rfl, ← hdeclined' rfl] at hperm
    dsimp only
    rw [hjobs.isExhausted]
    split
    · exact ⟨⟨hw.queue, rfl, hw.captured, List.rel_append hw.rejected (.cons hjobs .nil),
        hw.iterations, hw.transforms⟩, rfl⟩
    · exact ⟨hasked, rfl⟩

/-- **Runs end in the same way in both pipelines**, from any queue and with any budget. -/
theorem drain_alike (h : p.Reorders q) (origin : String) (fuel : ℕ) (hw : v.Alike w) :
    (p.drain origin fuel v).1 = (q.drain origin fuel w).1 ∧
      (p.drain origin fuel v).2.Alike (q.drain origin fuel w).2 := by
  rw [Progress.Alike.iff_matches] at hw ⊢
  refine drain_matches h.budget (fun {a b v w} hjob hmatches => ?_) fuel hw
  rw [← Progress.Alike.iff_matches] at hmatches ⊢
  rw [hjob]
  exact h.step_alike origin b hmatches

end Reorders

end Pipeline

end StagedQuery
