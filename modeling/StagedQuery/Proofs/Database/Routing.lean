import StagedQuery.Proofs.Database.Bounds
import StagedQuery.Proofs.Dispatch.Reordering
import StagedQuery.Proofs.Sql.Contents
import StagedQuery.Proofs.Sql.FirstTokens

set_option relaxedAutoImplicit false
set_option autoImplicit false

/-!
# Where a text goes

Which stage takes a text depends on its first words alone, and no text has the first words of two
kinds of statements. So the stages that read statements may stand in any order, and a text that can
be read as a statement goes to the stage that reads it.

## Main definitions

* `stagesReading` — the stages of the standard pipeline, with those that read statements in a
  certain order.
* `Database.pipelineReading` — the pipeline of a database with these stages.

## Main results

* `Pipeline.drain_along` — a run with any budget goes along a passage and rejects nothing.
* `Database.reorders_pipelineReading` — the order of the stages that read statements is immaterial.
* `readStatement_strip` — what can be read as a statement can be read without the blanks around it.
* `Database.routing_agrees` — the routing of texts agrees with their tokens and with the
  productions.
-/

namespace StagedQuery

/-! ## The stages that read statements, in any order -/

/-- The stages of the standard pipeline, with those that read statements in a certain order. -/
def stagesReading (env : Surroundings) (order : List StatementKind) :
    List (Stage Session Fault) :=
  order.map readingStage ++ executionOrder.map (executionStage env)
    ++ Operator.all.map operatorStage ++ [listingStage, resultStage]

/-- If at most one item passes a test, the first one to pass it is the same in every order. -/
lemma find?_eq_of_perm {α : Type} {test : α → Bool} {l l' : List α} (h : l.Perm l')
    (hone : ∀ a ∈ l, ∀ b ∈ l, test a = true → test b = true → a = b) :
    l.find? test = l'.find? test := by
  cases hfind : l'.find? test with
  | none =>
    rw [List.find?_eq_none] at hfind ⊢
    exact fun a ha => hfind a (h.mem_iff.mp ha)
  | some b =>
    have hb : b ∈ l := h.mem_iff.mpr (List.mem_of_find?_eq_some hfind)
    have htest : test b = true := List.find?_some hfind
    cases hfind' : l.find? test with
    | none => exact absurd htest (by simpa using List.find?_eq_none.mp hfind' b hb)
    | some a =>
      have ha : a ∈ l := List.mem_of_find?_eq_some hfind'
      rw [hone a ha b hb (List.find?_some hfind') htest]

/-- At most one of the stages that read statements takes a job. -/
lemma kind_eq_of_takes {a b : StatementKind} {job : Job} {session : Session}
    (ha : (readingStage a).takes job session = true)
    (hb : (readingStage b).takes job session = true) : a = b := by
  rw [takes_readingStage] at ha hb
  cases hpayload : job.payload with
  | text text =>
    rw [hpayload] at ha hb
    exact StatementKind.eq_of_opens ha hb
  | statement | selection | outcome | value =>
    rw [hpayload] at ha
    cases ha

/-- The same stage takes every job, whatever the order of the stages that read statements. -/
lemma find?_stagesReading {order : List StatementKind} (h : order.Perm readingOrder)
    (env : Surroundings) (job : Job) (session : Session) :
    (stagesReading env order).find? (·.takes job session) =
      (standardStages env).find? (·.takes job session) := by
  have hreading : (order.map readingStage).find? (·.takes job session) =
      (readingOrder.map readingStage).find? (·.takes job session) := by
    rw [List.find?_map, List.find?_map]
    exact congrArg _ (find?_eq_of_perm h fun a _ b _ ha hb => kind_eq_of_takes ha hb)
  simp only [stagesReading, standardStages, List.find?_append, hreading]

/-- What an advance says is the same for jobs on the same course. -/
lemma Advance.reaction_eq (advance : Advance) {a b : Job} (h : a.SameCourse b) :
    advance.reaction a = advance.reaction b := by
  rw [Advance.reaction, Advance.reaction]
  rcases advance.result with (e | f) | payload
  · rfl
  · rfl
  · dsimp only
    rw [h.successor]

/-- No stage of the standard pipeline asks which others declined a job. -/
lemma ignoresDeclined_standardStages (env : Surroundings) :
    ∀ s ∈ standardStages env, s.IgnoresDeclined := by
  intro s hs a b session h
  rcases handle_standardStages hs b.payload session with ⟨advance, hreact⟩ | ⟨_, -, hreact⟩
  · rw [hreact a h.payload, hreact b rfl]
    exact advance.reaction_eq h
  · rw [hreact a h.payload, hreact b rfl]

/-! ## Along a passage -/

/-- **A run with any budget goes along the passage** of its only job, as far as the budget allows:
it notes the first stages of the passage, and rejects nothing.

**Proof sketch.** Induction on the passage, one job at a time. -/
lemma Pipeline.drain_along {p : Pipeline Session Fault} {env : Surroundings} (origin : String)
    (hp : p.stages = standardStages env) {payload : Payload} {s after : Session}
    {names : List String} {r : Except Fault Outcome} (c : Passage env payload s names after r) :
    ∀ (job : Job) (fuel : ℕ) (captured : List Outcome) (rejected : List Job) (iterations : ℕ)
      (transforms : List (String × String)), job.payload = payload →
      ∃ noted : List (String × String), noted.map Prod.fst = names.take fuel ∧
        (p.drain origin fuel ⟨[job], s, captured, rejected, iterations, transforms⟩).2.rejected =
          rejected ∧
        (p.drain origin fuel ⟨[job], s, captured, rejected, iterations, transforms⟩).2.transforms =
          transforms ++ noted := by
  induction c with
  | capture o s =>
    intro job fuel captured rejected iterations transforms hjob
    cases fuel with
    | zero => exact ⟨[], rfl, rfl, by rw [List.append_nil]; rfl⟩
    | succ fuel =>
      rw [drain_cons_succ, step_capture origin job _ hp o hjob]
      dsimp only
      rw [drain_nil]
      exact ⟨_, by rw [List.take_succ_cons, List.take_nil]; rfl, rfl, rfl⟩
  | @pass payload q s after name a names r h hq c ih =>
    intro job fuel captured rejected iterations transforms hjob
    cases fuel with
    | zero => exact ⟨[], rfl, rfl, by rw [List.append_nil]; rfl⟩
    | succ fuel =>
      obtain ⟨next, hnext, hstep⟩ := step_advance origin job
        ⟨[], s, captured, rejected, iterations + 1, transforms⟩ hp name a (by rw [hjob, h])
      obtain ⟨noted, hnoted, hrejected, htransforms⟩ := ih (next q) fuel captured rejected
        (iterations + 1) (transforms ++ [(name, job.payload.kind)]) (hnext q)
      rw [drain_cons_succ, hstep, hq]
      simp only [List.nil_append]
      refine ⟨(name, job.payload.kind) :: noted, by rw [List.map_cons, hnoted, List.take_succ_cons],
        hrejected, ?_⟩
      rw [htransforms, List.append_assoc, List.singleton_append]
  | @crash payload s name a f h hf =>
    intro job fuel captured rejected iterations transforms hjob
    cases fuel with
    | zero => exact ⟨[], rfl, rfl, by rw [List.append_nil]; rfl⟩
    | succ fuel =>
      obtain ⟨next, -, hstep⟩ := step_advance origin job
        ⟨[], s, captured, rejected, iterations + 1, transforms⟩ hp name a (by rw [hjob, h])
      rw [drain_cons_succ, hstep, hf]
      exact ⟨_, by rw [List.take_succ_cons, List.take_nil]; rfl, rfl, rfl⟩

/-! ## Texts that can be read -/

/-- **What can be read as a statement** can be read as that statement without the blanks around
it. -/
lemma readStatement_strip {kind : StatementKind} {text : String} {s : Statement}
    (h : readStatement kind text = .ok s) : readStatement kind (strip text) = .ok s := by
  obtain ⟨front, rest, last, htokens, -⟩ := exists_production_of_readStatement h
  obtain ⟨body, last', heq, hlast, hlexed⟩ := lexed_of_tokenize htokens
  obtain ⟨rfl, hlasts⟩ := List.append_inj' heq rfl
  obtain rfl := List.singleton_inj.mp hlasts
  have hstrip : Lexed (strip text).toList ((front ++ rest).map Token.content) := by
    rw [strip, String.toList_ofList]
    exact hlexed.strip
  obtain ⟨tokens, htokens', hcontent⟩ := tokenize_of_lexed hstrip
  have hsame : SameContent tokens (front ++ rest ++ [last]) := by
    rw [SameContent, hcontent, ← hlast, ← List.map_singleton, ← List.map_append]
  exact (readStatement_iff kind htokens').mpr
    (hsame.whole ((readStatement_iff kind htokens).mp h))

namespace Database

variable (db : Database) (now : String)

/-- The pipeline of a database, with the stages that read statements in a certain order. -/
def pipelineReading (order : List StatementKind) : Pipeline Session Fault :=
  ⟨stagesReading (db.surroundings now) order, db.settings.budget, db.settings.traceLevel,
    db.settings.explains⟩

/-- **The order of the stages that read statements** is immaterial: the pipeline with another order
differs from the standard one in nothing but the order. -/
lemma reorders_pipelineReading {order : List StatementKind} (h : order.Perm readingOrder) :
    (db.pipelineReading now order).Reorders (db.pipeline now) where
  stages := (((h.map readingStage).append_right _).append_right _).append_right _
  decides := decidesByPayload_standardStages (db.surroundings now)
  taker := find?_stagesReading h (db.surroundings now)
  ignores := ignoresDeclined_standardStages (db.surroundings now)
  budget := rfl
  traceLevel := rfl

variable {db now}

/-- A text that can be read is taken by the stage that reads it. -/
lemma find?_of_readStatement {kind : StatementKind} {text : String} {s : Statement}
    (h : readStatement kind text = .ok s) {job : Job} (hjob : job.payload = .text text)
    (session : Session) :
    (db.pipeline now).stages.find? (·.takes job session) = some (readingStage kind) := by
  rw [stages_pipeline, find?_standardStages, hjob, Payload.taker?, opening?_of_readStatement h]
  rfl

/-- A run over a text that can be read rejects nothing, and the stage that reads it takes it
first. -/
lemma progress_of_readStatement {kind : StatementKind} {sql : String} {s : Statement}
    (h : readStatement kind sql = .ok s) :
    (db.progress now sql).rejected = [] ∧
      (1 ≤ db.settings.budget →
        (db.progress now sql).transforms.head?.map Prod.fst = some (readingStage kind).name) := by
  obtain ⟨names, r, hpassage, -⟩ :=
    Payload.exists_passage_statement (db.surroundings now) db.session s
  have htext := hpassage.text_of_statement (readStatement_strip h)
  obtain ⟨noted, hnoted, hrejected, htransforms⟩ :=
    Pipeline.drain_along (runName db.nextRun) (db.stages_pipeline now) htext
      (.new (.text (strip sql)) (runName db.nextRun)) db.settings.budget.toNat [] [] 0 [] rfl
  refine ⟨hrejected, fun hb => ?_⟩
  obtain ⟨fuel, hfuel⟩ : ∃ n, db.settings.budget.toNat = n + 1 :=
    ⟨db.settings.budget.toNat - 1, by omega⟩
  have hprogress : (db.progress now sql).transforms = noted := htransforms
  rw [hprogress, ← List.head?_map, hnoted, hfuel, List.take_succ_cons, List.head?_cons]

/-- **The routing of texts agrees with their tokens and with the productions.** The stage that reads
a kind of statement takes a basic text, whatever its route and the session, exactly if the first
tokens of the text are the keywords of the kind. No two of these stages take one job. If they stand
in another order, the same stage takes every job, and every run from any queue with any budget comes
to the same end, with the same bookkeeping but for the order in which stages declined rejected jobs.
A text that can be read as a statement, basic or not, is taken by the stage that reads it, and is
never rejected. -/
theorem routing_agrees :
    (∀ (kind : StatementKind) (text : String) (tokens : List Token),
      (∀ c ∈ text.toList, c.toNat < 128) → tokenize text = .ok tokens →
      ∀ (job : Job) (session : Session), job.payload = .text text →
      ((readingStage kind).takes job session = true ↔
        kind.keywords.map TokenKind.keyword <+: tokens.map Token.kind)) ∧
    (∀ (a b : StatementKind) (job : Job) (session : Session),
      (readingStage a).takes job session = true → (readingStage b).takes job session = true →
      a = b) ∧
    (∀ (db : Database) (now : String) (order : List StatementKind), order.Perm readingOrder →
      (∀ (job : Job) (session : Session),
        (db.pipelineReading now order).stages.find? (·.takes job session) =
          (db.pipeline now).stages.find? (·.takes job session)) ∧
      ∀ (origin : String) (fuel : ℕ) (w : Progress Session),
        ((db.pipelineReading now order).drain origin fuel w).1 =
          ((db.pipeline now).drain origin fuel w).1 ∧
        ((db.pipelineReading now order).drain origin fuel w).2.Alike
          ((db.pipeline now).drain origin fuel w).2) ∧
    ∀ (db : Database) (now : String) (kind : StatementKind) (sql : String) (s : Statement),
      readStatement kind sql = .ok s →
      (∀ (job : Job) (session : Session), job.payload = .text sql →
        (db.pipeline now).stages.find? (·.takes job session) = some (readingStage kind)) ∧
      (db.progress now sql).rejected = [] ∧
      (1 ≤ db.settings.budget →
        (db.progress now sql).transforms.head?.map Prod.fst = some (readingStage kind).name) := by
  refine ⟨fun kind text tokens hbasic htokens job session hjob => ?_,
    fun a b job session ha hb => kind_eq_of_takes ha hb, fun db now order horder => ?_,
    fun db now kind sql s hread => ?_⟩
  · rw [takes_readingStage, hjob]
    exact StatementKind.opens_iff_of_tokenize hbasic htokens
  · have hreorders := db.reorders_pipelineReading now horder
    exact ⟨hreorders.taker, fun origin fuel w => hreorders.drain_alike origin fuel (.refl w)⟩
  · exact ⟨fun job session hjob => find?_of_readStatement hread hjob session,
      progress_of_readStatement hread⟩

/-- Separators other than spaces stand between the words of a statement, and the stages stand the
other way round. -/
theorem routing_agrees_separators :
    (readingStage .insert).takes (.new (.text "\x1cinsert\x1fINTO t") "")
        ⟨.empty, ⟨[], []⟩⟩ = true ∧
      (((empty ⟨[], []⟩ .standard).pipelineReading "" readingOrder.reverse).drain "" 9
        (.start [.new (.text "HELLO") ""] ⟨.empty, ⟨[], []⟩⟩)).2.rejected.length = 1 ∧
      ((empty ⟨[], []⟩ .standard).progress "" " save\tdatabase 'f';").transforms.head?.map
        Prod.fst = some "save.parse" := by
  obtain ⟨htokens, -, horder, hread⟩ := routing_agrees
  refine ⟨?_, ?_, ?_⟩
  · have hkinds : (tokenize "\x1cinsert\x1fINTO t").toOption.map (List.map Token.kind) =
        some [.keyword .INSERT, .keyword .INTO, .name, .finish] := by
      decide +kernel
    obtain ⟨tokens, hsome, hkinds⟩ := Option.map_eq_some_iff.mp hkinds
    refine (htokens .insert _ tokens (by decide) (toOption_eq_some.mp hsome) _ _ rfl).mpr ?_
    rw [hkinds]
    exact List.prefix_append [_, _] _
  · obtain ⟨-, hruns⟩ :=
      horder (empty ⟨[], []⟩ .standard) "" readingOrder.reverse (List.reverse_perm _)
    rw [(hruns "" 9 _).2.rejected.length_eq]
    decide +kernel
  · have hsave : readSave " save\tdatabase 'f';" = .ok "f" :=
      toOption_eq_some.mp (by decide +kernel)
    have hstatement : readStatement .save " save\tdatabase 'f';" = .ok (.save "f") := by
      rw [readStatement, hsave]
      rfl
    exact (hread (empty ⟨[], []⟩ .standard) "" .save _ _ hstatement).2.2 (by decide)

end Database

end StagedQuery
