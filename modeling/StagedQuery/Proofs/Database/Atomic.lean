import StagedQuery.Proofs.Database.Run
import StagedQuery.Proofs.Number.Digits
import StagedQuery.Proofs.Store.Changes

set_option relaxedAutoImplicit false
set_option autoImplicit false

/-!
# Errors leave a database as it was

The text of a statement tells success from failure: the text of an error begins with a mark that no
message of success and no listing begins with. A statement whose text has the mark has changed
nothing.

## Main definitions

* `Unmarked` — a text that does not begin like the text of an error.

## Main results

* `Statement.perform_error` — a statement that fails leaves the session.
* `Statement.perform_outcome`, `unmarked_listing` — messages of success and listings are unmarked.
* `Database.execute_atomic` — the same for whole texts, whatever the store, the disk and the budget.
-/

namespace StagedQuery

/-! ## The texts of successes -/

/-- A text that does not begin like the text of an error. -/
def Unmarked (s : String) : Prop := s.toList.head? ≠ some 'E'

/-- An unmarked text stays unmarked with something behind it, unless it is empty. -/
lemma Unmarked.append {s : String} (h : Unmarked s) (hs : s.toList ≠ []) (t : String) :
    Unmarked (s ++ t) := by
  rw [Unmarked, String.toList_append, List.head?_append_of_ne_nil _ hs]
  exact h

/-- A number of rows is unmarked: it begins with a digit. -/
lemma unmarked_rowCount (n : ℕ) : Unmarked (rowCount n) := by
  have hdigits : Unmarked (intText (n : ℤ)) := fun h =>
    not_mem_intText (by decide) n (List.mem_of_mem_head? h)
  rw [rowCount]
  refine hdigits.append ?_ _
  rw [toList_intText_natCast]
  exact digitsOf_ne_nil n

/-- A number of rows is not empty. -/
lemma toList_rowCount_ne_nil (n : ℤ) : (rowCount n).toList ≠ [] := by
  rw [rowCount, String.toList_append]
  split <;> simp

/-- A message about rows is unmarked. -/
lemma unmarked_changeMessage (n : ℕ) (verb : String) (table : Option String) :
    Unmarked (changeMessage n verb table) := by
  unfold changeMessage
  rw [String.append_assoc, String.append_assoc]
  exact (unmarked_rowCount n).append (toList_rowCount_ne_nil n) _

/-- A text that begins with a fixed part is unmarked if that part is. -/
lemma unmarked_of_front {front : String} (h : front.toList.head? ≠ some 'E')
    (hfront : front.toList ≠ []) (rest : String) : Unmarked (front ++ rest) :=
  Unmarked.append (s := front) h hfront rest

/-- A listing is unmarked: it begins with a number of rows. -/
lemma unmarked_listing {labels : List Value} {rows : List Row} {text : String}
    (h : listing labels rows = .ok text) : Unmarked text := by
  rw [listing] at h
  split at h
  · rw [← Except.ok.inj h, Unmarked]
    simp
  · obtain ⟨header, -, h⟩ := bind_eq_ok.mp h
    rw [← Except.ok.inj h]
    simp only [String.intercalate_cons_cons, String.append_assoc]
    exact (unmarked_rowCount rows.length).append (toList_rowCount_ne_nil _) _

/-! ## One statement -/

namespace Statement

variable {env : Surroundings} {session : Session}

/-- A change that is made as a whole or not at all leaves the session if it fails. -/
lemma session_ofChange_error {change : Except Failure (Session × Payload)} {e : Failure}
    (h : (Advance.ofChange session change).result = .error e) :
    (Advance.ofChange session change).session = session := by
  rcases change with e' | ⟨after, p⟩
  · rfl
  · simp [Advance.ofChange] at h

/-- An effect that fails and leaves the store leaves the session. -/
lemma session_effect_error {f : Effect} {e : Failure}
    (hf : ∀ e, f.result = .error e → f.store = session.store)
    (h : (f.advance session).result = .error e) : (f.advance session).session = session := by
  rcases hresult : f.result with e' | message
  · rw [Effect.advance, hf e' hresult]
  · simp [Effect.advance, hresult, Except.map] at h

/-- **A statement that fails leaves the session**, with the store and the disk. -/
theorem perform_error {s : Statement} {e : Failure}
    (h : (s.perform env session).result = .error e) :
    (s.perform env session).session = session := by
  cases s with
  | createTable s => exact session_effect_error (fun e he => CreateTable.execute_error he) h
  | dropTable s => exact session_effect_error (fun e he => DropTable.execute_error he) h
  | insert s => exact session_effect_error (fun e he => Insert.execute_error he) h
  | update s => exact session_effect_error (fun e he => Update.execute_error he) h
  | delete s => exact session_effect_error (fun e he => Delete.execute_error he) h
  | save path => exact session_ofChange_error h
  | load path => exact session_ofChange_error h
  | select s => rfl

/-- What an effect with a message goes on as. -/
lemma outcome_effect {f : Effect} {o : Outcome}
    (h : (f.advance session).result = .ok (.outcome o)) :
    ∃ message, f.result = .ok message ∧ o = .ok message := by
  obtain ⟨message, hmessage, ho⟩ := map_eq_ok.mp h
  exact ⟨message, hmessage, (Payload.outcome.inj ho).symm⟩

/-- What a change of the session, made as a whole, goes on as. -/
lemma payload_ofChange {change : Except Failure (Session × Payload)} {p : Payload}
    (h : (Advance.ofChange session change).result = .ok p) : ∃ after, change = .ok (after, p) := by
  rcases change with e | ⟨after, p'⟩
  · simp [Advance.ofChange] at h
  · obtain rfl := Except.ok.inj h
    exact ⟨after, rfl⟩

/-- A message about a table by its name is unmarked. -/
lemma unmarked_aboutTable (table rest : String) : Unmarked ("Table '" ++ table ++ rest) := by
  rw [String.append_assoc]
  exact unmarked_of_front (by simp) (by simp) _

/-- **A statement that succeeds with a message** succeeds with an unmarked one. -/
theorem perform_outcome {s : Statement} {o : Outcome}
    (h : (s.perform env session).result = .ok (.outcome o)) :
    o.isError = false ∧ Unmarked o.text := by
  have heffect : ∀ f : Effect, (f.advance session).result = .ok (.outcome o) →
      (∀ message, f.result = .ok message → Unmarked message) →
      o.isError = false ∧ Unmarked o.text := by
    intro f hf hmessage
    obtain ⟨message, hresult, rfl⟩ := outcome_effect hf
    exact ⟨rfl, hmessage message hresult⟩
  cases s with
  | createTable s =>
    refine heffect _ h fun message hmessage => ?_
    rcases CreateTable.execute_ok hmessage with ⟨-, -, -, rfl⟩ | ⟨-, -, -, rfl⟩
    · exact unmarked_aboutTable _ _
    · exact unmarked_aboutTable _ _
  | dropTable s =>
    refine heffect _ h fun message hmessage => ?_
    rcases DropTable.execute_ok hmessage with ⟨-, -, -, rfl⟩ | ⟨-, -, rfl⟩
    · exact unmarked_aboutTable _ _
    · exact unmarked_aboutTable _ _
  | insert s =>
    refine heffect _ h fun message hmessage => ?_
    obtain ⟨t, rows, -, -, rfl, -⟩ := Insert.execute_ok hmessage
    exact unmarked_changeMessage rows.length _ _
  | update s =>
    refine heffect _ h fun message hmessage => ?_
    obtain ⟨t, rows, -, -, -, -, -, -, rfl⟩ := Update.execute_ok hmessage
    exact unmarked_changeMessage _ _ _
  | delete s =>
    refine heffect _ h fun message hmessage => ?_
    obtain ⟨t, -, -, -, rfl⟩ := Delete.execute_ok hmessage
    exact unmarked_changeMessage _ _ _
  | select s =>
    obtain ⟨selection, -, heq⟩ := map_eq_ok.mp h
    simp at heq
  | save path =>
    obtain ⟨after, hafter⟩ := payload_ofChange h
    obtain ⟨file, -, hrest⟩ := bind_eq_ok.mp hafter
    obtain ⟨⟨disk, file'⟩, -, heq⟩ := bind_eq_ok.mp hrest
    rw [← Payload.outcome.inj (Prod.mk.inj (Except.ok.inj heq)).2]
    refine ⟨rfl, ?_⟩
    simp only [Outcome.ok, String.append_assoc]
    exact unmarked_of_front (by simp) (by simp) _
  | load path =>
    obtain ⟨after, hafter⟩ := payload_ofChange h
    obtain ⟨file, -, hrest⟩ := bind_eq_ok.mp hafter
    obtain ⟨store, -, heq⟩ := bind_eq_ok.mp hrest
    rw [← Payload.outcome.inj (Prod.mk.inj (Except.ok.inj heq)).2]
    refine ⟨rfl, ?_⟩
    simp only [Outcome.ok, String.append_assoc]
    exact unmarked_of_front (by simp) (by simp) _

end Statement

/-! ## The passage of a text -/

namespace Passage

variable {env : Surroundings} {session after : Session} {names : List String} {o : Outcome}

/-- An outcome ends its passage as it is. -/
lemma of_outcome {r : Except Fault Outcome} (c : Passage env (.outcome o) session names after r) :
    after = session ∧ r = .ok o ∧ names = [resultStage.name] := by
  cases c with
  | capture => exact ⟨rfl, rfl, rfl⟩
  | pass h => simp [Payload.advance?] at h
  | crash h => simp [Payload.advance?] at h

/-- A selection that comes to an outcome comes to a listing, and leaves the session.

**Proof sketch.** Induction on the passage. An operator leaves another selection or ends the run,
and the stage behind them makes the listing. -/
lemma of_selection {p : Payload} {r : Except Fault Outcome}
    (c : Passage env p session names after r) :
    ∀ s : Selection, p = .selection s → r = .ok o →
      after = session ∧ ∃ labels rows text, listing labels rows = .ok text ∧ o = .ok text := by
  induction c with
  | capture => exact fun _ h => absurd h (by simp)
  | crash => exact fun _ _ h => absurd h (by simp)
  | @pass p q s after name a names r h hq c ih =>
    rintro s rfl hr
    rw [Payload.advance?] at h
    cases hnext : Operator.next? s with
    | some op =>
      simp only [hnext, Option.some.injEq, Prod.mk.injEq] at h
      obtain ⟨-, rfl⟩ := h
      cases happ : op.apply s with
      | error f => simp [happ, Advance.follower, Except.mapError, Except.map] at hq
      | ok next =>
        simp only [happ, Advance.follower, Except.mapError, Except.map, Except.ok.injEq] at hq
        exact ih next hq.symm hr
    | none =>
      simp only [hnext, Option.some.injEq, Prod.mk.injEq] at h
      obtain ⟨-, rfl⟩ := h
      cases hlist : listing s.labels s.rows with
      | error f => simp [hlist, Advance.follower, Except.mapError, Except.map] at hq
      | ok text =>
        simp only [hlist, Advance.follower, Except.mapError, Except.map, Except.ok.injEq] at hq
        subst hq
        obtain ⟨hafter, ho, -⟩ := of_outcome c
        exact ⟨hafter, s.labels, s.rows, text, hlist, Except.ok.inj (hr.symm.trans ho)⟩

/-- A statement that comes to an outcome comes to an error and leaves the session, or comes to an
unmarked success. -/
lemma of_statement {s : Statement} (c : Passage env (.statement s) session names after (.ok o)) :
    (o.isError = true ∧ after = session) ∨ (o.isError = false ∧ Unmarked o.text) := by
  cases c with
  | @pass _ q _ _ name a names r h hq c =>
    simp only [Payload.advance?, Option.some.injEq, Prod.mk.injEq] at h
    obtain ⟨-, rfl⟩ := h
    rw [Advance.follower] at hq
    rcases hresult : (s.perform env session).result with (e | f) | q'
    · rw [hresult] at hq
      obtain rfl := Except.ok.inj hq
      obtain ⟨rfl, ho, -⟩ := of_outcome c
      obtain rfl := Except.ok.inj ho
      exact .inl ⟨rfl, Statement.perform_error hresult⟩
    · rw [hresult] at hq
      simp at hq
    · rw [hresult] at hq
      obtain rfl := Except.ok.inj hq
      have hsettled := Payload.settled_perform s q' (by rw [Advance.follower, hresult])
      cases q' with
      | outcome o' =>
        obtain ⟨-, ho, -⟩ := of_outcome c
        obtain rfl := Except.ok.inj ho
        exact .inr (Statement.perform_outcome hresult)
      | selection selection =>
        obtain ⟨-, labels, rows, text, hlist, rfl⟩ := of_selection c selection rfl rfl
        exact .inr ⟨rfl, unmarked_listing hlist⟩
      | text t => simp [Payload.isSettled] at hsettled
      | statement t => simp [Payload.isSettled] at hsettled
      | value v => simp [Payload.isSettled] at hsettled

/-- A text that comes to an outcome comes to an error and leaves the session, or comes to an
unmarked success. -/
lemma of_text {text : String} (c : Passage env (.text text) session names after (.ok o)) :
    (o.isError = true ∧ after = session) ∨ (o.isError = false ∧ Unmarked o.text) := by
  cases c with
  | @pass _ q _ _ name a names r h hq c =>
    obtain ⟨kind, -, heq⟩ := Option.map_eq_some_iff.mp h
    obtain ⟨-, rfl⟩ := Prod.mk.inj heq
    rcases hread : readStatement kind text with (e | digits) | s
    · simp only [hread, Advance.follower, Except.mapError, Except.map, Failure.ofReadError,
        Except.ok.injEq] at hq
      subst hq
      obtain ⟨rfl, ho, -⟩ := of_outcome c
      obtain rfl := Except.ok.inj ho
      exact .inl ⟨rfl, rfl⟩
    · simp [hread, Advance.follower, Except.mapError, Except.map, Failure.ofReadError] at hq
    · simp only [hread, Advance.follower, Except.mapError, Except.map, Except.ok.injEq] at hq
      subst hq
      exact of_statement c

end Passage

/-! ## Whole texts -/

/-- The mark of an error. -/
def errorMark : List Char := "ERROR: ".toList

/-- The text of an outcome has the mark of an error exactly if the outcome is one, provided that
successes are unmarked. -/
lemma Outcome.errorMark_render {o : Outcome} (h : o.isError = false → Unmarked o.text) :
    errorMark <+: o.render.toList ↔ o.isError = true := by
  cases hkind : o.isError with
  | true =>
    rw [render, if_pos hkind, String.toList_append]
    exact iff_of_true (List.prefix_append errorMark o.text.toList) rfl
  | false =>
    rw [render, if_neg (by simp [hkind])]
    refine ⟨fun hprefix => absurd ?_ (h hkind), fun hfalse => absurd hfalse (by simp)⟩
    obtain ⟨rest, hrest⟩ := hprefix
    rw [← hrest]
    rfl

/-- **Errors leave a database as it was.** Take any database, with whatever store, disk and budget,
and any text that is executed to a text. The run captured an outcome whose form that text is, and
the text has the mark of an error exactly if the outcome is one; and if it has the mark, the store
and the disk are as before. -/
theorem Database.execute_atomic (db : Database) (now sql text : String)
    (h : (db.execute now sql).1 = .ok text) :
    (∃ report o, (db.run now sql).1 = .ok report ∧ report.result = some o ∧ text = o.render ∧
      (errorMark <+: text.toList ↔ o.isError = true)) ∧
    (errorMark <+: text.toList →
      (db.execute now sql).2.store = db.store ∧ (db.execute now sql).2.disk = db.disk) := by
  obtain ⟨report, hreport, htext⟩ :=
    map_eq_ok.mp (show (db.run now sql).1.map Report.text = _ from h)
  rcases db.run_report now sql hreport with ⟨job, hresult, hsession⟩ | ⟨names, o, c, hresult⟩
  · have hrender : text = ((db.pipeline now).rejection job).render := by
      rw [← htext, Report.text, hresult]
    have hmark := Outcome.errorMark_render (o := (db.pipeline now).rejection job)
      fun h => absurd h (by simp [Pipeline.rejection, Outcome.error])
    refine ⟨⟨report, _, hreport, hresult, hrender, ?_⟩, fun _ => ?_⟩
    · rw [hrender]
      exact hmark
    · exact ⟨congrArg Session.store hsession, congrArg Session.disk hsession⟩
  · have hrender : text = o.render := by rw [← htext, Report.text, hresult]
    have hcases := Passage.of_text c
    have hmark := Outcome.errorMark_render (o := o) fun ho => by
      rcases hcases with ⟨herror, -⟩ | ⟨-, hunmarked⟩
      · simp [ho] at herror
      · exact hunmarked
    refine ⟨⟨report, o, hreport, hresult, hrender, by rw [hrender]; exact hmark⟩, fun hprefix => ?_⟩
    rw [hrender, hmark] at hprefix
    rcases hcases with ⟨-, hsession⟩ | ⟨hok, -⟩
    · exact ⟨congrArg Session.store hsession, congrArg Session.disk hsession⟩
    · simp [hok] at hprefix

/-- A batch whose second row lacks a required value is refused, and its first row is not stored. -/
theorem Database.execute_atomic_batch :
    let db := (Database.empty ⟨[], []⟩ .standard).withStore
      ⟨[⟨⟨"t", [⟨.text "a", "TEXT", .required, .null⟩]⟩, []⟩]⟩
    (db.execute "" "INSERT INTO t VALUES ('x'), (NULL)").1 =
        .ok "ERROR: Column 'a' cannot be NULL" ∧
      (db.execute "" "INSERT INTO t VALUES ('x'), (NULL)").2.store = db.store := by
  intro db
  have hrun : (db.execute "" "INSERT INTO t VALUES ('x'), (NULL)").1 =
      .ok "ERROR: Column 'a' cannot be NULL" := by
    refine toOption_eq_some.mp ?_
    decide +kernel
  exact ⟨hrun, ((execute_atomic db "" _ _ hrun).2 (by decide)).1⟩

end StagedQuery
