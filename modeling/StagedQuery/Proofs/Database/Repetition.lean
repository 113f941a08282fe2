import StagedQuery.Proofs.Database.Insertion
import StagedQuery.Proofs.Database.Locality
import StagedQuery.Proofs.Database.Matching
import StagedQuery.Proofs.Store.Repetition

set_option relaxedAutoImplicit false
set_option autoImplicit false

/-!
# Texts that are executed twice

Executing the text of an `UPDATE` or a `DELETE` a second time leaves the store that the first time
has left, whatever the store was and whatever the budget is.

## Main definitions

* `Database.Repeats` — a text executed twice, by the effect of its statement.

## Main results

* `Database.repeats_of_effect` — a statement whose effect can be repeated, as a text.
* `Database.execute_repeated` — `UPDATE` and `DELETE`, as statements and as texts.
-/

namespace StagedQuery.Database

variable {db : Database} {now now' sql : String} {s : Statement} {name : String}
  {again : String → Prop}

/-- What comes of a text that is executed twice, where `effect` is what its statement does to the
store. The second execution leaves the store. If the first one fails, the second one gives the same
error; if the first one succeeds, so does the second one, with a message of some kind. The error and
the messages are seen if the budget allows three jobs; the store does not depend on that. -/
structure Repeats (db : Database) (now now' sql : String) (effect : Effect)
    (again : String → Prop) : Prop where
  store : ((db.execute now sql).2.execute now' sql).2.store = (db.execute now sql).2.store
  sameText : ∀ e, effect.result = .error e →
    ((db.execute now sql).2.execute now' sql).1 = (db.execute now sql).1
  failure : ∀ e, effect.result = .error e → 3 ≤ db.settings.budget →
    ∃ error : EngineError, e = .error error ∧
      (db.execute now sql).1 = .ok (Outcome.error error.message).render
  success : ∀ message, effect.result = .ok message → 3 ≤ db.settings.budget →
    (db.execute now sql).1 = .ok message ∧
      ∃ message', ((db.execute now sql).2.execute now' sql).1 = .ok message' ∧ again message'

/-- The message of an effect that succeeds is the text of its statement. -/
lemma execute_text_of_effect {kind : StatementKind} {effect : Effect} {message : String}
    (hread : readStatement kind (strip sql) = .ok s) (hb : 3 ≤ db.settings.budget)
    (hperform : s.perform (db.surroundings now) db.session = effect.advance db.session)
    (h : effect.result = .ok message) : (db.execute now sql).1 = .ok message := by
  have hfollower : (effect.advance db.session).follower = .ok (.outcome (.ok message)) := by
    rw [Effect.advance, h]
    rfl
  rw [execute_of_effect hread hb hperform hfollower]
  rfl

/-- **The text of a statement whose effect can be repeated.** -/
lemma repeats_of_effect {effect : Store → Effect}
    (hread : Statement.ofText? (strip sql) = some s) (hs : s.table? = some name)
    (hperform : ∀ env session, s.perform env session = (effect session.store).advance session)
    (hfaultless : Faultless (effect db.store).result)
    (hkept : ∀ e, (effect db.store).result = .error e → (effect db.store).store = db.store)
    (h : (effect db.store).RepeatedBy again (effect (effect db.store).store)) :
    db.Repeats now now' sql (effect db.store) again := by
  obtain ⟨kind, -, hkind⟩ := Option.bind_eq_some_iff.mp hread
  rw [toOption_eq_some] at hkind
  have hafter : ∀ store : Store, s.storeAfter store = (effect store).store := by
    intro store
    have hsession : (s.perform (db.surroundings now) ⟨store, db.disk⟩).session =
        ⟨s.storeAfter store, db.disk⟩ := Statement.session_perform hs
    rw [hperform] at hsession
    exact (congrArg Session.store hsession).symm
  have hfirst : (db.execute now sql).2.store =
      if 2 ≤ db.settings.budget then (effect db.store).store else db.store := by
    rw [store_execute hread hs, hafter]
  refine ⟨?_, fun e he => ?_, fun e he hb => ?_, fun message hmessage hb => ?_⟩
  · rw [store_execute hread hs, hafter, hfirst, settings_execute]
    split
    · rw [h.store]
    · rfl
  · -- the first execution has left the store, so the second one starts where the first one did
    refine execute_congr hread hs rfl ?_
    rw [hfirst, hkept e he, ite_self]
  · obtain error | fault := e
    · refine ⟨error, rfl, ?_⟩
      have hfollower : ((effect db.store).advance db.session).follower =
          .ok (.outcome (.error error.message)) := by
        rw [Effect.advance, he]
        rfl
      rw [execute_of_effect hkind hb (hperform _ _) hfollower]
    · exact absurd he (hfaultless fault)
  · obtain ⟨message', hsecond, hagain⟩ := h.success message hmessage
    have hstore : (db.execute now sql).2.session.store = (effect db.store).store := by
      show (db.execute now sql).2.store = _
      rw [hfirst, if_pos (by omega)]
    refine ⟨execute_text_of_effect hkind hb (hperform _ _) hmessage, message', ?_, hagain⟩
    refine execute_text_of_effect hkind hb (hperform _ _) ?_
    rw [hstore, hsecond]

/-- **`UPDATE` and `DELETE` can be repeated.** For every store and every `UPDATE` or `DELETE`,
executing it twice leaves the same store as executing it once. If the first execution fails, the
second one fails with the same error; if it succeeds, so does the second one, and a second `DELETE`
tells that no rows were deleted. The same holds of every text that is read as such a statement, on
every database. -/
theorem execute_repeated (db : Database) (now now' sql : String) :
    (∀ s : Update,
      (s.execute db.store).RepeatedBy
        (fun message => ∃ n : ℕ, message = changeMessage n "updated" none)
        (s.execute (s.execute db.store).store) ∧
      (Statement.ofText? (strip sql) = some (.update s) →
        db.Repeats now now' sql (s.execute db.store)
          fun message => ∃ n : ℕ, message = changeMessage n "updated" none)) ∧
    ∀ s : Delete,
      (s.execute db.store).RepeatedBy (· = "0 rows deleted")
        (s.execute (s.execute db.store).store) ∧
      (Statement.ofText? (strip sql) = some (.delete s) →
        db.Repeats now now' sql (s.execute db.store) (· = "0 rows deleted")) := by
  have hnone : changeMessage 0 "deleted" none = "0 rows deleted" := by decide +kernel
  refine ⟨fun s => ⟨s.repeatedBy db.store, fun hread => ?_⟩, fun s => ⟨?_, fun hread => ?_⟩⟩
  · exact repeats_of_effect hread rfl (fun _ _ => rfl) s.faultless_execute
      (fun _ => Update.execute_error) (s.repeatedBy db.store)
  · rw [← hnone]
    exact s.repeatedBy db.store
  · rw [← hnone]
    exact repeats_of_effect hread rfl (fun _ _ => rfl) s.faultless_execute
      (fun _ => Delete.execute_error) (s.repeatedBy db.store)

/-- An `UPDATE` that meets the row that it has rewritten leaves it, and a row is deleted once. -/
theorem execute_repeated_oneRow :
    ((oneRow.execute "" "UPDATE t SET a = 8 WHERE a < 9").2.execute ""
        "UPDATE t SET a = 8 WHERE a < 9").2.store =
      (oneRow.execute "" "UPDATE t SET a = 8 WHERE a < 9").2.store ∧
    ((oneRow.execute "" "DELETE FROM t WHERE a = 7").2.execute ""
      "DELETE FROM t WHERE a = 7").1 = .ok "0 rows deleted" := by
  have hupdate : (Statement.ofText? (strip "UPDATE t SET a = 8 WHERE a < 9")).map
      Statement.kind = some .update := by decide +kernel
  have hdelete : (Statement.ofText? (strip "DELETE FROM t WHERE a = 7")).bind (fun s =>
      match s with
      | .delete s => (s.execute oneRow.store).result.toOption
      | _ => none) = some "1 row deleted" := by decide +kernel
  obtain ⟨s, hs, hkind⟩ := Option.map_eq_some_iff.mp hupdate
  obtain ⟨s', hs', hresult⟩ := Option.bind_eq_some_iff.mp hdelete
  cases s with
  | update s =>
    cases s' with
    | delete s' =>
      have hupdated := ((execute_repeated oneRow "" "" _).1 s).2 hs
      have hdeleted := ((execute_repeated oneRow "" "" _).2 s').2 hs'
      obtain ⟨-, message, hsecond, rfl⟩ :=
        hdeleted.success _ (toOption_eq_some.mp hresult) (by decide +kernel)
      exact ⟨hupdated.store, hsecond⟩
    | _ => cases hresult
  | _ => cases hkind

end StagedQuery.Database
