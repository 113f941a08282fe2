import Mathlib.Data.List.TakeWhile
import StagedQuery.Proofs.Document.RoundTrip

set_option relaxedAutoImplicit false
set_option autoImplicit false

/-!
# What the reader gives

Every document that is read from a text can be written and read back: the reader refuses integers
that are too long, and puts a field whose key occurs again in the place of the first one. So the
documents that can be read back are just those that texts hold.

## Main results

* `Document.areReadable_iff`, `Document.fieldsReadable_iff` — items and fields, one by one.
* `Document.field?_of_mem` — the fields of an object in which no key occurs twice.
* `Document.isReadable_iff` — the documents that texts hold.
-/

namespace StagedQuery.Document

/-! ## Items and fields -/

/-- Documents can be read back together if each of them can. -/
lemma areReadable_iff {ds : List Document} : AreReadable ds ↔ ∀ d ∈ ds, d.IsReadable := by
  induction ds with
  | nil => simp [AreReadable]
  | cons d ds ih => rw [AreReadable, ih, List.forall_mem_cons]

/-- Fields can be read back together if the document of each of them can. -/
lemma fieldsReadable_iff {fields : List (String × Document)} :
    FieldsReadable fields ↔ ∀ f ∈ fields, f.2.IsReadable := by
  induction fields with
  | nil => simp [FieldsReadable]
  | cons f fields ih =>
    obtain ⟨key, d⟩ := f
    rw [FieldsReadable, ih, List.forall_mem_cons]

/-- Where no key occurs twice, every field holds the document at its key. -/
lemma field?_of_mem {fields : List (String × Document)} (h : (fields.map Prod.fst).Nodup)
    {key : String} {d : Document} (hmem : (key, d) ∈ fields) : field? fields key = some d := by
  induction fields with
  | nil => simp at hmem
  | cons f fields ih =>
    rw [List.map_cons, List.nodup_cons] at h
    rw [field?, List.find?_cons]
    rcases List.mem_cons.mp hmem with rfl | hmem
    · simp
    · have hne : f.1 ≠ key := fun heq => h.1 (heq ▸ List.mem_map_of_mem (f := Prod.fst) hmem)
      rw [beq_eq_false_iff_ne.mpr hne]
      exact ih h.2 hmem

/-- The document in a field is that of one of the fields. -/
lemma mem_of_field? {fields : List (String × Document)} {key : String} {d : Document}
    (h : field? fields key = some d) : ∃ f ∈ fields, f.2 = d := by
  obtain ⟨f, hfind, rfl⟩ := Option.map_eq_some_iff.mp h
  exact ⟨f, List.mem_of_find?_eq_some hfind, rfl⟩

/-- The keys after a field is set: the old ones, and its own key at the end if it is new. -/
lemma keys_putField (fields : List (String × Document)) (key : String) (d : Document) :
    (putField fields key d).map Prod.fst =
      if key ∈ fields.map Prod.fst then fields.map Prod.fst else fields.map Prod.fst ++ [key] := by
  induction fields with
  | nil => rfl
  | cons field fields ih =>
    obtain ⟨k, old⟩ := field
    rw [putField]
    by_cases hkey : k = key
    · simp [hkey]
    · rw [if_neg hkey, List.map_cons, ih, List.map_cons]
      simp only [List.mem_cons, Ne.symm hkey, false_or]
      split <;> simp

/-- Setting a field keeps fields that can be read back. -/
lemma readable_putField {fields : List (String × Document)}
    (h : (object fields).IsReadable) (key : String) {d : Document} (hd : d.IsReadable) :
    (object (putField fields key d)).IsReadable := by
  obtain ⟨hkeys, hfields⟩ := h
  refine ⟨?_, ?_⟩
  · rw [keys_putField]
    split
    · exact hkeys
    · next hnew =>
      exact List.nodup_append.mpr ⟨hkeys, List.nodup_singleton _, by
        rintro a ha b hb rfl
        exact hnew (List.mem_singleton.mp hb ▸ ha)⟩
  · clear hkeys
    induction fields with
    | nil => exact ⟨hd, trivial⟩
    | cons field fields ih =>
      obtain ⟨k, old⟩ := field
      rw [putField]
      split
      · exact ⟨hd, hfields.2⟩
      · exact ⟨hfields.1, ih hfields.2⟩

/-! ## Numbers -/

/-- The digits before the point are digits, at least one. -/
lemma digits_of_scanWhole {cs whole rest : List Char} (h : scanWhole cs = some (whole, rest)) :
    whole ≠ [] ∧ ∀ c ∈ whole, isDigit c = true := by
  cases cs with
  | nil => cases h
  | cons c cs =>
    rw [scanWhole] at h
    split at h
    · obtain ⟨rfl, -⟩ := Prod.mk.inj (Option.some.inj h)
      exact ⟨List.cons_ne_nil _ _, by decide⟩
    · split at h
      · next hdigit =>
        obtain ⟨rfl, -⟩ := Prod.mk.inj (Option.some.inj h)
        refine ⟨List.cons_ne_nil _ _, fun d hd => ?_⟩
        rcases List.mem_cons.mp hd with rfl | hd
        · exact hdigit
        · exact List.mem_takeWhile_imp hd
      · cases h

/-- A number that is read can be read back: integers that are too long are refused. -/
lemma isReadable_of_scanUnsigned {negative : Bool} {cs rest : List Char} {d : Document}
    (h : scanUnsigned negative cs = some (d, rest)) : d.IsReadable := by
  obtain ⟨⟨whole, rest'⟩, hwhole, h⟩ := Option.bind_eq_some_iff.mp h
  obtain ⟨hne, hdigits⟩ := digits_of_scanWhole hwhole
  dsimp only at h
  split at h
  · split at h
    · cases h
    · next hshort =>
      obtain ⟨rfl, -⟩ := Prod.mk.inj (Option.some.inj h)
      have habs : (if negative then -(natOfDigits whole : ℤ) else natOfDigits whole).natAbs =
          natOfDigits whole := by
        cases negative <;> simp
      rw [IsReadable, habs]
      exact (length_digitsOf_natOfDigits_le hne hdigits).trans (by simpa using hshort)
  · obtain ⟨rfl, -⟩ := Prod.mk.inj (Option.some.inj h)
    trivial

/-- A constant or a number that is read can be read back. -/
lemma isReadable_of_scanAtom {cs rest : List Char} {d : Document}
    (h : scanAtom cs = some (d, rest)) : d.IsReadable := by
  unfold scanAtom at h
  split at h
  · obtain ⟨rfl, -⟩ := Prod.mk.inj (Option.some.inj h)
    trivial
  · obtain ⟨rfl, -⟩ := Prod.mk.inj (Option.some.inj h)
    trivial
  · obtain ⟨rfl, -⟩ := Prod.mk.inj (Option.some.inj h)
    trivial
  · split at h
    · obtain ⟨rfl, -⟩ := Prod.mk.inj (Option.some.inj h)
      trivial
    · obtain ⟨rfl, -⟩ := Prod.mk.inj (Option.some.inj h)
      trivial
    · obtain ⟨rfl, -⟩ := Prod.mk.inj (Option.some.inj h)
      trivial
    · split at h
      · exact isReadable_of_scanUnsigned h
      · exact isReadable_of_scanUnsigned h

/-! ## Documents -/

/-- What is read within a bound on the steps can be read back: documents, the items of a list, and
the fields of an object behind others that can be read back.

**Proof sketch.** Induction on the bound. -/
lemma readable_of_scan (fuel : ℕ) :
    (∀ {cs rest : List Char} {d : Document}, scan fuel cs = some (d, rest) → d.IsReadable) ∧
    (∀ {cs rest : List Char} {ds : List Document}, scanItems fuel cs = some (ds, rest) →
      AreReadable ds) ∧
    ∀ {before fields : List (String × Document)} {cs rest : List Char},
      (object before).IsReadable → scanFields fuel before cs = some (fields, rest) →
        (object fields).IsReadable := by
  induction fuel with
  | zero => exact ⟨fun h => (nomatch h), fun h => (nomatch h), fun _ h => (nomatch h)⟩
  | succ fuel ih =>
    obtain ⟨hscan, hitems, hfields⟩ := ih
    refine ⟨fun {cs rest d} h => ?_, fun {cs rest ds} h => ?_,
      fun {before fields cs rest} hb h => ?_⟩
    · rw [scan.eq_def] at h
      dsimp only at h
      split at h
      · obtain ⟨r, -, hr⟩ := Option.map_eq_some_iff.mp h
        obtain ⟨rfl, -⟩ := Prod.mk.inj hr
        trivial
      · split at h
        · obtain ⟨rfl, -⟩ := Prod.mk.inj (Option.some.inj h)
          trivial
        · obtain ⟨⟨ds, after⟩, hread, hr⟩ := Option.map_eq_some_iff.mp h
          obtain ⟨rfl, -⟩ := Prod.mk.inj hr
          exact hitems hread
      · split at h
        · obtain ⟨rfl, -⟩ := Prod.mk.inj (Option.some.inj h)
          exact ⟨List.nodup_nil, trivial⟩
        · obtain ⟨⟨fields, after⟩, hread, hr⟩ := Option.map_eq_some_iff.mp h
          obtain ⟨rfl, -⟩ := Prod.mk.inj hr
          have hempty : (object []).IsReadable := ⟨List.nodup_nil, trivial⟩
          exact hfields hempty hread
      · exact isReadable_of_scanAtom h
    · rw [scanItems] at h
      split at h
      · cases h
      · next item after hitem =>
        split at h
        · obtain ⟨⟨ds, after⟩, hread, hr⟩ := Option.map_eq_some_iff.mp h
          obtain ⟨rfl, -⟩ := Prod.mk.inj hr
          exact ⟨hscan hitem, hitems hread⟩
        · obtain ⟨rfl, -⟩ := Prod.mk.inj (Option.some.inj h)
          exact ⟨hscan hitem, trivial⟩
        · cases h
    · rw [scanFields.eq_def] at h
      dsimp only at h
      split at h
      · split at h
        · cases h
        · next key after hkey =>
          split at h
          · split at h
            · cases h
            · next d after hd =>
              have hput := readable_putField hb key (hscan hd)
              split at h
              · exact hfields hput h
              · obtain ⟨rfl, -⟩ := Prod.mk.inj (Option.some.inj h)
                exact hput
              · cases h
          · cases h
      · cases h

/-- **The documents that can be read back** are those that texts hold. -/
theorem isReadable_iff {d : Document} : d.IsReadable ↔ ∃ text, read? text = some d := by
  refine ⟨fun h => ⟨d.write .oneLine, read_write .oneLine h⟩, ?_⟩
  rintro ⟨text, h⟩
  rw [read?] at h
  split at h
  · next found rest hscan =>
    split at h
    · obtain rfl := Option.some.inj h
      exact (readable_of_scan _).1 hscan
    · cases h
  · cases h

end StagedQuery.Document
