import Mathlib.Data.List.Basic
import StagedQuery.Proofs.Value.Keys
import StagedQuery.Row

set_option relaxedAutoImplicit false
set_option autoImplicit false

/-!
# Rows and their labels

How the labels and the values of a row change when values are put into it.

## Main definitions

* `Row.addLabel` — the labels of a row after a value is put at a label.
* `Row.Distinct` — labels of which no two are the same key.

## Main results

* `Row.find?_put`, `Row.find?_override`, `Row.find?_ofPairs` — the values of a row after values were
  put into it.
* `Row.labels_override`, `Row.labels_ofPairs` — its labels, which do not depend on the values.
* `Row.ofPairs_map` — pairs whose values are given by their labels.
* `Row.ofPairs_of_distinct` — pairs with distinct labels are a row as they are.
* `Row.eq_map_get` — a row with distinct labels is given by its labels and the values at them.
-/

namespace StagedQuery.Row

/-! ## Values -/

/-- The value at a label is that of the first entry whose label is the same key. -/
lemma find?_cons (entry : Value × Value) (row : Row) (label : Value) :
    find? (entry :: row) label = if entry.1.same label then some entry.2 else find? row label := by
  unfold find?
  rw [List.find?_cons]
  cases entry.1.same label <;> rfl

/-- A label has no value just if no entry is for it. -/
lemma find?_eq_none {row : Row} {label : Value} :
    row.find? label = none ↔ ∀ entry ∈ row, ¬ entry.1.same label = true := by
  rw [find?, Option.map_eq_none_iff, List.find?_eq_none]

/-- Equal keys have equal values. -/
lemma find?_congr {a b : Value} (h : a.same b = true) (row : Row) : row.find? a = row.find? b := by
  induction row with
  | nil => rfl
  | cons entry row ih =>
    have hsame : entry.1.same a = entry.1.same b := by
      rw [Bool.eq_iff_iff]
      exact ⟨fun k => Value.same_trans k h, fun k => Value.same_trans k (Value.same_symm h)⟩
    rw [find?_cons, find?_cons, hsame, ih]

/-- Equal keys have equal values, `null` where there is none. -/
lemma get_congr {a b : Value} (h : a.same b = true) (row : Row) : row.get a = row.get b := by
  rw [get, get, find?_congr h]

/-- **The values after a value is put at a label**: it is the value there, and the others are as
before. -/
lemma find?_put (row : Row) (label value other : Value) :
    (row.put label value).find? other =
      if label.same other then some value else row.find? other := by
  induction row with
  | nil => rw [put, find?_cons]
  | cons entry row ih =>
    obtain ⟨key, old⟩ := entry
    by_cases hkey : key.same label = true
    · have hput : put ((key, old) :: row) label value = (key, value) :: row := by
        rw [put, if_pos hkey]
      rw [hput, find?_cons, find?_cons, ← Value.same_congr hkey other]
      split <;> rfl
    · have hput : put ((key, old) :: row) label value = (key, old) :: put row label value := by
        rw [put, if_neg hkey]
      rw [hput, find?_cons, find?_cons, ih]
      by_cases hother : key.same other = true
      · have hlabel : ¬label.same other = true := fun h =>
          hkey (Value.same_trans hother (Value.same_symm h))
        rw [if_pos hother, if_neg hlabel]
        simp [hother]
      · simp [hother]

/-- Every label that values are put at has a value afterwards. -/
lemma find?_override_isSome (changes : Row) :
    ∀ (row : Row) (label : Value), ((row.find? label).isSome = true ∨
      ∃ c ∈ changes, c.1.same label = true) →
        ((row.override changes).find? label).isSome = true := by
  induction changes with
  | nil =>
    intro row label h
    rcases h with h | ⟨c, hc, -⟩
    · exact h
    · simp at hc
  | cons c changes ih =>
    intro row label h
    rw [override, List.foldl_cons]
    refine ih (row.put c.1 c.2) label ?_
    rw [find?_put]
    by_cases hc : c.1.same label = true
    · exact .inl (by simp [hc])
    · rcases h with h | ⟨d, hd, hsame⟩
      · exact .inl (by simp [hc, h])
      · rcases List.mem_cons.mp hd with rfl | hd
        · exact absurd hsame hc
        · exact .inr ⟨d, hd, hsame⟩

/-- Every label of a list of pairs that can be a key has a value in their row. -/
lemma find?_ofPairs_isSome {pairs : Row} {label : Value} (h : label ∈ pairs.map Prod.fst)
    (hkey : label.unhashable? = none) : ((ofPairs pairs).find? label).isSome = true := by
  obtain ⟨pair, hpair, rfl⟩ := List.mem_map.mp h
  exact find?_override_isSome pairs [] pair.1 (.inr ⟨pair, hpair, Value.same_refl hkey⟩)

/-- What holds of every entry of a row and of every entry with a value that is put in, at whatever
label that is the same key, holds of every entry afterwards. -/
lemma forall_override {P : Value → Value → Prop}
    (hP : ∀ a b v, a.same b = true → P b v → P a v) (changes : Row) :
    ∀ row : Row, (∀ e ∈ row, P e.1 e.2) → (∀ c ∈ changes, P c.1 c.2) →
      ∀ e ∈ row.override changes, P e.1 e.2 := by
  have hput : ∀ (row : Row) (label value : Value), (∀ e ∈ row, P e.1 e.2) → P label value →
      ∀ e ∈ row.put label value, P e.1 e.2 := by
    intro row label value hrow hnew
    induction row with
    | nil => simpa [put] using hnew
    | cons entry row ih =>
      obtain ⟨key, old⟩ := entry
      have hrest := ih fun e he => hrow e (by simp [he])
      have hhead : P key old := hrow (key, old) (by simp)
      rw [put]
      split
      · rename_i hkey
        intro e he
        rcases List.mem_cons.mp he with rfl | he
        · exact hP key label value hkey hnew
        · exact hrow e (by simp [he])
      · intro e he
        rcases List.mem_cons.mp he with rfl | he
        · exact hhead
        · exact hrest e he
  induction changes with
  | nil => exact fun row hrow _ => hrow
  | cons c changes ih =>
    intro row hrow hchanges
    rw [override, List.foldl_cons]
    exact ih (row.put c.1 c.2) (hput row c.1 c.2 hrow (hchanges c (by simp)))
      fun d hd => hchanges d (by simp [hd])

/-! ## Labels -/

/-- The labels of a row after a value is put at a label. -/
def addLabel (labels : List Value) (label : Value) : List Value :=
  if labels.any (·.same label) then labels else labels ++ [label]

/-- The labels after a value is put at a label do not depend on the values. -/
lemma labels_put (row : Row) (label value : Value) :
    (row.put label value).map Prod.fst = addLabel (row.map Prod.fst) label := by
  induction row with
  | nil => rfl
  | cons entry row ih =>
    obtain ⟨key, old⟩ := entry
    rw [put, addLabel, List.map_cons, List.any_cons]
    by_cases hkey : key.same label = true
    · simp [hkey]
    · rw [if_neg hkey, List.map_cons, ih, addLabel]
      simp only [hkey, Bool.false_or]
      split <;> simp_all

/-- The labels after values are put into a row do not depend on the values. -/
lemma labels_override (changes : Row) :
    ∀ row : Row, (row.override changes).map Prod.fst =
      (changes.map Prod.fst).foldl addLabel (row.map Prod.fst) := by
  induction changes with
  | nil => exact fun _ => rfl
  | cons c changes ih =>
    intro row
    rw [override, List.foldl_cons, List.map_cons, List.foldl_cons, ← labels_put]
    exact ih (row.put c.1 c.2)

/-- The labels of the row of a list of pairs do not depend on the values. -/
lemma labels_ofPairs (pairs : Row) :
    (ofPairs pairs).map Prod.fst = (pairs.map Prod.fst).foldl addLabel [] :=
  labels_override pairs []

/-- Labels that a row has already are not added. -/
lemma labels_override_of_mem {row changes : Row}
    (h : ∀ c ∈ changes, (row.map Prod.fst).any (·.same c.1) = true) :
    (row.override changes).map Prod.fst = row.map Prod.fst := by
  rw [labels_override]
  induction changes with
  | nil => rfl
  | cons c changes ih =>
    rw [List.map_cons, List.foldl_cons, addLabel, if_pos (h c (by simp))]
    exact ih fun d hd => h d (by simp [hd])

/-- Labels of which no two are the same key. -/
def Distinct (labels : List Value) : Prop := labels.Pairwise fun a b => a.same b = false

/-- Texts that are distinct as labels are different. -/
lemma Distinct.nodup_names {names : List String} (h : Distinct (names.map Value.text)) :
    names.Nodup := by
  rw [Distinct, List.pairwise_map] at h
  refine h.imp fun {a b} hne hab => ?_
  rw [Value.text_same_text, hab] at hne
  simp at hne

/-- The labels of the row of a list of pairs are among the labels of the pairs. -/
lemma mem_of_mem_foldl_addLabel (new : List Value) :
    ∀ (labels : List Value) (label : Value), label ∈ new.foldl addLabel labels →
      label ∈ labels ∨ label ∈ new := by
  induction new with
  | nil => exact fun _ _ h => .inl h
  | cons a new ih =>
    intro labels label h
    rw [List.foldl_cons] at h
    rcases ih _ label h with h | h
    · rw [addLabel] at h
      split at h
      · exact .inl h
      · rcases List.mem_append.mp h with h | h
        · exact .inl h
        · exact .inr (by simp [List.mem_singleton.mp h])
    · exact .inr (by simp [h])

/-- Adding labels keeps labels distinct. -/
lemma distinct_foldl_addLabel (new : List Value) :
    ∀ labels : List Value, Distinct labels → Distinct (new.foldl addLabel labels) := by
  induction new with
  | nil => exact fun _ h => h
  | cons a new ih =>
    intro labels h
    rw [List.foldl_cons]
    refine ih _ ?_
    rw [addLabel]
    split
    · exact h
    · rename_i hnew
      refine List.pairwise_append.mpr ⟨h, List.pairwise_singleton _ _, fun b hb c hc => ?_⟩
      rw [List.mem_singleton.mp hc]
      simp only [List.any_eq_true, not_exists, not_and, Bool.not_eq_true] at hnew
      exact hnew b hb

/-- The labels of the row of a list of pairs are distinct. -/
lemma distinct_ofPairs (pairs : Row) : Distinct ((ofPairs pairs).map Prod.fst) := by
  rw [labels_ofPairs]
  exact distinct_foldl_addLabel _ [] List.Pairwise.nil

/-- Labels that are added to none are those labels, each key once, at its first place. -/
lemma foldl_addLabel_eq_eraseDupsBy (labels : List Value) :
    labels.foldl addLabel [] = labels.eraseDupsBy Value.same := by
  have hloop : ∀ before : List Value, labels.foldl addLabel before.reverse =
      List.eraseDupsBy.loop Value.same labels before := by
    induction labels with
    | nil => exact fun before => rfl
    | cons label labels ih =>
      intro before
      have hany : before.reverse.any (·.same label) = before.any label.same := by
        rw [List.any_reverse]
        exact congrArg before.any (funext fun a =>
          Bool.eq_iff_iff.mpr ⟨Value.same_symm, Value.same_symm⟩)
      rw [List.foldl_cons, addLabel, hany, List.eraseDupsBy.loop]
      cases before.any label.same with
      | true => exact ih before
      | false =>
        have hmore := ih (label :: before)
        rw [List.reverse_cons] at hmore
        exact hmore
  exact hloop []

/-! ## Rows with distinct labels -/

/-- In a row with distinct labels, every entry holds the value at its label. -/
lemma find?_of_mem {row : Row} (hrow : Distinct (row.map Prod.fst)) {e : Value × Value}
    (he : e ∈ row) (hkey : e.1.unhashable? = none) : row.find? e.1 = some e.2 := by
  induction row with
  | nil => simp at he
  | cons entry row ih =>
    rw [List.map_cons] at hrow
    obtain ⟨hfirst, hrest⟩ := List.pairwise_cons.mp hrow
    rw [find?_cons]
    rcases List.mem_cons.mp he with rfl | he
    · simp [Value.same_refl hkey]
    · rw [hfirst e.1 (List.mem_map_of_mem he)]
      simpa using ih hrest he

/-- The value at the label of an entry of such a row. -/
lemma get_of_mem {row : Row} (hrow : Distinct (row.map Prod.fst)) {e : Value × Value}
    (he : e ∈ row) (hkey : e.1.unhashable? = none) : row.get e.1 = e.2 := by
  rw [get, find?_of_mem hrow he hkey, Option.getD_some]

/-- **The values after other values are put into a row**, at labels of which no two are the same
key: the values put in, and the old ones at the other labels. -/
lemma find?_override {changes : Row} (h : Distinct (changes.map Prod.fst)) (label : Value) :
    ∀ row : Row, (row.override changes).find? label =
      (changes.find? label).or (row.find? label) := by
  induction changes with
  | nil => exact fun row => rfl
  | cons c changes ih =>
    intro row
    rw [List.map_cons] at h
    obtain ⟨hfirst, hrest⟩ := List.pairwise_cons.mp h
    rw [override, List.foldl_cons, ← override, ih hrest, find?_put, find?_cons]
    split
    · next hlabel =>
      have hnone : find? changes label = none := by
        refine find?_eq_none.mpr fun d hd hsame => ?_
        have hne := hfirst d.1 (List.mem_map_of_mem hd)
        rw [Value.same_trans hlabel (Value.same_symm hsame)] at hne
        cases hne
      rw [hnone]
      rfl
    · rfl

/-- **The values of the row of a list of pairs**: the last value that is given for a label. -/
lemma find?_ofPairs (pairs : Row) (label : Value) : (ofPairs pairs).find? label =
    (pairs.reverse.find? fun pair => pair.1.same label).map Prod.snd := by
  have hoverride : ∀ row : Row, (row.override pairs).find? label =
      ((pairs.reverse.find? fun pair => pair.1.same label).map Prod.snd).or (row.find? label) := by
    induction pairs with
    | nil => exact fun row => rfl
    | cons pair pairs ih =>
      intro row
      rw [override, List.foldl_cons, ← override, ih, find?_put, List.reverse_cons,
        List.find?_append]
      cases pairs.reverse.find? fun pair => pair.1.same label with
      | some found => rfl
      | none =>
        rw [List.find?_singleton]
        split <;> rfl
  rw [ofPairs, hoverride []]
  exact Option.or_none

/-- **A row with distinct labels** is given by its labels and the values at them. -/
lemma eq_map_get {row : Row} (hrow : Distinct (row.map Prod.fst))
    (hkeys : ∀ label ∈ row.map Prod.fst, label.unhashable? = none) :
    row = (row.map Prod.fst).map fun label => (label, row.get label) := by
  rw [List.map_map]
  refine (List.map_id _).symm.trans (List.map_congr_left fun e he => ?_)
  have hfind := find?_of_mem hrow he (hkeys e.1 (List.mem_map_of_mem he))
  simp [get, hfind]

/-- **A row whose values are given by its labels** has each label once, at its first place. -/
lemma ofPairs_map {f : Value → Value} (hf : ∀ a b : Value, a.same b = true → f a = f b)
    (labels : List Value) : ofPairs (labels.map fun label => (label, f label)) =
      (labels.eraseDupsBy Value.same).map fun label => (label, f label) := by
  have hvalues : ∀ e ∈ ofPairs (labels.map fun label => (label, f label)), e.2 = f e.1 := by
    refine forall_override (P := fun label value => value = f label)
      (fun a b v hsame hv => hv.trans (hf a b hsame).symm) _ [] (by simp) fun c hc => ?_
    obtain ⟨label, -, rfl⟩ := List.mem_map.mp hc
    rfl
  have hlabels := labels_ofPairs (labels.map fun label => (label, f label))
  have hnames : labels.map (Prod.fst ∘ fun label => (label, f label)) = labels := List.map_id labels
  rw [foldl_addLabel_eq_eraseDupsBy, List.map_map, hnames] at hlabels
  rw [← hlabels, List.map_map]
  exact (List.map_id _).symm.trans (List.map_congr_left fun e he => Prod.ext rfl (hvalues e he))

/-- A value at a label that no entry has is put at the end. -/
lemma put_of_fresh {row : Row} {label : Value} (value : Value)
    (h : ∀ e ∈ row, e.1.same label = false) : row.put label value = row ++ [(label, value)] := by
  induction row with
  | nil => rfl
  | cons entry row ih =>
    obtain ⟨key, old⟩ := entry
    have hkey : key.same label = false := h (key, old) (by simp)
    rw [put, hkey]
    simpa using ih fun e he => h e (by simp [he])

/-- Entries with labels that are distinct from each other and from those of a row are put at its
end. -/
lemma override_of_distinct (changes : Row) :
    ∀ row : Row, Distinct ((row ++ changes).map Prod.fst) →
      row.override changes = row ++ changes := by
  induction changes with
  | nil => exact fun row _ => (List.append_nil row).symm
  | cons c changes ih =>
    intro row h
    have hfresh : ∀ e ∈ row, e.1.same c.1 = false := by
      rw [List.map_append, List.map_cons] at h
      intro e he
      exact (List.pairwise_append.mp h).2.2 e.1 (List.mem_map_of_mem he) c.1 (by simp)
    rw [override, List.foldl_cons, put_of_fresh c.2 hfresh]
    have := ih (row ++ [c]) (by simpa using h)
    rw [override] at this
    rw [this]
    simp

/-- Pairs with distinct labels are a row as they are. -/
lemma ofPairs_of_distinct {pairs : Row} (h : Distinct (pairs.map Prod.fst)) :
    ofPairs pairs = pairs := by
  rw [ofPairs, override_of_distinct pairs [] (by simpa using h), List.nil_append]

/-- Distinct labels are all added. -/
lemma foldl_addLabel_of_distinct {labels : List Value} (h : Distinct labels) :
    labels.foldl addLabel [] = labels := by
  have hpairs : (labels.map fun label => (label, Value.null)).map Prod.fst = labels := by
    rw [List.map_map]
    exact List.map_id _
  have hlabels := labels_ofPairs (labels.map fun label => (label, Value.null))
  rw [ofPairs_of_distinct (by rwa [hpairs]), hpairs] at hlabels
  exact hlabels.symm

end StagedQuery.Row
