import StagedQuery.Proofs.Success
import StagedQuery.Proofs.Text.Fronts
import StagedQuery.Proofs.Text.Pieces
import StagedQuery.Storage.DiskPath

set_option relaxedAutoImplicit false
set_option autoImplicit false

/-!
# Paths of database files

The path of a database file is found once: the suffix is added where it is missing, and the path is
taken from a folder. To find the path of the file at the result changes nothing any more, nor does
to write the result down and to read it again.

## Main definitions

* `DiskPath.IsNormal` — the paths that are read from texts.

## Main results

* `DiskPath.ofText_text` — a normal path is read back from its written form.
* `DiskPath.name?_ofText_eq_none` — the texts of paths without a final name.
* `DiskPath.resolve_eq_error` — the path of a database file is found if there is a final name.
* `DiskPath.withSuffix_of_resolve`, `DiskPath.resolve_resolved` — it is found once.
* `DiskPath.IsNormal.resolve` — and it is normal.
-/

namespace StagedQuery.DiskPath

/-! ## Normal paths -/

/-- A path whose parts are names: none of them is empty, a single dot, or has a slash. -/
def IsNormal (p : DiskPath) : Prop :=
  ∀ part ∈ p.parts, part ≠ "" ∧ part ≠ "." ∧ '/' ∉ part.toList

/-- The parts of a path that was read from a text are the pieces of the text that are names. -/
lemma mem_parts_ofText {s part : String} :
    part ∈ (ofText s).parts ↔ part ∈ pieces '/' s ∧ part ≠ "" ∧ part ≠ "." := by
  rw [ofText, List.mem_filter, Bool.and_eq_true, bne_iff_ne, bne_iff_ne]
  rfl

/-- **A path that was read from a text** is normal. -/
lemma isNormal_ofText (s : String) : (ofText s).IsNormal := by
  intro part hpart
  obtain ⟨hpiece, hempty, hdot⟩ := mem_parts_ofText.mp hpart
  exact ⟨hempty, hdot, not_mem_of_mem_pieces hpiece⟩

/-- A slash at the front of a text adds no part. -/
lemma parts_ofText_slash (s : String) : (ofText ("/" ++ s)).parts = (ofText s).parts := by
  have hsplit : ('/' :: s.toList).splitOn '/' = [] :: s.toList.splitOn '/' := by
    rw [List.splitOn_cons_eq_if_modifyHead, if_pos (by simp)]
  rw [ofText, ofText, String.toList_append, show "/".toList = ['/'] from rfl, List.singleton_append,
    hsplit]
  rfl

/-- Neither do the slashes of a root. -/
lemma parts_ofText_root (root : Root) (s : String) :
    (ofText (root.text ++ s)).parts = (ofText s).parts := by
  cases root with
  | relative => rw [Root.text, String.empty_append]
  | single => exact parts_ofText_slash s
  | double =>
    rw [Root.text, show "//" = "/" ++ "/" from rfl, String.append_assoc, parts_ofText_slash,
      parts_ofText_slash]

/-- The root of a text is read from the slashes at its front. -/
lemma root_ofText_root (root : Root) {s : String} (h : Stops (· == '/') s.toList) :
    (ofText (root.text ++ s)).root = root := by
  have hslashes : ∀ c ∈ root.text.toList, (c == '/') = true := by
    cases root <;> decide
  rw [ofText, rootOf, String.toList_append, takeWhile_append_of_stops hslashes h]
  cases root <;> rfl

namespace IsNormal

variable {p : DiskPath}

/-- The names of a normal path begin with no slash. -/
lemma stops (h : p.IsNormal) :
    Stops (· == '/') (String.intercalate "/" p.parts).toList := by
  rw [IsNormal] at h
  cases hparts : p.parts with
  | nil => exact stops_nil _
  | cons first rest =>
    rw [hparts] at h
    obtain ⟨hempty, -, hslash⟩ := h first List.mem_cons_self
    obtain ⟨c, cs, hfirst⟩ : ∃ c cs, first.toList = c :: cs :=
      List.exists_cons_of_ne_nil fun hnil => hempty (String.toList_eq_nil_iff.mp hnil)
    have hc : (c == '/') = false :=
      beq_eq_false_iff_ne.mpr fun heq => hslash (by simp [hfirst, heq])
    cases rest with
    | nil =>
      rw [String.intercalate_singleton, hfirst]
      exact stops_cons.mpr hc
    | cons next rest =>
      rw [String.intercalate_cons_cons, String.toList_append, String.toList_append, hfirst]
      exact stops_cons.mpr hc

/-- The names of a normal path are read back from their text. -/
lemma parts_ofText (h : p.IsNormal) :
    (ofText (String.intercalate "/" p.parts)).parts = p.parts := by
  by_cases hparts : p.parts = []
  · rw [hparts]
    rfl
  · have hpieces := pieces_intercalate (c := '/') hparts fun part hpart => (h part hpart).2.2
    show (pieces '/' (String.intercalate (String.singleton '/') p.parts)).filter _ = p.parts
    rw [hpieces, List.filter_eq_self]
    intro part hpart
    rw [Bool.and_eq_true, bne_iff_ne, bne_iff_ne]
    exact ⟨(h part hpart).1, (h part hpart).2.1⟩

end IsNormal

/-- **A normal path is read back** from its written form. -/
lemma ofText_text {p : DiskPath} (h : p.IsNormal) : ofText p.text = p := by
  obtain ⟨root, parts⟩ := p
  rw [text]
  split
  · next hhere =>
    obtain ⟨rfl, rfl⟩ := hhere
    rfl
  · exact congrArg₂ DiskPath.mk (root_ofText_root root h.stops)
      ((parts_ofText_root root _).trans h.parts_ofText)

/-! ## Final names -/

/-- **A text names a path without a final name** if there is nothing in it but slashes and single
dots between them. -/
lemma name?_ofText_eq_none {s : String} :
    (ofText s).name? = none ↔ ∀ piece ∈ pieces '/' s, piece = "" ∨ piece = "." := by
  rw [name?, List.getLast?_eq_none_iff, List.eq_nil_iff_forall_not_mem]
  refine forall_congr' fun part => ?_
  rw [mem_parts_ofText]
  tauto

/-- The path of a database file is found unless the path has no final name. -/
lemma resolve_eq_error {p : DiskPath} {base : Option DiskPath} {f : Fault} :
    p.resolve base = .error f ↔ p.name? = none ∧ f = .namelessPath p.text := by
  rw [resolve, withSuffix]
  cases p.name? with
  | none => simp [Except.map, eq_comm]
  | some name =>
    dsimp only
    split <;> simp [Except.map]

/-- A path whose database file is found has a final name. -/
lemma name?_of_resolve {p file : DiskPath} {base : Option DiskPath}
    (h : p.resolve base = .ok file) : p.name? ≠ none := by
  intro hname
  rw [resolve_eq_error.mpr ⟨hname, rfl⟩] at h
  cases h

/-- A name that ends as those of database files do has the suffix at its end. -/
lemma hasSuffix_iff {name : String} :
    hasSuffix name = true ↔ fileSuffix.toList <:+ name.toList := by
  rw [hasSuffix, List.isSuffixOf_iff_suffix]

/-- The final name of a path to which the suffix was added has the suffix. -/
lemma exists_name_of_withSuffix {p file : DiskPath} (h : p.withSuffix = .ok file) :
    ∃ name, file.name? = some name ∧ hasSuffix name = true := by
  rw [withSuffix] at h
  split at h
  · cases h
  · rename_i name hname
    split at h
    · rename_i hsuffix
      obtain rfl := Except.ok.inj h
      exact ⟨name, hname, hsuffix⟩
    · obtain rfl := Except.ok.inj h
      refine ⟨name ++ fileSuffix, List.getLast?_concat, ?_⟩
      rw [hasSuffix_iff, String.toList_append]
      exact List.suffix_append _ _

/-- Taking a path from a folder leaves its final name. -/
lemma name?_under {p : DiskPath} {name : String} (h : p.name? = some name) (folder : DiskPath) :
    (p.under folder).name? = some name := by
  rw [under]
  split
  · exact h
  · rw [name?] at h ⊢
    simp [List.getLast?_append, h]

/-- **The final name of a database file** has the suffix. -/
lemma exists_name_of_resolve {p file : DiskPath} {base : Option DiskPath}
    (h : p.resolve base = .ok file) : ∃ name, file.name? = some name ∧ hasSuffix name = true := by
  obtain ⟨named, hnamed, rfl⟩ := map_eq_ok.mp h
  obtain ⟨name, hname, hsuffix⟩ := exists_name_of_withSuffix hnamed
  cases base with
  | none => exact ⟨name, hname, hsuffix⟩
  | some folder => exact ⟨name, name?_under hname folder, hsuffix⟩

/-- **The path of a database file** has the suffix already, and it keeps it. -/
lemma withSuffix_of_resolve {p file : DiskPath} {base : Option DiskPath}
    (h : p.resolve base = .ok file) : file.withSuffix = .ok file := by
  obtain ⟨name, hname, hsuffix⟩ := exists_name_of_resolve h
  rw [withSuffix, hname]
  simp only [hsuffix, ↓reduceIte]

/-- **The path of a database file is found once**: taken from no folder it is found as it is. -/
lemma resolve_resolved {p file : DiskPath} {base : Option DiskPath}
    (h : p.resolve base = .ok file) : file.resolve none = .ok file := by
  rw [resolve, withSuffix_of_resolve h]
  rfl

/-! ## The paths found are normal -/

namespace IsNormal

variable {p : DiskPath}

/-- A name with the suffix of database files behind it is a name. -/
lemma withSuffix (h : p.IsNormal) {file : DiskPath} (hfile : p.withSuffix = .ok file) :
    file.IsNormal := by
  rw [DiskPath.withSuffix] at hfile
  split at hfile
  · cases hfile
  · next name hname =>
    split at hfile
    · exact Except.ok.inj hfile ▸ h
    · rw [← Except.ok.inj hfile]
      intro part hpart
      rcases List.mem_append.mp hpart with hpart | hpart
      · exact h part (List.dropLast_subset _ hpart)
      · obtain ⟨-, -, hslash⟩ := h name (List.mem_of_getLast? hname)
        have hlong : 7 < (name ++ fileSuffix).length := by
          rw [String.length_append, show fileSuffix.length = 8 from rfl]
          omega
        rw [List.mem_singleton.mp hpart]
        refine ⟨fun heq => ?_, fun heq => ?_, ?_⟩
        · rw [heq] at hlong
          exact absurd hlong (by decide)
        · rw [heq] at hlong
          exact absurd hlong (by decide)
        · rw [String.toList_append, List.mem_append, not_or]
          exact ⟨hslash, by decide⟩

/-- **The path of a database file is normal**, if the path and the folder are. -/
lemma resolve (h : p.IsNormal) {base : Option DiskPath} (hbase : ∀ folder ∈ base, folder.IsNormal)
    {file : DiskPath} (hfile : p.resolve base = .ok file) : file.IsNormal := by
  obtain ⟨named, hnamed, rfl⟩ := map_eq_ok.mp hfile
  have hnormal := h.withSuffix hnamed
  cases base with
  | none => exact hnormal
  | some folder =>
    show (named.under folder).IsNormal
    rw [under]
    split
    · exact hnormal
    · intro part hpart
      rcases List.mem_append.mp hpart with hpart | hpart
      · exact hbase folder rfl part hpart
      · exact hnormal part hpart

end IsNormal

end StagedQuery.DiskPath
