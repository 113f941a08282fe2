import StagedQuery.Proofs.Success
import StagedQuery.Storage.DatabaseFile

set_option relaxedAutoImplicit false
set_option autoImplicit false

/-!
# Paths that are refused

A path is looked up name by name, and the system can refuse that: the text of the path is too long,
or the names lead to a folder in which the next one is too long, or to a sealed folder. Reading and
writing meet a refusal differently. A file that is to be written counts as one that cannot be
written; there is no message for a file that is to be read, so loading ends in a fault.

## Main definitions

* `Disk.Refuses` — the system refuses to look up a path.

## Main results

* `Disk.find_eq_error` — which paths are refused.
* `Disk.save_of_refuses` — a store cannot be written to a path that is refused.
-/

namespace StagedQuery.Disk

variable {d : Disk} {p file : DiskPath} {why : PathRefusal}

/-- The system refuses to look up a path: its text is too long; or its first names lead to a folder,
and the next name is too long to be looked up there; or they lead to a sealed folder, and there is
a next name. -/
inductive Refuses (d : Disk) (p : DiskPath) : PathRefusal → Prop
  | text (hlong : pathLimit < p.text.utf8ByteSize) : Refuses d p .tooLong
  | name {front back here : List String} {name : String}
    (htext : p.text.utf8ByteSize ≤ pathLimit) (hparts : p.parts = front ++ name :: back)
    (hway : d.walk (d.origin p) front = .ok (some here)) (hfolder : d.at? here = some .folder)
    (hlong : nameLimit < name.utf8ByteSize) : Refuses d p .tooLong
  | folder {front back here : List String} {name : String}
    (htext : p.text.utf8ByteSize ≤ pathLimit) (hparts : p.parts = front ++ name :: back)
    (hway : d.walk (d.origin p) front = .ok (some here)) (hsealed : d.at? here = some .sealed) :
    Refuses d p .denied

/-! ## Looking up -/

/-- Looking up a name is refused in a folder if it is too long, and always in a sealed folder. -/
lemma lookUp_eq_error {place : List String} {name : String} :
    d.lookUp place name = .error why ↔
      (d.at? place = some .folder ∧ nameLimit < name.utf8ByteSize ∧ why = .tooLong) ∨
      (d.at? place = some .sealed ∧ why = .denied) := by
  rw [lookUp, admits]
  rcases d.at? place with _ | (content | _ | _)
  case some.folder =>
    by_cases hlong : nameLimit < name.utf8ByteSize <;>
      simp [hlong, bind, Except.bind, pure, Except.pure, throw_eq_error, eq_comm]
  all_goals simp [bind, Except.bind, pure, Except.pure, eq_comm]

/-- Names are refused at the first one, or it leads to a place from which the others are refused. -/
lemma walk_cons_eq_error {place : List String} {name : String} {names : List String} :
    d.walk place (name :: names) = .error why ↔ d.lookUp place name = .error why ∨
      ∃ next, d.lookUp place name = .ok (some next) ∧ d.walk next names = .error why := by
  rw [walk]
  rcases d.lookUp place name with why' | _ | next <;> simp [bind, Except.bind, pure, Except.pure]

/-- Names lead to a place if the first one leads to a place from which the others lead there. -/
lemma walk_cons_eq_some {place here : List String} {name : String} {names : List String} :
    d.walk place (name :: names) = .ok (some here) ↔
      ∃ next, d.lookUp place name = .ok (some next) ∧ d.walk next names = .ok (some here) := by
  rw [walk]
  rcases d.lookUp place name with why' | _ | next <;> simp [bind, Except.bind, pure, Except.pure]

/-- **Names are refused at the first one that is refused**: those in front of it lead to a place,
and there it is refused. -/
lemma walk_eq_error {names : List String} :
    ∀ {place : List String}, d.walk place names = .error why ↔
      ∃ front name back here, names = front ++ name :: back ∧
        d.walk place front = .ok (some here) ∧ d.lookUp here name = .error why := by
  induction names with
  | nil => simp [walk]
  | cons first names ih =>
    intro place
    constructor
    · intro h
      rcases walk_cons_eq_error.mp h with hfirst | ⟨next, hfirst, h⟩
      · exact ⟨[], first, names, place, rfl, rfl, hfirst⟩
      · obtain ⟨front, name, back, here, rfl, hway, hname⟩ := ih.mp h
        exact ⟨first :: front, name, back, here, rfl,
          walk_cons_eq_some.mpr ⟨next, hfirst, hway⟩, hname⟩
    · rintro ⟨front, name, back, here, hnames, hway, hname⟩
      cases front with
      | nil =>
        obtain ⟨rfl, rfl⟩ := List.cons.inj hnames
        obtain rfl := Option.some.inj (Except.ok.inj hway)
        exact walk_cons_eq_error.mpr (.inl hname)
      | cons _ front =>
        obtain ⟨rfl, rfl⟩ := List.cons.inj hnames
        obtain ⟨next, hfirst, hway⟩ := walk_cons_eq_some.mp hway
        exact walk_cons_eq_error.mpr
          (.inr ⟨next, hfirst, ih.mpr ⟨front, name, back, here, rfl, hway, hname⟩⟩)

/-- A path has no place because it is refused, exactly if the system refuses to look it up. -/
lemma locate_eq_error : d.locate p = .error why ↔ d.Refuses p why := by
  rw [locate]
  by_cases hlong : pathLimit < p.text.utf8ByteSize
  · rw [if_pos hlong]
    constructor
    · rintro ⟨⟩
      exact .text hlong
    · intro h
      cases h with
      | text => rfl
      | name htext | folder htext => omega
  · rw [if_neg hlong, walk_eq_error]
    constructor
    · rintro ⟨front, name, back, here, hparts, hway, hname⟩
      rcases lookUp_eq_error.mp hname with ⟨hfolder, hlong', rfl⟩ | ⟨hsealed, rfl⟩
      · exact .name (by omega) hparts hway hfolder hlong'
      · exact .folder (by omega) hparts hway hsealed
    · intro h
      cases h with
      | text hlong' => exact absurd hlong' hlong
      | name _ hparts hway hfolder hlong' =>
        exact ⟨_, _, _, _, hparts, hway, lookUp_eq_error.mpr (.inl ⟨hfolder, hlong', rfl⟩)⟩
      | folder _ hparts hway hsealed =>
        exact ⟨_, _, _, _, hparts, hway, lookUp_eq_error.mpr (.inr ⟨hsealed, rfl⟩)⟩

/-- **A path is refused** if it has no null character, which keeps any path from being found, and
the system refuses to look it up. -/
theorem find_eq_error : d.find p = .error why ↔ hasNull p = false ∧ d.Refuses p why := by
  rw [← locate_eq_error, find]
  cases hasNull p with
  | true => simp
  | false => cases d.locate p <;> simp [Except.map]

/-- A name is refused in a sealed folder; where there is no folder at all, there is just no file. -/
example : (⟨[], [(["a"], .sealed)]⟩ : Disk).find ⟨.relative, ["a", "b"]⟩ = .error .denied ∧
    (⟨[], []⟩ : Disk).find ⟨.relative, ["a", "b"]⟩ = .ok none := ⟨rfl, rfl⟩

/-! ## Saving -/

/-- **A store cannot be written to a path that is refused.** -/
theorem save_of_refuses (hfile : p.withSuffix = .ok file) (hnull : hasNull file = false)
    (h : d.Refuses file why) {s : Store} {created text : String}
    (htext : s.fileText created = .ok text) :
    d.save s created p = .error (.file (.unwritable file.text)) := by
  rw [save, hfile, htext]
  simp [Except.mapError, bind, Except.bind, hnull, write, locate_eq_error.mpr h, throw_eq_error]

end StagedQuery.Disk
