import Mathlib.Data.List.Basic

set_option relaxedAutoImplicit false
set_option autoImplicit false

/-!
# Pieces of texts

A text is cut at every occurrence of a character, also at its ends. Cutting gives back what was
joined with that character, as far as no piece has the character itself.

## Main definitions

* `pieces` — the pieces of a text.

## Main results

* `pieces_intercalate` — pieces that were joined are cut apart again.
* `not_mem_of_mem_pieces` — no piece has the character at which the text was cut.
-/

namespace StagedQuery

/-- The pieces of a text between the occurrences of a character. -/
def pieces (c : Char) (s : String) : List String := (s.toList.splitOn c).map String.ofList

variable {c : Char}

/-- **Texts that were joined** are the pieces of the whole, if there is one and none of them has the
character. -/
lemma pieces_intercalate {parts : List String} (hne : parts ≠ [])
    (h : ∀ part ∈ parts, c ∉ part.toList) :
    pieces c (String.intercalate (String.singleton c) parts) = parts := by
  have hparts : ∀ cs ∈ parts.map String.toList, c ∉ cs := List.forall_mem_map.mpr h
  rw [pieces, String.toList_intercalate, String.toList_singleton,
    List.splitOn_intercalate c hparts (by simpa using hne), List.map_map]
  exact (List.map_congr_left fun part _ => String.ofList_toList).trans (List.map_id _)

/-- A text without the character is its only piece. -/
lemma pieces_of_not_mem {s : String} (h : c ∉ s.toList) : pieces c s = [s] := by
  rw [pieces, List.splitOn_eq_singleton h, List.map_singleton, String.ofList_toList]

/-- **No piece** has the character at which the text was cut.

**Proof sketch.** Induction on the text. Each character begins a new piece, or is put in front of
the first piece of the rest. -/
lemma not_mem_of_mem_pieces {s part : String} (h : part ∈ pieces c s) : c ∉ part.toList := by
  obtain ⟨cs, hcs, rfl⟩ := List.mem_map.mp h
  rw [String.toList_ofList]
  clear h
  generalize s.toList = text at hcs
  induction text generalizing cs with
  | nil =>
    rw [List.splitOn_nil, List.mem_singleton] at hcs
    rw [hcs]
    exact List.not_mem_nil
  | cons d text ih =>
    rw [List.splitOn_cons_eq_if_modifyHead] at hcs
    obtain ⟨first, rest, hsplit⟩ := List.exists_cons_of_ne_nil (List.splitOn_ne_nil c text)
    rw [hsplit] at hcs ih
    split at hcs
    · rcases List.mem_cons.mp hcs with rfl | hcs
      · exact List.not_mem_nil
      · exact ih cs hcs
    · next hd =>
      rw [List.modifyHead_cons, List.mem_cons] at hcs
      rcases hcs with rfl | hcs
      · rw [List.mem_cons, not_or]
        exact ⟨fun heq => hd (by simp [heq]), ih first List.mem_cons_self⟩
      · exact ih cs (List.mem_cons_of_mem _ hcs)

end StagedQuery
