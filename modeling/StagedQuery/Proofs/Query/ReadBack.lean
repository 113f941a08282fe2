import StagedQuery.Proofs.Number.Digits
import StagedQuery.Proofs.Success
import StagedQuery.Proofs.Text.Pieces
import StagedQuery.Query.Listing

set_option relaxedAutoImplicit false
set_option autoImplicit false

/-!
# Listings are read back

The text of a listing shows its columns and its cells: where none of them has a tab or a line break
in it, cutting the text at the line breaks and the lines at the tabs gives them back. Empty cells
are not lost, whether they stand at the ends of a line or fill it alone.

## Main definitions

* `textLines`, `lineFields` — the lines of a text, and the fields of a line.
* `IsField` — the texts that can be fields.
* `shownCells` — the cells of a row as a listing shows them.
* `readListing` — the columns and cells that are read out of the text of a listing.

## Main results

* `listing_eq_lines` — the lines of a listing with rows.
* `listing_readBack` — a listing is read back.
-/

namespace StagedQuery

/-! ## Lines and fields -/

/-- The lines of a text. -/
def textLines (text : String) : List String := pieces '\n' text

/-- The fields of a line. -/
def lineFields (line : String) : List String := pieces '\t' line

/-- A text that can be a field of a line: it has no tab and no line break. -/
def IsField (s : String) : Prop := '\t' ∉ s.toList ∧ '\n' ∉ s.toList

instance (s : String) : Decidable (IsField s) := inferInstanceAs (Decidable (_ ∧ _))

/-- The cells of a row under the names of columns, as a listing shows them. -/
def shownCells (names : List String) (row : Row) : List String :=
  names.map fun name => cellText (row.get (.text name))

/-- The columns and the cells that are read out of the text of a listing: none if there is no line
for a header. -/
def readListing (text : String) : Option (List String × List (List String)) :=
  match textLines text with
  | _ :: _ :: header :: _ :: rows => some (lineFields header, rows.map lineFields)
  | _ => none

/-- Fields that are joined by tabs are the fields of the line. -/
lemma lineFields_intercalate {fields : List String} (hne : fields ≠ [])
    (h : ∀ field ∈ fields, IsField field) :
    lineFields (String.intercalate "\t" fields) = fields :=
  pieces_intercalate hne fun field hfield => (h field hfield).1

/-- A line of fields has no line break. -/
lemma not_mem_line {fields : List String} (h : ∀ field ∈ fields, IsField field) :
    '\n' ∉ (String.intercalate "\t" fields).toList := by
  induction fields with
  | nil => simp
  | cons field fields ih =>
    obtain ⟨hfield, hfields⟩ := List.forall_mem_cons.mp h
    cases fields with
    | nil => simpa using hfield.2
    | cons next fields =>
      rw [String.intercalate_cons_cons, String.toList_append, String.toList_append]
      simp only [List.mem_append, not_or]
      exact ⟨⟨hfield.2, by simp⟩, ih hfields⟩

/-- A number of rows has no line break. -/
lemma not_mem_rowCount (n : ℕ) (rest : String) (h : '\n' ∉ rest.toList) :
    '\n' ∉ (rowCount n ++ rest).toList := by
  rw [rowCount, String.toList_append, String.toList_append]
  simp only [List.mem_append, not_or]
  refine ⟨⟨not_mem_intText (by decide) n, ?_⟩, h⟩
  split <;> simp

/-! ## The lines of a listing -/

/-- Texts as labels are the header. -/
lemma labelTexts_eq_ok (names : List String) :
    (names.map Value.text).mapM labelText = .ok names := by
  refine mapM_eq_ok.mpr ?_
  rw [List.forall₂_map_left_iff, List.forall₂_same]
  exact fun _ _ => rfl

/-- **A listing with rows** is made of its lines: the number of rows, an empty line, the header, the
rule, and one line for each row. -/
lemma listing_eq_lines (names : List String) {rows : List Row} (hrows : rows ≠ []) :
    listing (names.map .text) rows = .ok (String.intercalate "\n"
      ((rowCount rows.length ++ " returned") :: "" :: String.intercalate "\t" names ::
        ruleLine (String.intercalate "\t" names) names.length ::
          rows.map fun row => String.intercalate "\t" (shownCells names row))) := by
  have hline : rowLine (names.map Value.text) = fun row =>
      String.intercalate "\t" (shownCells names row) := by
    funext row
    rw [rowLine, shownCells, List.map_map]
    rfl
  rw [listing, if_neg (by simpa using hrows), labelTexts_eq_ok, hline, List.length_map]
  rfl

/-- **The lines of a listing** are read back from its text. -/
lemma textLines_listing {names : List String} {rows : List Row} {text : String}
    (hheader : ∀ name ∈ names, IsField name)
    (hcells : ∀ row ∈ rows, ∀ cell ∈ shownCells names row, IsField cell) (hrows : rows ≠ [])
    (h : listing (names.map .text) rows = .ok text) :
    textLines text = (rowCount rows.length ++ " returned") :: "" ::
      String.intercalate "\t" names :: ruleLine (String.intercalate "\t" names) names.length ::
        rows.map fun row => String.intercalate "\t" (shownCells names row) := by
  rw [listing_eq_lines names hrows] at h
  obtain rfl := Except.ok.inj h
  refine pieces_intercalate (List.cons_ne_nil _ _) ?_
  simp only [List.forall_mem_cons, List.forall_mem_map]
  refine ⟨not_mem_rowCount _ _ (by simp), by simp, not_mem_line hheader, ?_, fun row hrow =>
    not_mem_line (hcells row hrow)⟩
  rw [ruleLine, String.toList_ofList]
  exact fun hmem => absurd (List.eq_of_mem_replicate hmem) (by decide)

/-! ## Reading back -/

/-- The text of a listing without rows is its only line. -/
lemma textLines_empty : textLines "0 rows returned" = ["0 rows returned"] :=
  pieces_of_not_mem (by decide)

/-- **A listing is read back.** Take any names of columns, at least one of them, and any rows, such
that no name and no shown cell has a tab or a line break. There is a listing, and its text
determines what it shows. It is the text for no rows exactly if there are none. Otherwise it has
four lines and one more for each row. The first line tells the number of rows, the fields of the
third one are the names, and the fields of the line of each row are its cells, in the order of the
columns. So names and cells are read back as a whole. -/
theorem listing_readBack {names : List String} {rows : List Row} (hnames : names ≠ [])
    (hheader : ∀ name ∈ names, IsField name)
    (hcells : ∀ row ∈ rows, ∀ name ∈ names, IsField (cellText (row.get (.text name)))) :
    ∃ text, listing (names.map .text) rows = .ok text ∧
      (text = "0 rows returned" ↔ rows = []) ∧
      (rows ≠ [] → (textLines text).length = 4 + rows.length ∧
        (textLines text)[0]? = some (rowCount rows.length ++ " returned") ∧
        (textLines text)[2]?.map lineFields = some names ∧
        ∀ k row, rows[k]? = some row → (textLines text)[4 + k]?.map lineFields =
          some (names.map fun name => cellText (row.get (.text name)))) ∧
      readListing text = if rows = [] then none else some (names, rows.map (shownCells names)) := by
  have hshown : ∀ row ∈ rows, ∀ cell ∈ shownCells names row, IsField cell := fun row hrow =>
    List.forall_mem_map.mpr (hcells row hrow)
  have hfields : ∀ row ∈ rows,
      lineFields (String.intercalate "\t" (shownCells names row)) = shownCells names row :=
    fun row hrow => lineFields_intercalate (by simpa [shownCells] using hnames) (hshown row hrow)
  by_cases hrows : rows = []
  · subst hrows
    refine ⟨"0 rows returned", rfl, by simp, fun h => absurd rfl h, ?_⟩
    rw [readListing, textLines_empty, if_pos rfl]
  · obtain ⟨text, htext⟩ : ∃ text, listing (names.map .text) rows = .ok text :=
      ⟨_, listing_eq_lines names hrows⟩
    have hlines := textLines_listing hheader hshown hrows htext
    refine ⟨text, htext, ⟨fun heq => ?_, fun h => absurd h hrows⟩, fun _ => ?_, ?_⟩
    · -- a listing with rows has more than one line
      rw [heq, textLines_empty] at hlines
      exact absurd (congrArg List.length hlines) (by simp)
    · rw [hlines]
      refine ⟨?_, rfl, ?_, fun k row hk => ?_⟩
      · simp only [List.length_cons, List.length_map]
        omega
      · exact congrArg some (lineFields_intercalate hnames hheader)
      · have hrow : row ∈ rows := List.mem_of_getElem? hk
        rw [Nat.add_comm 4 k]
        simp only [List.getElem?_cons_succ, List.getElem?_map, hk, Option.map_some]
        exact congrArg some (hfields row hrow)
    · rw [readListing, hlines, if_neg hrows]
      simp only [List.map_map]
      rw [lineFields_intercalate hnames hheader]
      exact congrArg (fun cells => some (names, cells)) (List.map_congr_left hfields)

/-- Two rows under one column, of which the first has the empty text and the second has nothing:
the listing ends in an empty line and a line for the missing value. -/
theorem listing_readBack_emptyCell :
    ∃ text, listing [.text "a"] [[(.text "a", .text "")], [(.text "b", .int 1)]] = .ok text ∧
      (textLines text).length = 6 ∧ readListing text = some (["a"], [[""], ["NULL"]]) := by
  obtain ⟨text, htext, -, hlines, hread⟩ := @listing_readBack ["a"]
    [[(.text "a", .text "")], [(.text "b", .int 1)]] (by simp) (by decide +kernel)
    (by decide +kernel)
  exact ⟨text, htext, (hlines (by simp)).1, hread⟩

end StagedQuery
