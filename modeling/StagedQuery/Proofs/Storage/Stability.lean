import StagedQuery.Proofs.Storage.DatabaseFile

set_option relaxedAutoImplicit false
set_option autoImplicit false

/-!
# Restored stores are stable

A document that was not saved as a snapshot may lack fields, have fields too many, describe a column
twice and nest lists and objects in cells. What is restored from it has lost all of that: it is
restored again from its own snapshot, without any further change.

## Main definitions

* `Document.HasBasicColumns` — every column is named by a text and has a basic type.

## Main results

* `Document.isStored_toValue` — the values in a document that was read are stored.
* `capitalize_capitalize` — capitals of basic text stay as they are.
* `Document.isStorable_asStore` — what a document with basic columns describes is storable.
* `Store.ofDocument_stable` — a restored store is stable under saving and restoring.
-/

namespace StagedQuery

/-! ## Values and parts of documents that were read -/

namespace Document

mutual

/-- The value of a document is written as that document. -/
theorem toDocument?_toValue : ∀ d : Document, d.toValue.toDocument? = some d
  | .null => rfl
  | .bool _ => rfl
  | .int _ => rfl
  | .float _ => rfl
  | .text _ => rfl
  | .list items => by
    rw [toValue, Value.toDocument?, toDocuments?_toValues items]
    rfl
  | .object fields => by
    rw [toValue, Value.toDocument?, toFields?_toFields fields]
    rfl

/-- The values of documents are written as those documents. -/
theorem toDocuments?_toValues : ∀ ds : List Document, Value.toDocuments? (toValues ds) = some ds
  | [] => rfl
  | d :: ds => by
    rw [toValues, Value.toDocuments?, toDocument?_toValue d, toDocuments?_toValues ds]

/-- The values of fields are written as those fields. -/
theorem toFields?_toFields : ∀ fields : List (String × Document),
    Value.toFields? (toFields fields) = some fields
  | [] => rfl
  | (key, d) :: fields => by
    rw [toFields, Value.toFields?, toDocument?_toValue d, toFields?_toFields fields]

end

/-- **The value of a document that was read** is stored. -/
lemma IsReadable.isStored {d : Document} (h : d.IsReadable) : d.toValue.IsStored :=
  ⟨d, toDocument?_toValue d, rfl, h⟩

end Document

/-! ## Capitals -/

/-- The capital of a basic character is a capital. -/
lemma exists_capitalOf {c : Char} (h : c.toNat < 128) :
    ∃ u, capitalOf c = [u] ∧ capitalOf u = [u] := by
  have hall : ∀ n < 128, capitalOf (Char.ofNat n).toUpper = [(Char.ofNat n).toUpper] := by
    decide +kernel
  have hcapital := hall c.toNat h
  rw [Char.ofNat_toNat] at hcapital
  exact ⟨c.toUpper, if_pos h, hcapital⟩

/-- **Capitals of basic text** stay as they are. -/
lemma capitalize_capitalize {s : String} (h : ∀ c ∈ s.toList, c.toNat < 128) :
    capitalize (capitalize s) = capitalize s := by
  rw [capitalize, capitalize, String.toList_ofList]
  congr 1
  generalize s.toList = cs at h ⊢
  induction cs with
  | nil => rfl
  | cons c cs ih =>
    obtain ⟨hc, hcs⟩ := List.forall_mem_cons.mp h
    obtain ⟨u, hu, hcapital⟩ := exists_capitalOf hc
    rw [List.flatMap_cons, hu, List.flatMap_append, ih hcs, List.flatMap_singleton, hcapital]

/-! ## What a document describes -/

namespace Document

/-- Whether a document is a text. -/
def isText : Document → Bool
  | text _ => true
  | _ => false

/-- A document describes a column that is named by a text, and the text of its type is basic. A type
that is absent counts as `TEXT`. -/
def IsBasicColumn (d : Document) : Prop :=
  ((d.at? "name").getD null).isText = true ∧
    ∀ c ∈ ((d.at? "type").getD (text "TEXT")).toValue.display.toList, c.toNat < 128

/-- Every column of every table that a document describes is of that kind. -/
def HasBasicColumns (d : Document) : Prop :=
  ∀ f ∈ d.tableFields?.getD [], ∀ c ∈ f.2.columnParts?.getD [], c.IsBasicColumn

instance (d : Document) : Decidable d.IsBasicColumn := inferInstanceAs (Decidable (_ ∧ _))

instance (d : Document) : Decidable d.HasBasicColumns :=
  inferInstanceAs (Decidable (∀ f ∈ _, ∀ c ∈ _, IsBasicColumn c))

/-- A basic column is named by a text. -/
lemma IsBasicColumn.named {d : Document} (h : d.IsBasicColumn) :
    ∃ name, d.asColumn.label = .text name := by
  have hname := h.1
  rw [asColumn]
  generalize (d.at? "name").getD null = name at hname
  cases name with
  | text name => exact ⟨name, rfl⟩
  | null | bool | int | float | list | object => cases hname

/-- The parts that describe the columns of a table could have been read. -/
lemma IsReadable.columnParts {d : Document} (h : d.IsReadable) :
    ∀ part ∈ d.columnParts?.getD [], part.IsReadable := by
  cases hparts : d.columnParts? with
  | none => exact List.forall_mem_nil _
  | some parts =>
    obtain ⟨schema, hschema, columns, hfield, hcolumns⟩ := columnParts?_eq_some.mp hparts
    exact ((h.at? hschema).at? hfield).parts? hcolumns

/-- The parts that describe its rows could have been read. -/
lemma IsReadable.rowParts {d : Document} (h : d.IsReadable) :
    ∀ part ∈ d.rowParts?.getD [], part.IsReadable := by
  have hrows := h.getD (list []) trivial "rows"
  rw [rowParts?]
  cases hparts : ((d.at? "rows").getD (list [])).parts? with
  | none => exact List.forall_mem_nil _
  | some parts => exact hrows.parts? hparts

/-- The value that a document which was read gives for a label is stored. -/
lemma IsReadable.isStored_valueAt {d : Document} (h : d.IsReadable) (label : Value) :
    (d.valueAt label).IsStored := by
  have hnull : Value.null.IsStored := ⟨null, rfl, rfl, trivial⟩
  unfold valueAt
  split
  · next key =>
    cases hpart : d.at? key with
    | none => exact hnull
    | some part => exact (h.at? hpart).isStored
  · exact hnull

/-- **A table with basic columns** that a document which was read describes is storable. -/
lemma IsReadable.isStorable_asTable {d : Document} (h : d.IsReadable) (name : String)
    (hbasic : ∀ c ∈ d.columnParts?.getD [], c.IsBasicColumn) : (d.asTable name).IsStorable where
  named := List.forall_mem_map.mpr fun c hc => (hbasic c hc).named
  typed := List.forall_mem_map.mpr fun c hc => capitalize_capitalize (hbasic c hc).2
  defaults := List.forall_mem_map.mpr fun c hc =>
    ((h.columnParts c hc).getD null trivial "default").isStored
  labels := List.forall_mem_map.mpr fun r _ => by
    rw [asRow, List.map_map]
    exact List.map_id _
  cells := List.forall_mem_map.mpr fun r hr =>
    List.forall_mem_map.mpr fun label _ => (h.rowParts r hr).isStored_valueAt label

/-- **A store with basic columns** that a document which was read describes is storable. -/
lemma IsReadable.isStorable_asStore {d : Document} (h : d.IsReadable)
    (hbasic : d.HasBasicColumns) : d.asStore.IsStorable where
  names := by
    rw [Store.names, asStore, List.map_map]
    exact h.tableFields.1
  tables := List.forall_mem_map.mpr fun f hf =>
    (fieldsReadable_iff.mp h.tableFields.2 f hf).isStorable_asTable f.1 (hbasic f hf)

end Document

/-! ## Saving and restoring again -/

/-- **A restored store is stable.** Take any text that holds a document from which a store is
restored, and let its columns be named by texts and have basic types. Nothing more of the store
changes when it is saved and restored again. It has a snapshot, at whatever time; from the text of
the snapshot, in whichever layout, the very same store is restored; and the snapshots of the store
at other times have the same tables. On every disk on which the store is saved at a path, it is
loaded from that path again. -/
theorem Store.ofDocument_stable {text : String} {d : Document} {s : Store}
    (h : Document.read? text = some d) (hbasic : d.HasBasicColumns)
    (hs : Store.ofDocument d = .ok s) :
    (∀ created, ∃ saved, s.toDocument created = some saved ∧
      (∀ layout, ∃ again, Document.read? (saved.write layout) = some again ∧
        Store.ofDocument again = .ok s) ∧
      ∀ created', ∃ saved', s.toDocument created' = some saved' ∧
        saved'.at? "tables" = saved.at? "tables") ∧
    ∀ (disk after : Disk) (created : String) (p file : DiskPath),
      disk.save s created p = .ok (after, file) → after.load p = .ok s := by
  have hd : d.IsReadable := Document.isReadable_iff.mpr ⟨text, h⟩
  obtain ⟨-, rfl⟩ := (Store.ofDocument_eq_ok hd).mp hs
  have hstorable := hd.isStorable_asStore hbasic
  refine ⟨fun created => ?_, fun disk after created p file hsave => ?_⟩
  · obtain ⟨saved, hsaved, hrestored, hreadable⟩ := Store.ofDocument_toDocument hstorable created
    refine ⟨saved, hsaved, fun layout => ⟨saved, Document.read_write layout hreadable, hrestored⟩,
      fun created' => ?_⟩
    obtain ⟨tables, htables, heq⟩ := Option.bind_eq_some_iff.mp hsaved
    obtain rfl := Option.some.inj heq
    exact ⟨_, Option.bind_eq_some_iff.mpr ⟨tables, htables, rfl⟩, rfl⟩
  · obtain ⟨place, hplace, hfile, hnull, hfolders, hholds, -⟩ := Disk.save_spec hsave
    exact Disk.load_of_holds hstorable hfile hnull ((hfolders.place? p).trans hplace) hholds

/-- What is restored from the foreign document is restored again from its own snapshot. -/
theorem Store.ofDocument_stable_foreign :
    ∃ s saved again, Store.ofDocument .foreign = .ok s ∧ s.toDocument "" = some saved ∧
      Document.read? (saved.write fileLayout) = some again ∧ Store.ofDocument again = .ok s ∧
      s.tables.map (fun t => t.schema.columns.map Column.typeName) =
        [["TEXT", "TEXT", "TEXT"]] := by
  have hread := Document.read_write .oneLine Document.isReadable_foreign
  have hsnapshot : Document.foreign.IsSnapshot := by decide +kernel
  have hs := (Store.ofDocument_eq_ok Document.isReadable_foreign).mpr ⟨hsnapshot, rfl⟩
  obtain ⟨hstable, -⟩ := Store.ofDocument_stable hread (by decide +kernel) hs
  obtain ⟨saved, hsaved, hlayouts, -⟩ := hstable ""
  obtain ⟨again, hagain, hrestored⟩ := hlayouts fileLayout
  exact ⟨_, saved, again, hs, hsaved, hagain, hrestored, by decide +kernel⟩

end StagedQuery
