import ElmCodec.Proofs.Resolution

/-!
# Renames

A rename table gives names to records and does nothing else.  Two resolutions of one
definition are run with different tables.  They fail with the same failure, or they succeed
with records that correspond place by place: the records at one place are those of one class,
have the same fields and refer to the same places.  The names at a place may differ, and each
is the one that its own table gives (`Named`).

The reason is that the walk over the classes never asks for a name (`resolution_eq`).  A class
is known by what it is and not by the name of its record, so two classes that are given one
name remain two records.
-/

namespace ElmCodec

open Source (Program ClassId Annot)
open Elm (RecordId)

/-- The name of a record is the one that the table gives to its declared name, or else the type
name of the declared name. -/
inductive Named (naming : Naming) (renames : Renames) (declared : String) : String → Prop where
  | given {name : String} : renames.find? declared = some name → Named naming renames declared name
  | ofDeclared : renames.find? declared = none →
      Named naming renames declared (naming.typeName declared)

theorem named_recordName (naming : Naming) (renames : Renames) (declared : String) :
    Named naming renames declared (naming.recordName renames declared) := by
  unfold Naming.recordName
  cases hfind : renames.find? declared with
  | some name => exact .given hfind
  | none => exact .ofDeclared hfind

namespace Source.Program

variable {p : Program} {naming : Naming} {renames renames' : Renames}

/-- The record of a class whose name is the one that a table gives. -/
structure NamedRecordFor (p : Program) (style : Style) (node : ClassId → RecordId) (c : ClassId)
    (record : Elm.Record) : Prop extends p.RecordFor style node c record where
  named : Named style.naming style.renames (p.className (.declared c)) record.name

/-- Two resolutions have the records of the same classes at the same places, with the same
fields. -/
structure SameRecords (p : Program) (style style' : Style) (classes : List ClassId)
    (r r' : Elm.Resolution) : Prop where
  nodup : classes.Nodup
  types : r.types = (List.range classes.length).map .record
  types' : r'.types = (List.range classes.length).map .record
  records : ∀ (place : RecordId) (c : ClassId), classes[place]? = some c → ∃ record record',
    r.schema[place]? = some record ∧ r'.schema[place]? = some record' ∧
    p.NamedRecordFor style classes.idxOf c record ∧
    p.NamedRecordFor style' classes.idxOf c record' ∧ record.fields = record'.fields

/-- Two resolutions end in the same way but for the names of records. -/
inductive SameButNames (p : Program) (style style' : Style) :
    Except Failure Elm.Resolution → Except Failure Elm.Resolution → Prop where
  | error (e : Failure) : SameButNames p style style' (.error e) (.error e)
  | ok {r r' : Elm.Resolution} (classes : List ClassId) : p.SameRecords style style' classes r r' →
      SameButNames p style style' (.ok r) (.ok r')

theorem recordOf_namedRecordFor {style : Style} {known : List ClassId} {c : ClassId}
    (h : p.Convertible c) :
    p.NamedRecordFor style known.idxOf c (p.recordOf style known c) where
  toRecordFor := recordOf_recordFor h
  named := named_recordName _ _ _

/-- The fields of a record do not depend on the rename table. -/
theorem fields_recordOf (known : List ClassId) (c : ClassId) :
    (p.recordOf ⟨naming, renames⟩ known c).fields =
      (p.recordOf ⟨naming, renames'⟩ known c).fields :=
  rfl

theorem resolutionOf_sameRecords {root : ClassId} {known : List ClassId}
    (hroot : p.isRecordClass root = true) (hwalk : p.discovery root = .ok known) :
    p.SameRecords ⟨naming, renames⟩ ⟨naming, renames'⟩ known
      (p.resolutionOf ⟨naming, renames⟩ known) (p.resolutionOf ⟨naming, renames'⟩ known) := by
  have hne : known ≠ [] := by
    obtain ⟨others, rfl⟩ := discovery_eq_cons hroot hwalk
    exact List.cons_ne_nil _ _
  have hnodup := (discovery_explored hroot hwalk).nodup List.nodup_nil
  refine ⟨hnodup, types_resolutionOf hne, types_resolutionOf hne, fun place c hc => ?_⟩
  have hconvertible := convertible_of_mem_discovery hroot hwalk (List.mem_of_getElem? hc)
  exact ⟨_, _, by simp [resolutionOf, hc], by simp [resolutionOf, hc],
    recordOf_namedRecordFor hconvertible, recordOf_namedRecordFor hconvertible,
    fields_recordOf known c⟩

/-- Rename tables change nothing but the names of records. -/
theorem renames_change_names_only (p : Program) (naming : Naming) (renames renames' : Renames)
    (a : Annot) :
    p.SameButNames ⟨naming, renames⟩ ⟨naming, renames'⟩
      (p.resolution ⟨naming, renames⟩ a) (p.resolution ⟨naming, renames'⟩ a) := by
  cases hensure : p.ensureRecord a with
  | error e =>
    rw [resolution_eq_error hensure, resolution_eq_error hensure]
    exact .error e
  | ok root =>
    obtain ⟨rfl, hroot⟩ := ensureRecord_eq_ok.mp hensure
    rw [resolution_eq hroot, resolution_eq hroot]
    cases hwalk : p.discovery root with
    | error e => exact .error e
    | ok known => exact .ok known (resolutionOf_sameRecords hroot hwalk)

end Source.Program

end ElmCodec
