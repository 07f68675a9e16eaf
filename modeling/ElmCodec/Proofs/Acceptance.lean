import ElmCodec.Proofs.Codec
import ElmCodec.Proofs.Emission

/-!
# Legal JSON that decoders refuse

The *legal* JSON values of an annotation are those that a program may send that keeps to the
annotation (`Legal`).  A decoder should take them all.

A nullable type is written as the type itself, and the field that has it adds the `nullable`.
So a null is taken where the type of a field is nullable, but the items of a list have no field
that adds anything.  A list of nullable items *loses* null (`Ty.losesNull`), unless its items are
records that make something of null by themselves: a record decoder without a required key
takes everything that is no object for an object without members (`Ty.takes_null_iff`).

Nothing else is refused.  The decoders of a module take all legal values exactly if no field of
the module has a type that loses null (`acceptsLegal_iff`).
-/

namespace ElmCodec

/-! ## Legal values -/

/-- A number without a fraction.  The mantissa stands before a power of ten. -/
def Elm.Json.isInteger : Elm.Json → Bool
  | .number mantissa exponent => 0 ≤ exponent || mantissa.natAbs % Nat.pow 10 exponent.natAbs == 0
  | _ => false

namespace Source

open Elm (Json)

/-- The JSON values of a scalar. -/
def Scalar.isWire : Scalar → Json → Bool
  | .bool, .bool _ => true
  | .int, json => json.isInteger
  | .float, .number _ _ => true
  | .string, .text _ => true
  | _, _ => false

theorem Scalar.isWire_null (k : Scalar) : k.isWire .null = false := by
  cases k <;> rfl

/-- The JSON values of an annotation.  An object may have further members, and may leave out
the keys that are omittable. -/
inductive Legal (p : Program) : Annot → Json → Prop where
  | scalar {k : Scalar} {json : Json} :
      k.isWire json = true → Legal p (.cls (Program.scalarClass k)) json
  | record {id : ClassId} {es : List ExportedField} {members : List (String × Json)} :
      p.isRecordClass id = true → p.exportedFields id = .ok es →
      (∀ e ∈ es, ∀ json, (Json.object members).member? e.wire.key = some json →
        Legal p e.hint json) →
      (∀ e ∈ es, (Json.object members).member? e.wire.key = none → e.wire.omittable = true) →
      Legal p (.cls (.declared id)) (.object members)
  | annotated {t : Annot} {notes : List Annot} {json : Json} :
      Legal p t json → Legal p (.annotated t notes) json
  | null {a t : Annot} : a.OptionalOf t → Legal p a .null
  | optional {a t : Annot} {json : Json} : a.OptionalOf t → Legal p t json → Legal p a json
  | sequence {a t : Annot} {items : List Json} : a.SequenceOf t →
      (∀ json ∈ items, Legal p t json) → Legal p a (.array items)

end Source

namespace Elm

variable {α : Type} {lib : Library α} {s : Schema} {m : Imports} {r : Resolution} {t : Ty}
  {f : Field} {json : Json}

/-! ## What decoders take -/

/-- The decoder of a type takes a JSON value. -/
def Ty.Takes (lib : Library α) (s : Schema) (m : Imports) (t : Ty) (json : Json) : Prop :=
  ((t.form (Ty.decoderName s m.decode)).decode lib json).isSome = true

/-- The decoder of a field takes a JSON value. -/
def Field.Takes (lib : Library α) (s : Schema) (m : Imports) (f : Field) (json : Json) : Prop :=
  ((f.step s m).value.decode lib json).isSome = true

theorem Ty.takes_array {items : List Json} :
    (Ty.list t).Takes lib s m (.array items) ↔ ∀ json ∈ items, t.Takes lib s m json := by
  rw [Takes, form, Form.decode, Option.isSome_map]
  exact isSome_mapM_iff

theorem Field.takes_iff :
    f.Takes lib s m json ↔ json = .null ∧ f.isMaybe = true ∨ f.type.Takes lib s m json := by
  cases hmaybe : f.isMaybe with
  | false => simp [Takes, Ty.Takes, step, hmaybe]
  | true =>
    cases json with
    | null => simp [Takes, step, hmaybe, Form.decode]
    | _ => simp [Takes, Ty.Takes, step, hmaybe, Form.decode]

/-- A field takes what its type takes, and null if its type is nullable. -/
theorem Field.takes_of_type (h : json = .null ∧ f.type.isNullable = true ∨
    f.type.Takes lib s m json) : f.Takes lib s m json := by
  rcases h with ⟨hnull, hnullable⟩ | htakes
  · exact Field.takes_iff.mpr (Or.inl ⟨hnull, by simp [isMaybe, hnullable]⟩)
  · exact Field.takes_iff.mpr (Or.inr htakes)

/-- A step reads the value under its key, or makes do without it. -/
theorem Field.isSome_step_run :
    ((f.step s m).run lib json).isSome = true ↔
      (∀ value, json.member? f.key = some value → f.Takes lib s m value) ∧
        (json.member? f.key = none → f.isMaybe = true) := by
  have hkey : (f.step s m).key = f.key := rfl
  have hoptional : (f.step s m).optional = f.isMaybe := rfl
  rw [Step.run, hkey, hoptional]
  cases hmember : json.member? f.key with
  | none => cases hmaybe : f.isMaybe <;> simp
  | some value =>
    cases hmaybe : f.isMaybe with
    | false => simp [Takes]
    | true =>
      cases value with
      | null => simp [Field.takes_iff, hmaybe]
      | _ => simp [Takes]

theorem Ty.isSome_recordDecoder_run {name : String} :
    ((t.recordDecoder s m name).run lib (t.recordAlias s) json).isSome = true ↔
      ∀ f ∈ t.fields s, ((f.step s m).run lib json).isSome = true := by
  rw [Decoder.run, if_pos ⟨rfl, rfl, by simp [recordDecoder, recordAlias]⟩, Option.isSome_map,
    isSome_mapM_iff, recordDecoder, List.forall_mem_map]

/-- The decoders of the primitive types take what their names say.  The decoder that is called
for a record of a module takes what its declared decoder takes. -/
structure Library.Standard (lib : Library α) (m : Imports) (r : Resolution) : Prop where
  primitives : ∀ (k : Source.Scalar) json,
    (lib.decode (m.decode ++ "." ++ k.primitive.codec) json).isSome = k.isWire json
  records : ∀ t ∈ r.types, ∀ name json,
    (lib.decode (t.decoderName r.schema m.decode) json).isSome =
      ((t.recordDecoder r.schema m name).run lib (t.recordAlias r.schema) json).isSome

theorem Library.Standard.takes_primitive (h : lib.Standard m r) (k : Source.Scalar) :
    (Ty.primitive k.primitive).Takes lib r.schema m json ↔ k.isWire json = true := by
  change ((lib.decode _ json).map Value.leaf).isSome = true ↔ _
  rw [Option.isSome_map, Ty.decoderName, h.primitives]

theorem Library.Standard.takes_record (h : lib.Standard m r) {id : RecordId}
    (hid : .record id ∈ r.types) :
    (Ty.record id).Takes lib r.schema m json ↔
      ∀ f ∈ r.schema.fieldsOf id, ((f.step r.schema m).run lib json).isSome = true := by
  change ((lib.decode _ json).map Value.leaf).isSome = true ↔ _
  rw [Option.isSome_map, h.records _ hid "", Ty.isSome_recordDecoder_run, Ty.fields]

/-! ## Types that lose null -/

/-- Whether the decoder of a type refuses null. -/
def Ty.refusesNull (s : Schema) : Ty → Bool
  | .nullable t => t.refusesNull s
  | .record id => (s.fieldsOf id).any fun f => !f.isMaybe
  | _ => true

/-- Whether null is a legal item of a list in a type and is refused there. -/
def Ty.losesNull (s : Schema) : Ty → Bool
  | .list t => t.isNullable && t.refusesNull s || t.losesNull s
  | .nullable t => t.losesNull s
  | _ => false

/-- A type of a module: what stands innermost has a decoder. -/
def Resolution.HasLeaf (r : Resolution) (t : Ty) : Prop :=
  (∃ k : Source.Scalar, t.leaf = .primitive k.primitive) ∨ ∃ id, t.leaf = .record id ∧
    .record id ∈ r.types

theorem Ty.takes_null_iff (h : lib.Standard m r) (ht : r.HasLeaf t) :
    t.Takes lib r.schema m .null ↔ t.refusesNull r.schema = false := by
  induction t with
  | nullable t ih => exact ih ht
  | list t ih => simp [Takes, form, Form.decode, refusesNull]
  | primitive q =>
    obtain ⟨k, hk⟩ | ⟨id, hid, -⟩ := ht
    · cases hk
      simp [h.takes_primitive, k.isWire_null, refusesNull]
    · cases hid
  | record id =>
    obtain ⟨k, hk⟩ | ⟨id', hid, htypes⟩ := ht
    · cases hk
    · cases hid
      -- Null has no members, so that a step succeeds if its key may be missing.
      simp [h.takes_record htypes, Field.isSome_step_run, Json.member?, refusesNull]
  | incomplete w => rcases ht with ⟨k, hk⟩ | ⟨id, hid, -⟩ <;> contradiction
  | foreign kind key name => rcases ht with ⟨k, hk⟩ | ⟨id, hid, -⟩ <;> contradiction

end Elm

namespace Source.Program

open Elm

variable {p : Program} {style : Style} {root : ClassId} {known : List ClassId} {α : Type}
  {lib : Elm.Library α} {m : Imports} {a t : Annot} {json : Json} {r : Resolution}

/-! ## Annotations of a module -/

/-- A supported annotation that mentions known classes only. -/
structure Fits (p : Program) (known : List ClassId) (a : Annot) : Prop where
  supported : (p.shape a).IsSupported
  mentioned : ∀ d, (p.shape a).class? = some d → d ∈ known

/-- A resolution with a record for each known class, whose fields are those that the class
exports. -/
def Covers (p : Program) (style : Style) (known : List ClassId) (r : Resolution) : Prop :=
  ∀ c ∈ known, .record (known.idxOf c) ∈ r.types ∧ ∃ es, p.exportedFields c = .ok es ∧
    (∀ e ∈ es, p.Fits known e.hint) ∧
    r.schema.fieldsOf (known.idxOf c) = es.map (p.fieldOf style known)

theorem covers_resolutionOf (style : Style) (hroot : p.isRecordClass root = true)
    (hwalk : p.discovery root = .ok known) :
    p.Covers style known (p.resolutionOf style known) := by
  intro c hc
  have hplace := List.getElem?_idxOf hc
  obtain ⟨es, hes, -, hsupported, hfields⟩ := fields_resolutionOf style hroot hwalk hplace
  refine ⟨(mem_types_resolutionOf hroot hwalk).mpr ⟨_, c, hplace, rfl⟩, es, hes, ?_, hfields⟩
  intro e he
  refine ⟨hsupported e he, fun d hd => (mem_discovery hroot hwalk).mpr ?_⟩
  exact ((mem_discovery hroot hwalk).mp hc).tail ((refersTo_iff hes).mpr ⟨e, he, hd⟩)

theorem Fits.of_optionalOf (h : p.Fits known a) (hopt : a.OptionalOf t) : p.Fits known t := by
  obtain ⟨hsupported, hmentioned⟩ := h
  rw [shape_of_optionalOf hopt] at hsupported hmentioned
  exact ⟨hsupported, hmentioned⟩

theorem Fits.of_sequenceOf (h : p.Fits known a) (hseq : a.SequenceOf t) : p.Fits known t := by
  obtain ⟨hsupported, hmentioned⟩ := h
  rw [shape_of_sequenceOf hseq] at hsupported hmentioned
  exact ⟨hsupported, hmentioned⟩

theorem Fits.hasLeaf (h : p.Fits known a) (hr : p.Covers style known r) :
    r.HasLeaf ((p.shape a).elmType known.idxOf) := by
  cases hclass : (p.shape a).class? with
  | none => exact Or.inl (Shape.leaf_elmType_of_no_class known.idxOf h.supported hclass)
  | some d =>
    exact Or.inr ⟨_, Shape.leaf_elmType_of_class? known.idxOf hclass,
      (hr d (h.mentioned d hclass)).1⟩

/-! ## Legal values that are taken -/

/-- Without types that lose null, a legal value is taken or it is a null for the field to
take.  The induction is on what makes the value legal, and goes through records. -/
theorem takes_of_legal (hr : p.Covers style known r) (hlib : lib.Standard m r)
    (hkeeps : ∀ t ∈ r.types, ∀ f ∈ t.fields r.schema, f.type.losesNull r.schema = false)
    (h : Legal p a json) (ha : p.Fits known a)
    (hloses : ((p.shape a).elmType known.idxOf).losesNull r.schema = false) :
    json = .null ∧ ((p.shape a).elmType known.idxOf).isNullable = true ∨
      ((p.shape a).elmType known.idxOf).Takes lib r.schema m json := by
  induction h with
  | @scalar k json hwire =>
    rw [shape_scalarClass]
    exact Or.inr ((hlib.takes_primitive k).mpr hwire)
  | @record id es members hrec hes _ hmissing ih =>
    rw [shape_declared hrec]
    have hid : id ∈ known := ha.mentioned id (by rw [shape_declared hrec]; rfl)
    obtain ⟨htypes, es', hes', hfits, hfields⟩ := hr id hid
    cases Except.ok.inj (hes.symm.trans hes')
    refine Or.inr ((hlib.takes_record htypes).mpr fun f hf => ?_)
    have hkeep := hkeeps _ htypes f hf
    rw [hfields] at hf
    obtain ⟨e, he, rfl⟩ := List.mem_map.mp hf
    rw [Field.isSome_step_run]
    refine ⟨fun value hvalue => ?_, fun hnone => ?_⟩
    · exact Field.takes_of_type (ih e he value hvalue (hfits e he) hkeep)
    · simp [Field.isMaybe, fieldOf, hmissing e he hnone]
  | annotated _ ih => exact ih ⟨ha.supported, ha.mentioned⟩ hloses
  | null hopt =>
    rw [shape_of_optionalOf hopt]
    exact Or.inl ⟨rfl, rfl⟩
  | optional hopt _ ih =>
    have ht := ha.of_optionalOf hopt
    rw [shape_of_optionalOf hopt] at hloses ⊢
    rcases ih ht hloses with ⟨hnull, -⟩ | htakes
    · exact Or.inl ⟨hnull, rfl⟩
    · exact Or.inr htakes
  | sequence hseq _ ih =>
    have ht := ha.of_sequenceOf hseq
    rw [shape_of_sequenceOf hseq] at hloses ⊢
    obtain ⟨hitem, hinner⟩ := Bool.or_eq_false_iff.mp hloses
    refine Or.inr (Ty.takes_array.mpr fun item hmem => ?_)
    rcases ih item hmem ht hinner with ⟨rfl, hnullable⟩ | htakes
    · rw [hnullable, Bool.true_and] at hitem
      exact (Ty.takes_null_iff hlib (ht.hasLeaf hr)).mpr hitem
    · exact htakes

/-! ## Legal values that are refused -/

theorem legal_null (h : p.Fits known a)
    (hnullable : ((p.shape a).elmType known.idxOf).isNullable = true) : Legal p a .null := by
  induction a using shape_induction p with
  | annotated t notes ih => exact .annotated (ih ⟨h.supported, h.mentioned⟩ hnullable)
  | scalar k => rw [shape_scalarClass] at hnullable; cases hnullable
  | record id hrec => rw [shape_declared hrec] at hnullable; cases hnullable
  | optional a t hopt _ => exact .null hopt
  | sequence a t hseq _ => rw [shape_of_sequenceOf hseq] at hnullable; cases hnullable
  | unsupported a reason hshape => exact absurd h.supported (by rw [hshape]; exact id)

/-- A type that loses null refuses a legal value: the null in as many arrays as there are lists
around it. -/
theorem exists_legal_refused (hr : p.Covers style known r) (hlib : lib.Standard m r)
    (h : p.Fits known a)
    (hloses : ((p.shape a).elmType known.idxOf).losesNull r.schema = true) :
    ∃ json, json ≠ .null ∧ Legal p a json ∧
      ¬ ((p.shape a).elmType known.idxOf).Takes lib r.schema m json := by
  induction a using shape_induction p with
  | annotated t notes ih =>
    obtain ⟨json, hnull, hlegal, hrefused⟩ := ih ⟨h.supported, h.mentioned⟩ hloses
    exact ⟨json, hnull, .annotated hlegal, hrefused⟩
  | scalar k => rw [shape_scalarClass] at hloses; cases hloses
  | record id hrec => rw [shape_declared hrec] at hloses; cases hloses
  | optional a t hopt ih =>
    have ht := h.of_optionalOf hopt
    rw [shape_of_optionalOf hopt] at hloses ⊢
    obtain ⟨json, hnull, hlegal, hrefused⟩ := ih ht hloses
    exact ⟨json, hnull, .optional hopt hlegal, hrefused⟩
  | sequence a t hseq ih =>
    have ht := h.of_sequenceOf hseq
    rw [shape_of_sequenceOf hseq] at hloses ⊢
    obtain ⟨item, hlegal, hrefused⟩ : ∃ item, Legal p t item ∧
        ¬ ((p.shape t).elmType known.idxOf).Takes lib r.schema m item := by
      rcases Bool.or_eq_true_iff.mp hloses with hitem | hinner
      · obtain ⟨hnullable, hrefuses⟩ := Bool.and_eq_true_iff.mp hitem
        refine ⟨.null, legal_null ht hnullable, ?_⟩
        rw [Ty.takes_null_iff hlib (ht.hasLeaf hr), hrefuses]
        simp
      · obtain ⟨item, -, hlegal, hrefused⟩ := ih ht hinner
        exact ⟨item, hlegal, hrefused⟩
    refine ⟨.array [item], by simp, .sequence hseq (by simpa using hlegal), fun htakes => ?_⟩
    exact hrefused (Ty.takes_array.mp htakes item List.mem_cons_self)
  | unsupported a reason hshape => exact absurd h.supported (by rw [hshape]; exact id)

/-! ## The main result -/

/-- The fields of each reached class have decoders that take the legal values of their hints. -/
def AcceptsLegal (p : Program) (root : ClassId) (node : ClassId → RecordId) (r : Resolution)
    (m : Imports) (lib : Elm.Library α) : Prop :=
  ∀ c, p.Reaches root c → ∃ es, p.exportedFields c = .ok es ∧
    List.Forall₂ (fun e f => ∀ json, Legal p e.hint json → f.Takes lib r.schema m json) es
      ((Ty.record (node c)).fields r.schema)

theorem Covers.acceptsLegal_iff (hr : p.Covers style known r) (hlib : lib.Standard m r)
    (hknown : ∀ c, c ∈ known ↔ p.Reaches root c)
    (htypes : ∀ t ∈ r.types, ∃ c ∈ known, t = .record (known.idxOf c)) :
    p.AcceptsLegal root known.idxOf r m lib ↔
      ∀ t ∈ r.types, ∀ f ∈ t.fields r.schema, f.type.losesNull r.schema = false := by
  constructor
  · intro haccepts t ht f hf
    obtain ⟨c, hc, rfl⟩ := htypes t ht
    obtain ⟨-, es, hes, hfits, hfields⟩ := hr c hc
    obtain ⟨es', hes', htakes⟩ := haccepts c ((hknown c).mp hc)
    cases Except.ok.inj (hes.symm.trans hes')
    rw [Ty.fields, hfields] at hf htakes
    obtain ⟨e, he, rfl⟩ := List.mem_map.mp hf
    rw [List.forall₂_map_right_iff, List.forall₂_same] at htakes
    by_contra hloses
    obtain ⟨json, hnull, hlegal, hrefused⟩ :=
      exists_legal_refused hr hlib (hfits e he) (Bool.eq_true_of_not_eq_false hloses)
    rcases Field.takes_iff.mp (htakes e he json hlegal) with ⟨hjson, -⟩ | htakes
    · exact hnull hjson
    · exact hrefused htakes
  · intro hkeeps c hreach
    obtain ⟨htype, es, hes, hfits, hfields⟩ := hr c ((hknown c).mpr hreach)
    refine ⟨es, hes, ?_⟩
    have hkeep := hkeeps _ htype
    rw [Ty.fields, hfields] at hkeep ⊢
    rw [List.forall₂_map_right_iff, List.forall₂_same]
    intro e he json hlegal
    have hkeepType := hkeep _ (List.mem_map_of_mem he)
    exact Field.takes_of_type (takes_of_legal hr hlib hkeeps hlegal (hfits e he) hkeepType)

/-- The decoders of a module take all legal values exactly if no field has a type that loses
null. -/
theorem decoders_accept_legal_iff (h : p.resolution style a = .ok r) (m : Imports)
    (banner : List String) :
    ∃ root node parts, a = .cls (.declared root) ∧ r.HasParts m banner parts ∧
      (∀ c, p.Reaches root c → ∃ record declared, r.schema[node c]? = some record ∧
        p.RecordFor style node c record ∧ .record (node c) ∈ r.types ∧
        r.Declares m parts (.record (node c)) declared ∧
        declared.decoder.steps = record.fields.map (Field.step r.schema m)) ∧
      ∀ {α : Type} (lib : Elm.Library α), lib.Standard m r →
        (p.AcceptsLegal root node r m lib ↔
          ∀ t ∈ r.types, ∀ f ∈ t.fields r.schema, f.type.losesNull r.schema = false) := by
  have hwhole := resolution_isWhole h
  obtain ⟨root, known, rfl, hroot, hwalk, rfl⟩ := resolution_eq_ok.mp h
  have hcovers := covers_resolutionOf style hroot hwalk
  have hknown : ∀ c, c ∈ known ↔ p.Reaches root c := fun c => mem_discovery hroot hwalk
  refine ⟨root, known.idxOf, _, rfl, hwhole.hasParts m banner, fun c hreach => ?_,
    fun lib hlib => hcovers.acceptsLegal_iff hlib hknown fun t ht => ?_⟩
  · have hc := (hknown c).mpr hreach
    have htype := (hcovers c hc).1
    obtain ⟨decoderName, encoderName, -, hdeclares⟩ :=
      hwhole.declares (fun _ => List.mem_append_right _) htype
    have hrecord : (p.resolutionOf style known).schema[known.idxOf c]? =
        some (p.recordOf style known c) := by
      change (known.map _)[known.idxOf c]? = _
      rw [List.getElem?_map, List.getElem?_idxOf hc]
      rfl
    refine ⟨_, _, hrecord, recordOf_recordFor (convertible_of_mem_discovery hroot hwalk hc), htype,
      hdeclares, ?_⟩
    change (Schema.fieldsOf _ _).map _ = _
    rw [Schema.fieldsOf, hrecord]
    rfl
  · obtain ⟨place, c, hc, rfl⟩ := (mem_types_resolutionOf hroot hwalk).mp ht
    have hplace := (discovery_explored hroot hwalk).nodup List.nodup_nil
    refine ⟨c, List.mem_of_getElem? hc, ?_⟩
    obtain ⟨hlt, rfl⟩ := List.getElem?_eq_some_iff.mp hc
    rw [hplace.idxOf_getElem place hlt]

/-- Readings of an instrument, some of which failed. -/
def readings : Program :=
  .ofModule "lab" [.record "Readings" [("values", .listOf (.orNone (.ofBuiltin .int)))]]

/-- The values that the decoder of readings takes. -/
def valuesTaken : Option Json → Bool
  | some (.array items) => items.all Json.isInteger
  | _ => false

/-- What the decoders of the module of readings take. -/
def readingsTaken : String → Json → Bool
  | "D.bool", json => Scalar.bool.isWire json
  | "D.int", json => Scalar.int.isWire json
  | "D.float", json => Scalar.float.isWire json
  | "D.string", json => Scalar.string.isWire json
  | "readingsDecoder", json => valuesTaken (json.member? "values")
  | _, _ => false

/-- The decoders of the module of readings. -/
def readingsLibrary : Elm.Library Unit where
  hasType _ _ := True
  decode name json := if readingsTaken name json then some () else none
  encode _ _ := .null

theorem isSome_readingsLibrary (name : String) (json : Json) :
    (readingsLibrary.decode name json).isSome = readingsTaken name json := by
  cases h : readingsTaken name json <;> simp [readingsLibrary, h]

theorem values_takes (s : Schema) (value : Json) :
    Field.Takes readingsLibrary s {}
        ⟨"values", "values", .list (.nullable (.primitive .int)), false⟩ value ↔
      valuesTaken (some value) = true := by
  cases value with
  | array items =>
    have hitem : ∀ json, (Ty.primitive .int).Takes readingsLibrary s {} json ↔
        json.isInteger = true := by
      intro json
      change ((readingsLibrary.decode "D.int" json).map Value.leaf).isSome = true ↔ _
      rw [Option.isSome_map, isSome_readingsLibrary]
      rfl
    rw [valuesTaken, List.all_eq_true]
    exact Ty.takes_array.trans (forall₂_congr fun json _ => hitem json)
  | _ => exact Iff.rfl

theorem readings_fields : (Ty.record 0).fields (readings.resolutionOf {} [0]).schema =
    [⟨"values", "values", .list (.nullable (.primitive .int)), false⟩] := by
  decide +kernel

theorem readingsLibrary_standard :
    readingsLibrary.Standard {} (readings.resolutionOf {} [0]) where
  primitives k json := by
    rw [isSome_readingsLibrary]
    cases k <;> rfl
  records t ht name json := by
    have hroot : t = .record 0 := List.mem_singleton.mp ht
    have hname : (Ty.record 0).decoderName (readings.resolutionOf {} [0]).schema
        ({} : Elm.Imports).decode = "readingsDecoder" := by
      decide +kernel
    rw [isSome_readingsLibrary, Bool.eq_iff_iff, Ty.isSome_recordDecoder_run, hroot, hname,
      readings_fields, List.forall_mem_singleton, Field.isSome_step_run]
    change valuesTaken (json.member? "values") = true ↔ _
    cases hvalues : json.member? "values" with
    | none => simp [valuesTaken, Field.isMaybe, Ty.isNullable]
    | some value => simp [values_takes]

/-- The module of readings refuses an array with a null for the values. -/
theorem readings_refuse_null :
    ∃ r : Resolution, readings.resolution {} (.cls (.declared 0)) = .ok r ∧
      readingsLibrary.Standard {} r ∧
      Legal readings (.applied (.builtin .list) [.pipe [.cls (.builtin .int), .noneType]])
        (.array [.null]) ∧
      (∀ f ∈ (Ty.record 0).fields r.schema,
        ¬ f.Takes readingsLibrary r.schema {} (.array [.null])) ∧
      ∃ root node, Annot.cls (.declared 0) = .cls (.declared root) ∧
        ¬ readings.AcceptsLegal root node r {} readingsLibrary := by
  have hreadings : readings.resolution {} (.cls (.declared 0)) =
      .ok (readings.resolutionOf {} [0]) :=
    resolution_eq_ok.mpr ⟨0, [0], rfl, by decide +kernel, by decide +kernel, rfl⟩
  obtain ⟨root, node, parts, hroot, -, -, hiff⟩ := decoders_accept_legal_iff hreadings {} []
  refine ⟨_, hreadings, readingsLibrary_standard, ?_, ?_, root, node, hroot, ?_⟩
  · refine .sequence .list fun json hjson => ?_
    rw [List.mem_singleton.mp hjson]
    exact .null (.pipe rfl (by simp))
  · intro f hf
    rw [readings_fields] at hf
    cases List.mem_singleton.mp hf
    exact Bool.false_ne_true
  · rw [hiff _ readingsLibrary_standard]
    decide +kernel

end Source.Program

end ElmCodec
