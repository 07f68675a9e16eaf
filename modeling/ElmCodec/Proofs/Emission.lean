import ElmCodec.Proofs.Resolution
import ElmCodec.Proofs.Word

/-!
# The declarations of a module

The module of a resolution has a type alias, a decoder and an encoder for each record, and
one helper.

The types of a resolution are records with fields, and the types of the fields are built
from primitive types and from types of the resolution (`resolution_isWhole`).  So each
declaration has a text, and the texts are the parts of the module (`sections_eq`).  They
read as the syntax trees of `Written` (`Resolution.IsWhole.declares`).

A text is read by its tokens.  A word of it may be any name that a type or a field has.
If these names are words there is one way to read it.
-/

namespace ElmCodec

namespace Elm

/-! ## Types by what stands innermost -/

namespace Ty

theorem isComplete_of_leaf {t : Ty} (h : t.leaf.IsComplete) : t.IsComplete := by
  induction t with
  | list t ih => exact ih h
  | nullable t ih => exact ih h
  | _ => exact h

theorem leaf_form (leafName : Ty → String) (t : Ty) : (t.form leafName).leaf = leafName t.leaf := by
  induction t with
  | list t ih => exact ih
  | nullable t ih => exact ih
  | _ => rfl

end Ty

namespace Field

variable (s : Schema) (m : Imports) (f : Field)

theorem leaf_entry : (f.entry s).2.leaf = f.type.leaf.name s := by
  have h := Ty.leaf_form (Ty.name s) f.type
  rw [entry]
  cases f.isMaybe <;> exact h

theorem leaf_step : (f.step s m).value.leaf = f.type.leaf.decoderName s m.decode := by
  have h := Ty.leaf_form (Ty.decoderName s m.decode) f.type
  rw [step]
  cases f.isMaybe <;> exact h

theorem leaf_pair : (f.pair s m).value.leaf = f.type.leaf.encoderName s m.encode :=
  Ty.leaf_form _ _

end Field

/-- A record of a module: it has fields, with types that are built from primitive types and
from types of the module. -/
structure Resolution.HasRecord (r : Resolution) (t : Ty) : Prop where
  isRecord : ∃ id, t = .record id
  fields_ne_nil : t.fields r.schema ≠ []
  leaf : ∀ f ∈ t.fields r.schema,
    (∃ k : Source.Scalar, f.type.leaf = .primitive k.primitive) ∨ f.type.leaf ∈ r.types

/-- All types of a module are records of it. -/
def Resolution.IsWhole (r : Resolution) : Prop := ∀ t ∈ r.types, r.HasRecord t

end Elm

/-! ## The fields of a resolution -/

namespace Source

open Elm

namespace Shape

theorem leaf_elmType_of_class? (node : ClassId → RecordId) {s : Shape} {d : ClassId}
    (h : s.class? = some d) : (s.elmType node).leaf = .record (node d) := by
  induction s with
  | record id => cases h; rfl
  | optional a s ih => exact ih h
  | sequence a s ih => exact ih h
  | _ => cases h

theorem leaf_elmType_of_no_class (node : ClassId → RecordId) {s : Shape} (h : s.IsSupported)
    (hclass : s.class? = none) : ∃ k : Scalar, (s.elmType node).leaf = .primitive k.primitive := by
  induction s with
  | scalar k => exact ⟨k, rfl⟩
  | optional a s ih => exact ih h hclass
  | sequence a s ih => exact ih h hclass
  | record id => cases hclass
  | unsupported reason a => exact h.elim

end Shape

namespace Program

variable {p : Program} {style : Style} {a : Annot} {r : Resolution} {root c : ClassId}
  {known : List ClassId}

theorem mem_types_resolutionOf (hroot : p.isRecordClass root = true)
    (hwalk : p.discovery root = .ok known) {t : Ty} :
    t ∈ (p.resolutionOf style known).types ↔
      ∃ place c, known[place]? = some c ∧ t = .record place := by
  obtain ⟨others, hknown⟩ := discovery_eq_cons hroot hwalk
  rw [types_resolutionOf (by simp [hknown])]
  constructor
  · intro ht
    obtain ⟨place, hplace, rfl⟩ := List.mem_map.mp ht
    exact ⟨place, _, List.getElem?_eq_getElem (List.mem_range.mp hplace), rfl⟩
  · rintro ⟨place, c, hc, rfl⟩
    exact List.mem_map_of_mem (List.mem_range.mpr (List.getElem?_eq_some_iff.mp hc).1)

/-- The fields of a record are those that its class exports. -/
theorem fields_resolutionOf (style : Style) (hroot : p.isRecordClass root = true)
    (hwalk : p.discovery root = .ok known) {place : RecordId} (hc : known[place]? = some c) :
    ∃ es, p.exportedFields c = .ok es ∧ es ≠ [] ∧ (∀ e ∈ es, (p.shape e.hint).IsSupported) ∧
      (Ty.record place).fields (p.resolutionOf style known).schema =
        es.map (p.fieldOf style known) := by
  obtain ⟨es, hes, hne, hsupported⟩ :=
    convertible_iff.mp (convertible_of_mem_discovery hroot hwalk (List.mem_of_getElem? hc))
  refine ⟨es, hes, hne, hsupported, ?_⟩
  change Schema.fieldsOf (known.map _) place = _
  rw [Schema.fieldsOf, List.getElem?_map, hc, Option.map_some, recordOf_eq hes]
  rfl

/-- The types of a resolution are records of it. -/
theorem resolution_isWhole (h : p.resolution style a = .ok r) : r.IsWhole := by
  intro t ht
  obtain ⟨root, known, rfl, hroot, hwalk, rfl⟩ := resolution_eq_ok.mp h
  obtain ⟨place, c, hc, rfl⟩ := (mem_types_resolutionOf hroot hwalk).mp ht
  obtain ⟨es, hes, hne, hsupported, hfields⟩ := fields_resolutionOf style hroot hwalk hc
  refine ⟨⟨place, rfl⟩, by simpa [hfields] using hne, fun f hf => ?_⟩
  rw [hfields] at hf
  obtain ⟨e, he, rfl⟩ := List.mem_map.mp hf
  cases hclass : (p.shape e.hint).class? with
  | none => exact Or.inl (Shape.leaf_elmType_of_no_class known.idxOf (hsupported e he) hclass)
  | some d =>
    -- The class that the hint mentions is reached, so it has a record.
    have hreach : p.Reaches root d :=
      ((mem_discovery hroot hwalk).mp (List.mem_of_getElem? hc)).tail
        ((refersTo_iff hes).mpr ⟨e, he, hclass⟩)
    have hd := List.getElem?_idxOf ((mem_discovery hroot hwalk).mpr hreach)
    exact Or.inr ((mem_types_resolutionOf hroot hwalk).mpr
      ⟨_, d, hd, Shape.leaf_elmType_of_class? known.idxOf hclass⟩)

end Program

end Source

namespace Elm

/-! ## The declarations of a module -/

/-- The declarations for a record type. -/
structure Declared where
  /-- The type alias. -/
  type : Alias
  /-- The decoder. -/
  decoder : Decoder
  /-- The encoder. -/
  encoder : Encoder

/-- The declarations for a record type, with names for its codecs. -/
def Ty.declaredAs (s : Schema) (m : Imports) (decoderName encoderName : String) (t : Ty) :
    Declared :=
  ⟨t.recordAlias s, t.recordDecoder s m decoderName, t.recordEncoder s m encoderName⟩

/-- The declarations for a nested type. -/
def Ty.declaredNested (s : Schema) (m : Imports) (t : Ty) : Declared :=
  t.declaredAs s m (t.decoderName s m.decode) (t.encoderName s m.encode)

namespace Resolution

/-- The declarations for the types of a module. -/
def declared (m : Imports) (r : Resolution) : List Declared :=
  r.root.declaredAs r.schema m "decoder" "encode" :: r.nested.map (Ty.declaredNested r.schema m)

/-- The texts of the declarations, in the order of a module. -/
def declaredTexts (m : Imports) (r : Resolution) : List String :=
  (r.declared m).map (·.type.text) ++
    (r.declared m).flatMap (fun d => [d.decoder.text m, d.encoder.text m]) ++ [maybeHelper m]

variable {r : Resolution} {m : Imports} {t : Ty}

/-- The leaf of a type is a scalar or a record of the resolution. -/
def Supplies (r : Resolution) (t : Ty) : Prop :=
  (∃ k : Source.Scalar, t.leaf = .primitive k.primitive) ∨ t.leaf ∈ r.types

theorem Supplies.isComplete (h : r.Supplies t) (hr : r.IsWhole) : t.IsComplete := by
  refine Ty.isComplete_of_leaf ?_
  obtain ⟨k, hk⟩ | hleaf := h
  · rw [hk]; trivial
  · obtain ⟨id, hid⟩ := (hr _ hleaf).isRecord
    rw [hid]; trivial

theorem HasRecord.isComplete (h : r.HasRecord t) (hr : r.IsWhole) :
    ∀ f ∈ t.fields r.schema, f.type.IsComplete :=
  fun f hf => Supplies.isComplete (h.leaf f hf) hr

theorem nestedCodecs_eq {s : Schema} (ht : ∃ id, t = .record id)
    (h : ∀ f ∈ t.fields s, f.type.IsComplete) :
    nestedCodecs s m t = .ok [(t.declaredNested s m).decoder.text m,
      (t.declaredNested s m).encoder.text m] := by
  obtain ⟨id, rfl⟩ := ht
  simp only [nestedCodecs, Ty.decoder, Ty.encoder, pure_bind, Ty.decoderText_eq h,
    Ty.encoderText_eq h]
  rfl

theorem mem_declaredTexts {d : Declared} (h : d ∈ r.declared m) :
    d.type.text ∈ r.declaredTexts m ∧ d.decoder.text m ∈ r.declaredTexts m ∧
      d.encoder.text m ∈ r.declaredTexts m := by
  simp only [declaredTexts, List.mem_append, List.mem_map, List.mem_flatMap]
  exact ⟨.inl (.inl ⟨d, h, rfl⟩), .inl (.inr ⟨d, h, List.mem_cons_self⟩),
    .inl (.inr ⟨d, h, List.mem_cons_of_mem _ List.mem_cons_self⟩)⟩

/-- The parts of a module: the header, the banner and the declarations. -/
theorem sections_eq (hrecords : ∀ t ∈ r.types, ∃ id, t = .record id)
    (hcomplete : ∀ t ∈ r.types, ∀ f ∈ t.fields r.schema, f.type.IsComplete)
    (banner : List String) :
    sections m r banner = .ok ([header m (r.root.name r.schema), Text.joinWith "\n" banner] ++
      r.declaredTexts m) := by
  have hroot := hcomplete r.root List.mem_cons_self
  have hnested : ∀ t ∈ r.nested, nestedCodecs r.schema m t = .ok _ := fun t ht =>
    nestedCodecs_eq (hrecords t (List.mem_cons_of_mem _ ht))
      (hcomplete t (List.mem_cons_of_mem _ ht))
  rw [sections, mapM_eq_map fun t ht => Ty.typeAlias_eq (hcomplete t ht),
    Ty.decoderText_eq hroot, Ty.encoderText_eq hroot, mapM_eq_map hnested]
  refine congrArg Except.ok ?_
  simp [declaredTexts, declared, types, Ty.declaredNested, Ty.declaredAs, List.flatMap,
    Function.comp_def]

theorem IsWhole.sections_eq (h : r.IsWhole) (banner : List String) :
    sections m r banner = .ok ([header m (r.root.name r.schema), Text.joinWith "\n" banner] ++
      r.declaredTexts m) :=
  Resolution.sections_eq (fun t ht => (h t ht).isRecord) (fun t ht => (h t ht).isComplete h) banner

end Resolution

/-! ## Reading the declarations -/

/-- A text is read as a syntax tree.  It has no other tokens if the names in it are words. -/
def Reads {β : Type} (words : Prop) (read : List Token → Option β) (text : String) (b : β) : Prop :=
  ∃ ts, Spells ts text.toList ∧ read ts = some b ∧ (words → lex text.toList = some ts)

theorem Reads.of_tokens {β : Type} {words : Prop} {read : List Token → Option β} {text : String}
    {b : β} {ts : List Token} (hspells : Spells ts text.toList) (hread : read ts = some b)
    (hproper : words → AllProper ts) : Reads words read text b :=
  ⟨ts, hspells, hread, fun hwords => lex_eq hspells (hproper hwords)⟩

namespace Resolution

/-- The names that a module is written with are words. -/
structure HasWords (m : Imports) (r : Resolution) : Prop where
  imports : m.AreWords
  types : ∀ t ∈ r.types, IsWord (t.name r.schema)
  fields : ∀ t ∈ r.types, ∀ f ∈ t.fields r.schema, IsWord f.name

/-- The parts of a module.  Its text has those that are not empty, with two blank lines
between them. -/
structure HasParts (m : Imports) (r : Resolution) (banner parts : List String) : Prop where
  sections : sections m r banner = .ok parts
  text : emit m r banner =
    .ok (Text.joinWith "\n\n\n" (parts.filter fun part => part != "") ++ "\n")

/-- The parts of a module have the texts of the declarations for a type. -/
structure Declares (m : Imports) (r : Resolution) (parts : List String) (t : Ty) (d : Declared) :
    Prop where
  type : ∃ text ∈ parts, typeAlias r.schema t = .ok text ∧
    Reads (r.HasWords m) readAlias text d.type
  decoder : ∃ text ∈ parts, decoderText r.schema m t d.decoder.name = .ok text ∧
    Reads (r.HasWords m) (readDecoder m) text d.decoder
  encoder : ∃ text ∈ parts, encoderText r.schema m t d.encoder.name = .ok text ∧
    Reads (r.HasWords m) (readEncoder m) text d.encoder

variable {r : Resolution} {m : Imports} {t : Ty}

theorem HasWords.record (h : r.HasWords m) (hr : r.IsWhole) (ht : t ∈ r.types) :
    IsWord (t.decoderName r.schema m.decode) ∧ IsWord (t.encoderName r.schema m.encode) := by
  have hname := h.types t ht
  obtain ⟨id, rfl⟩ := (hr t ht).isRecord
  exact ⟨isWord_decoderName hname, .prepend rfl hname⟩

theorem HasWords.leaf (h : r.HasWords m) (hr : r.IsWhole)
    (ht : (∃ k : Source.Scalar, t = .primitive k.primitive) ∨ t ∈ r.types) :
    IsWord (t.name r.schema) ∧ IsWord (t.decoderName r.schema m.decode) ∧
      IsWord (t.encoderName r.schema m.encode) := by
  obtain ⟨k, rfl⟩ | ht := ht
  · have hcodec : k.primitive.codec.toList.all isNameChar = true := by cases k <;> rfl
    have hname : isRun isNameChar k.primitive.name = true := by cases k <;> rfl
    exact ⟨hname, (h.imports.decode.append rfl).append hcodec,
      (h.imports.encode.append rfl).append hcodec⟩
  · exact ⟨h.types t ht, h.record hr ht⟩

theorem IsWhole.reads_alias (h : r.IsWhole) (ht : t ∈ r.types) :
    Reads (r.HasWords m) readAlias (t.recordAlias r.schema).text (t.recordAlias r.schema) := by
  have hne : (t.recordAlias r.schema).fields ≠ [] := by
    simpa [Ty.recordAlias] using (h t ht).fields_ne_nil
  refine .of_tokens (Alias.spells_text _ hne) (readAlias_tokens _ hne) fun hw => ?_
  refine Alias.tokens_proper (hw.types t ht) fun entry hentry => ?_
  obtain ⟨f, hf, rfl⟩ := List.mem_map.mp hentry
  rw [Field.leaf_entry]
  exact ⟨hw.fields t ht f hf, (hw.leaf h ((h t ht).leaf f hf)).1⟩

theorem IsWhole.reads_decoder (h : r.IsWhole) (ht : t ∈ r.types) {name : String}
    (hname : r.HasWords m → IsWord name) :
    Reads (r.HasWords m) (readDecoder m) ((t.recordDecoder r.schema m name).text m)
      (t.recordDecoder r.schema m name) := by
  have hne : (t.recordDecoder r.schema m name).steps ≠ [] := by
    simpa [Ty.recordDecoder] using (h t ht).fields_ne_nil
  refine .of_tokens (Decoder.spells_text m _) (readDecoder_tokens m _ hne) fun hw => ?_
  refine Decoder.tokens_proper hw.imports (hname hw) (hw.types t ht) (hw.types t ht) ?_
  intro step hstep
  obtain ⟨f, hf, rfl⟩ := List.mem_map.mp hstep
  rw [Field.leaf_step]
  exact (hw.leaf h ((h t ht).leaf f hf)).2.1

theorem IsWhole.reads_encoder (h : r.IsWhole) (ht : t ∈ r.types) {name : String}
    (hname : r.HasWords m → IsWord name) :
    Reads (r.HasWords m) (readEncoder m) ((t.recordEncoder r.schema m name).text m)
      (t.recordEncoder r.schema m name) := by
  have hne : (t.recordEncoder r.schema m name).pairs ≠ [] := by
    simpa [Ty.recordEncoder] using (h t ht).fields_ne_nil
  refine .of_tokens (Encoder.spells_text m _ hne rfl) (readEncoder_tokens m _ hne) fun hw => ?_
  have hargument : IsWord "r" := rfl
  refine Encoder.tokens_proper hw.imports (hname hw) (hw.types t ht) hargument ?_
  intro pair hpair
  obtain ⟨f, hf, rfl⟩ := List.mem_map.mp hpair
  refine ⟨fun w hhelper => ?_, ?_, hw.fields t ht f hf⟩
  · have hmaybe : w = "maybe" := by
      simp only [Field.pair, Option.mem_def, Option.ite_none_right_eq_some] at hhelper
      exact (Option.some.inj hhelper.2).symm
    rw [hmaybe]
    rfl
  · rw [Field.leaf_pair]
    exact (hw.leaf h ((h t ht).leaf f hf)).2.2

/-- The helper of a module reads as it should. -/
theorem reads_helper (m : Imports) :
    Reads m.AreWords (readHelper m) (maybeHelper m) (maybe m) :=
  .of_tokens (spells_maybeHelper m) (readHelper_tokens m _) Helper.tokens_proper

theorem IsWhole.hasParts (h : r.IsWhole) (m : Imports) (banner : List String) :
    r.HasParts m banner ([header m (r.root.name r.schema), Text.joinWith "\n" banner] ++
      r.declaredTexts m) where
  sections := h.sections_eq banner
  text := by rw [emit, h.sections_eq banner]; rfl

/-- Each type of a module is declared in it. -/
theorem IsWhole.declares (h : r.IsWhole) {parts : List String}
    (hparts : ∀ text ∈ r.declaredTexts m, text ∈ parts) (ht : t ∈ r.types) :
    ∃ decoderName encoderName,
      t.declaredAs r.schema m decoderName encoderName ∈ r.declared m ∧
      r.Declares m parts t (t.declaredAs r.schema m decoderName encoderName) := by
  have hcomplete := (h t ht).isComplete h
  have hmem : ∃ decoderName encoderName,
      t.declaredAs r.schema m decoderName encoderName ∈ r.declared m ∧
      (r.HasWords m → IsWord decoderName ∧ IsWord encoderName) := by
    cases List.mem_cons.mp ht with
    | inl hroot =>
      subst hroot
      exact ⟨_, _, List.mem_cons_self, fun _ => ⟨rfl, rfl⟩⟩
    | inr hnested =>
      exact ⟨_, _, List.mem_cons_of_mem _ (List.mem_map_of_mem hnested), fun hw => hw.record h ht⟩
  obtain ⟨decoderName, encoderName, hmem, hwords⟩ := hmem
  obtain ⟨htype, hdecoder, hencoder⟩ := mem_declaredTexts hmem
  exact ⟨decoderName, encoderName, hmem,
    ⟨_, hparts _ htype, Ty.typeAlias_eq hcomplete, h.reads_alias ht⟩,
    ⟨_, hparts _ hdecoder, Ty.decoderText_eq hcomplete _,
      h.reads_decoder ht fun hw => (hwords hw).1⟩,
    ⟨_, hparts _ hencoder, Ty.encoderText_eq hcomplete _,
      h.reads_encoder ht fun hw => (hwords hw).2⟩⟩

end Resolution

end Elm

end ElmCodec
