import ElmCodec.Proofs.Emission

/-!
# Codec names without a declaration

The codecs of a record call the codecs of the records that its fields mention, by names
made from the names of these records.  The nested records have their codecs under these
names.  The root has not: its codecs are called `decoder` and `encode`.

So a module declares all codecs that it calls unless a record mentions the root.  Then the
codecs of the root are called by names that the module declares only if codecs of nested
records happen to have them (`Resolution.IsWhole.isClosed_iff`).
-/

namespace ElmCodec

namespace Elm

/-! ## Names of codecs -/

theorem lowerChar_ne_nil (c : Char) : Text.lowerChar c ≠ [] := by
  have htable : ∀ entry ∈ Text.lowerLong, entry.2 ≠ [] := by decide +kernel
  unfold Text.lowerChar
  split
  next => simp
  next =>
    unfold Text.caseImage
    split
    next codes hcodes =>
      obtain ⟨before, after, hlong, -⟩ := List.lookup_eq_some_iff.mp hcodes
      simpa using htable (c.toNat, codes) (by simp [hlong])
    next => split <;> simp

theorem lowerHead_eq_nil {cs : List Char} (h : Text.lowerHead cs = []) : cs = [] := by
  cases cs with
  | nil => rfl
  | cons c cs => exact absurd (List.append_eq_nil_iff.mp h).1 (lowerChar_ne_nil c)

namespace Resolution

/-- The names of the codecs of the nested types. -/
def nestedNames (m : Imports) (r : Resolution) : List String :=
  r.nested.flatMap fun t => [t.decoderName r.schema m.decode, t.encoderName r.schema m.encode]

/-- The names of the values that a module declares. -/
def declaredNames (m : Imports) (r : Resolution) : List String :=
  (r.declared m).flatMap (fun d => [d.decoder.name, d.encoder.name]) ++ [(maybe m).name]

/-- A codec of a record that the decoder or the encoder of a type calls. -/
def Calls (m : Imports) (r : Resolution) (name : String) : Prop :=
  ∃ t ∈ r.types, ∃ f ∈ t.fields r.schema, (∃ id, f.type.leaf = .record id) ∧
    (name = (f.step r.schema m).value.leaf ∨ name = (f.pair r.schema m).value.leaf)

/-- A module declares the codecs of records that it calls. -/
def IsClosed (m : Imports) (r : Resolution) : Prop :=
  ∀ name, r.Calls m name → name ∈ r.declaredNames m

variable {r : Resolution} {m : Imports} {t : Ty} {name : String}

theorem declaredNames_eq (m : Imports) (r : Resolution) :
    r.declaredNames m = ["decoder", "encode"] ++ (r.nestedNames m ++ ["maybe"]) := by
  have hnested : (r.nested.map (Ty.declaredNested r.schema m)).flatMap
      (fun d => [d.decoder.name, d.encoder.name]) = r.nestedNames m :=
    List.flatMap_map ..
  rw [declaredNames, declared, List.flatMap_cons, hnested, List.append_assoc]
  rfl

theorem mem_declaredNames : name ∈ r.declaredNames m ↔
    name ∈ ["decoder", "encode", "maybe"] ∨ name ∈ r.nestedNames m := by
  rw [declaredNames_eq]
  simp only [List.mem_append, List.mem_cons, List.not_mem_nil, or_false]
  tauto

theorem mem_nestedNames (h : t ∈ r.nested) :
    t.decoderName r.schema m.decode ∈ r.nestedNames m ∧
      t.encoderName r.schema m.encode ∈ r.nestedNames m :=
  ⟨List.mem_flatMap.mpr ⟨t, h, List.mem_cons_self⟩,
    List.mem_flatMap.mpr ⟨t, h, List.mem_cons_of_mem _ List.mem_cons_self⟩⟩

theorem decoderName_record (id : RecordId) : (Ty.record id).decoderName r.schema m.decode =
    String.ofList (Text.lowerHead ((Ty.record id).name r.schema).toList) ++ "Decoder" :=
  rfl

theorem encoderName_record (id : RecordId) : (Ty.record id).encoderName r.schema m.encode =
    "encode" ++ (Ty.record id).name r.schema :=
  rfl

theorem decoderName_not_mem (id : RecordId) :
    (Ty.record id).decoderName r.schema m.decode ∉ ["decoder", "encode", "maybe"] := by
  intro hmem
  have hsuffix : ∀ n ∈ ["decoder", "encode", "maybe"], ¬ "Decoder".toList <:+ n.toList := by decide
  exact hsuffix _ hmem ⟨_, by rw [decoderName_record, String.toList_append]⟩

/-- Only the encoder of a record without a name is called like that of the root. -/
theorem name_eq_of_encoderName_mem {id : RecordId}
    (h : (Ty.record id).encoderName r.schema m.encode ∈ ["decoder", "encode", "maybe"]) :
    (Ty.record id).name r.schema = "" := by
  have hshort : ∀ n ∈ ["decoder", "encode", "maybe"], "encode".toList <+: n.toList →
      n = "encode" := by decide
  have hencode := hshort _ h ⟨_, by rw [encoderName_record, String.toList_append]⟩
  rw [encoderName_record] at hencode
  simpa using congrArg String.toList hencode

/-- A decoder of a record is declared only if a nested codec has its name. -/
theorem mem_nestedNames_of_decoderName {id : RecordId}
    (h : (Ty.record id).decoderName r.schema m.decode ∈ r.declaredNames m) :
    (Ty.record id).decoderName r.schema m.decode ∈ r.nestedNames m :=
  (mem_declaredNames.mp h).resolve_left (decoderName_not_mem id)

/-- An encoder of a record is declared only if a nested codec has its name, or if the record
has no name. -/
theorem mem_nestedNames_of_encoderName {id : RecordId}
    (h : (Ty.record id).encoderName r.schema m.encode ∈ r.declaredNames m) :
    (Ty.record id).encoderName r.schema m.encode ∈ r.nestedNames m ∨
      (Ty.record id).name r.schema = "" :=
  (mem_declaredNames.mp h).symm.imp_right name_eq_of_encoderName_mem

/-- A nested codec with the name of the decoder of a record without a name belongs to a record
without a name. -/
theorem encoderName_mem_of_nameless (hr : r.IsWhole) {id : RecordId}
    (hname : (Ty.record id).name r.schema = "")
    (h : (Ty.record id).decoderName r.schema m.decode ∈ r.nestedNames m) :
    (Ty.record id).encoderName r.schema m.encode ∈ r.nestedNames m := by
  obtain ⟨t, ht, hmem⟩ := List.mem_flatMap.mp h
  obtain ⟨id', rfl⟩ := (hr t (List.mem_cons_of_mem _ ht)).isRecord
  rw [decoderName_record id, hname, decoderName_record id', encoderName_record] at hmem
  have hhead : Text.lowerHead ((Ty.record id').name r.schema).toList = [] := by
    cases List.mem_cons.mp hmem with
    | inl hdecoder => simpa [Text.lowerHead] using (congrArg String.toList hdecoder).symm
    | inr hencoder =>
      simpa [Text.lowerHead] using congrArg String.toList (List.mem_singleton.mp hencoder)
  have hname' : (Ty.record id').name r.schema = "" := String.toList_inj.mp (lowerHead_eq_nil hhead)
  rw [encoderName_record, hname, ← hname', ← encoderName_record]
  exact (mem_nestedNames ht).2

/-- A module declares the codecs that it calls if no record mentions the root, or else if
nested codecs have the names by which those of the root are called. -/
theorem IsWhole.isClosed_iff (h : r.IsWhole) : r.IsClosed m ↔
    (∀ t ∈ r.types, ∀ f ∈ t.fields r.schema, f.type.leaf ≠ r.root) ∨
      (r.root.decoderName r.schema m.decode ∈ r.nestedNames m ∧
        r.root.encoderName r.schema m.encode ∈ r.nestedNames m) := by
  constructor
  · intro hclosed
    by_cases hback : ∃ t ∈ r.types, ∃ f ∈ t.fields r.schema, f.type.leaf = r.root
    · obtain ⟨t, ht, f, hf, hleaf⟩ := hback
      obtain ⟨id, hid⟩ := (h r.root List.mem_cons_self).isRecord
      rw [hid] at hleaf ⊢
      -- The field calls both codecs of the root, so both names are declared.
      have hdecoder := hclosed _ ⟨t, ht, f, hf, ⟨id, hleaf⟩, Or.inl rfl⟩
      have hencoder := hclosed _ ⟨t, ht, f, hf, ⟨id, hleaf⟩, Or.inr rfl⟩
      rw [Field.leaf_step, hleaf] at hdecoder
      rw [Field.leaf_pair, hleaf] at hencoder
      have hnested := mem_nestedNames_of_decoderName hdecoder
      refine Or.inr ⟨hnested, ?_⟩
      cases mem_nestedNames_of_encoderName hencoder with
      | inl hmem => exact hmem
      | inr hname => exact encoderName_mem_of_nameless h hname hnested
    · exact Or.inl fun t ht f hf hleaf => hback ⟨t, ht, f, hf, hleaf⟩
  · rintro hroot name ⟨t, ht, f, hf, ⟨id, hid⟩, hname⟩
    rw [Field.leaf_step, Field.leaf_pair] at hname
    refine mem_declaredNames.mpr (Or.inr ?_)
    -- What is called belongs to a record of the module, the root or a nested one.
    have hboth : f.type.leaf.decoderName r.schema m.decode ∈ r.nestedNames m ∧
        f.type.leaf.encoderName r.schema m.encode ∈ r.nestedNames m := by
      obtain ⟨k, hk⟩ | hleaf := (h t ht).leaf f hf
      · cases hid.symm.trans hk
      · cases List.mem_cons.mp hleaf with
        | inl hleaf =>
          rw [hleaf]
          exact hroot.resolve_left fun hnone => hnone t ht f hf hleaf
        | inr hnested => exact mem_nestedNames hnested
    cases hname with
    | inl hname => exact hname ▸ hboth.1
    | inr hname => exact hname ▸ hboth.2

end Resolution

end Elm

/-! ## Modules of resolutions -/

namespace Source.Program

open Elm

variable {p : Program} {style : Style} {root : ClassId} {known : List ClassId}

/-- A record mentions the root exactly if a class that the root reaches refers to it. -/
theorem mentions_root_iff (style : Style) (hroot : p.isRecordClass root = true)
    (hwalk : p.discovery root = .ok known) :
    (∃ t ∈ (p.resolutionOf style known).types,
        ∃ f ∈ t.fields (p.resolutionOf style known).schema, f.type.leaf = .record 0) ↔
      ∃ c, p.Reaches root c ∧ p.RefersTo c root := by
  obtain ⟨others, hknown⟩ := discovery_eq_cons hroot hwalk
  have hplace : known.idxOf root = 0 := by rw [hknown, List.idxOf_cons_self]
  constructor
  · rintro ⟨t, ht, f, hf, hleaf⟩
    obtain ⟨place, c, hc, rfl⟩ := (mem_types_resolutionOf hroot hwalk).mp ht
    obtain ⟨es, hes, -, hsupported, hfields⟩ := fields_resolutionOf style hroot hwalk hc
    rw [hfields] at hf
    obtain ⟨e, he, rfl⟩ := List.mem_map.mp hf
    have hreach := (mem_discovery hroot hwalk).mp (List.mem_of_getElem? hc)
    cases hclass : (p.shape e.hint).class? with
    | none =>
      obtain ⟨k, hk⟩ := Shape.leaf_elmType_of_no_class known.idxOf (hsupported e he) hclass
      cases hk.symm.trans hleaf
    | some d =>
      have hrefers : p.RefersTo c d := (refersTo_iff hes).mpr ⟨e, he, hclass⟩
      have hd : d ∈ known := (mem_discovery hroot hwalk).mpr (hreach.tail hrefers)
      have hzero : known.idxOf d = 0 :=
        Ty.record.inj ((Shape.leaf_elmType_of_class? known.idxOf hclass).symm.trans hleaf)
      have heq : d = root := (List.idxOf_inj hd).mp (hzero.trans hplace.symm)
      exact ⟨c, hreach, heq ▸ hrefers⟩
  · rintro ⟨c, hreach, hrefers⟩
    have hc := List.getElem?_idxOf ((mem_discovery hroot hwalk).mpr hreach)
    obtain ⟨es, hes, -, -, hfields⟩ := fields_resolutionOf style hroot hwalk hc
    obtain ⟨e, he, hclass⟩ := (refersTo_iff hes).mp hrefers
    refine ⟨_, (mem_types_resolutionOf hroot hwalk).mpr ⟨_, c, hc, rfl⟩, p.fieldOf style known e,
      hfields ▸ List.mem_map_of_mem he, ?_⟩
    exact (Shape.leaf_elmType_of_class? known.idxOf hclass).trans (congrArg Ty.record hplace)

/-- A module declares the codecs that it calls exactly if no class that the root reaches refers
to the root, or else if nested codecs have the names by which those of the root are called. -/
theorem module_isClosed_iff {r : Resolution}
    (h : p.resolution style (.cls (.declared root)) = .ok r) (m : Imports) (banner : List String) :
    ∃ parts, r.HasParts m banner parts ∧
      parts = [header m (r.root.name r.schema), Text.joinWith "\n" banner] ++ r.declaredTexts m ∧
      (∀ t ∈ r.types, ∃ d ∈ r.declared m, r.Declares m parts t d ∧
        d.decoder.steps = (t.fields r.schema).map (Field.step r.schema m) ∧
        d.encoder.pairs = (t.fields r.schema).map (Field.pair r.schema m)) ∧
      (r.IsClosed m ↔ (∀ c, p.Reaches root c → ¬ p.RefersTo c root) ∨
        (r.root.decoderName r.schema m.decode ∈ r.nestedNames m ∧
          r.root.encoderName r.schema m.encode ∈ r.nestedNames m)) := by
  have hwhole := resolution_isWhole h
  refine ⟨_, hwhole.hasParts m banner, rfl, fun t ht => ?_, ?_⟩
  · obtain ⟨decoderName, encoderName, hmem, hdeclares⟩ :=
      hwhole.declares (fun _ => List.mem_append_right _) ht
    exact ⟨_, hmem, hdeclares, rfl, rfl⟩
  · rw [hwhole.isClosed_iff]
    refine or_congr_left ?_
    obtain ⟨root', known, hsame, hroot, hwalk, rfl⟩ := resolution_eq_ok.mp h
    cases hsame
    have hmentions := not_congr (mentions_root_iff style hroot hwalk)
    push Not at hmentions
    exact hmentions

/-- A tree: a label and subtrees. -/
def tree : Program :=
  .ofModule "forest"
    [.record "Tree" [("label", .ofBuiltin .str), ("children", .listOf (.text "Tree"))]]

/-- The module of trees calls a decoder and an encoder of trees that it does not declare. -/
theorem tree_not_isClosed :
    ∃ r : Resolution, tree.resolution ⟨.standard, []⟩ (.cls (.declared 0)) = .ok r ∧
      r.Calls {} "treeDecoder" ∧ "treeDecoder" ∉ r.declaredNames {} ∧ ¬ r.IsClosed {} := by
  have hroot : tree.isRecordClass 0 = true := by decide +kernel
  have hwalk : tree.discovery 0 = .ok [0] := by decide +kernel
  have htree : tree.resolution ⟨.standard, []⟩ (.cls (.declared 0)) =
      .ok (tree.resolutionOf ⟨.standard, []⟩ [0]) :=
    resolution_eq_ok.mpr ⟨0, [0], rfl, hroot, hwalk, rfl⟩
  have hchild : Elm.Field.mk "children" "children" (.list (.record 0)) false ∈
      (Ty.record 0).fields (tree.resolutionOf ⟨.standard, []⟩ [0]).schema := by decide +kernel
  obtain ⟨-, -, -, -, hclosed⟩ := module_isClosed_iff htree {} []
  refine ⟨_, htree, ⟨.record 0, by decide, _, hchild, ⟨0, rfl⟩, Or.inl (by decide +kernel)⟩,
    by decide +kernel, fun h => ?_⟩
  obtain hnone | ⟨hmem, -⟩ := hclosed.mp h
  · obtain ⟨c, hreach, hrefers⟩ := (mentions_root_iff ⟨.standard, []⟩ hroot hwalk).mp
      ⟨.record 0, by decide, _, hchild, rfl⟩
    exact hnone c hreach hrefers
  · exact absurd hmem (by decide +kernel)

end Source.Program

end ElmCodec
