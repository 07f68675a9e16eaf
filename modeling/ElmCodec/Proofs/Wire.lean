import ElmCodec.Proofs.ClassGraph
import ElmCodec.Proofs.Registry
import ElmCodec.Proofs.Steps
import ElmCodec.Proofs.Tag

/-!
# Keys of built fields

The fields that are built for a class belong to its exported declarations, one by one
(`buildFields_made`).  Each has the key that its declaration says, and may be omitted if the
declaration says so.

A text of at most two characters is not read as a tag.  Reading it would change nothing, since a
tag has more characters (`Wire.of_text`).
-/

namespace ElmCodec

open Source (Program ClassId FieldDecl)
open Tag (parse write omitEmpty parse_write listsOption_joinWith parse_of_not_enclosed)

/-! ## Keys by tags -/

/-- A text is read as a tag, whatever its length. -/
theorem Wire.of_text (name text : String) :
    Wire.of name (some (.text text)) =
      ⟨if (parse text).name = "" then name else (parse text).name,
        (parse text).hasOption omitEmpty⟩ := by
  by_cases hlength : 2 < text.length
  · simp [Wire.of, hlength]
  · have hplain : parse text = ⟨"", ""⟩ := by
      refine parse_of_not_enclosed fun value htext => hlength ?_
      have hopening : "json:\"".length = 6 := rfl
      rw [htext, String.length_append, String.length_append]
      omega
    simp [Wire.of, hlength, hplain, Tag.hasOption, Tag.listsOption]

theorem Wire.of_write (name : String) {key : String} {options : List String}
    (hkey : ',' ∉ key.toList) (hoptions : ∀ o ∈ options, ',' ∉ o.toList) :
    Wire.of name (some (.text (write key options))) =
      ⟨if key = "" then name else key, decide (omitEmpty ∈ options)⟩ := by
  have hlists : Tag.listsOption (Text.joinWith "," options) omitEmpty =
      decide (omitEmpty ∈ options) := by
    rw [Bool.eq_iff_iff, decide_eq_true_iff]
    exact listsOption_joinWith (by simp [omitEmpty]) hoptions
  rw [Wire.of_text, parse_write hkey, Tag.hasOption, hlists]

/-- Metadata that is no tag changes nothing. -/
theorem Wire.of_plain (name : String) {tag : Option TagValue}
    (h : ∀ value, tag ≠ some (.text ("json:\"" ++ value ++ "\""))) :
    Wire.of name tag = ⟨name, false⟩ := by
  match tag, h with
  | none, _ => rfl
  | some .other, _ => rfl
  | some (.text text), h =>
    have hplain : parse text = ⟨"", ""⟩ := by
      refine parse_of_not_enclosed fun value htext => h value ?_
      rw [htext]
    simp [Wire.of_text, hplain, Tag.hasOption, Tag.listsOption]

/-! ## Built fields -/

/-- A field that was built for a declared name with metadata: its own name comes from the
declared one, and its key from both. -/
structure Elm.Field.MadeFor (style : Style) (name : String) (wire : Wire) (field : Elm.Field) :
    Prop where
  name : field.name = style.naming.valueName name
  key : field.key = wire.key
  omittable : field.omittable = wire.omittable

namespace Source.Program

variable {p : Program} {style : Style} {record : ClassId → ResolveM Elm.Ty} {owner : String}
  {s s' : Session}

theorem convertField_made {e : ExportedField} {field : Elm.Field}
    (h : (p.convertField style record owner e).run s = (.ok field, s')) :
    field.MadeFor style e.name e.wire := by
  rw [convertField, run_bind] at h
  split at h
  next type s₁ _ =>
    rw [ResolveM.run_registry_bind] at h
    cases htext : type.declared s₁.registry.records with
    | error why => simp only [htext] at h; cases h
    | ok text =>
      simp only [htext] at h
      cases h
      exact ⟨rfl, rfl, rfl⟩
  next => cases h

theorem convertFields_made {es : List ExportedField} {fields : List Elm.Field}
    (h : (p.convertFields style record owner es).run s = (.ok fields, s')) :
    List.Forall₂ (fun e field => field.MadeFor style e.name e.wire) es fields := by
  induction es generalizing s fields with
  | nil => cases h; exact .nil
  | cons e es ih =>
    rw [convertFields, run_bind] at h
    split at h
    next field s₁ hfield =>
      rw [run_bind] at h
      split at h
      next rest s₂ hrest =>
        cases h
        exact .cons (convertField_made hfield) (ih hrest)
      next => cases h
    next => cases h

/-- The fields that are built for a class are made for its exported declarations, in order. -/
theorem buildFields_made {id : ClassId} {fields : List Elm.Field}
    (h : (p.buildFields style record id).run s = (.ok fields, s')) :
    ∃ decls, p.fields? id = some decls ∧
      List.Forall₂ (fun f field => field.MadeFor style f.name (Wire.of f.name f.tag))
        (decls.filter fun f => isExported f.name) fields := by
  rw [buildFields] at h
  cases hes : p.exportedFields id with
  | error e => rw [hes] at h; cases h
  | ok es =>
    obtain ⟨hints, decls, -, hdecls, hexports⟩ := exportedFields_eq_ok.mp hes
    rw [hes] at h
    change ExceptT.run (p.convertFields style record _ es >>= _) s = _ at h
    rw [run_bind] at h
    split at h
    next fields' s₁ hfields =>
      obtain rfl : fields' = fields := by
        split at h
        · cases h
        · cases h; rfl
      refine ⟨decls, hdecls, forall₂_trans ?_ hexports (convertFields_made hfields)⟩
      intro f e field hexport hfield
      rwa [hexport.name, hexport.wire] at hfield
    next => cases h

end Source.Program

/-! ## What a field takes from a tag -/

/-- A field has the key of a declared name with metadata, and may be omitted if this says so. -/
structure Elm.Field.Carries (name : String) (tag : Option TagValue) (field : Elm.Field) :
    Prop where
  /-- A tag that was written gives its name if it is not empty, and its options. -/
  written : ∀ key options, ',' ∉ key.toList → (∀ o ∈ options, ',' ∉ o.toList) →
    tag = some (.text (write key options)) →
      field.key = (if key = "" then name else key) ∧ (field.omittable = true ↔ omitEmpty ∈ options)
  /-- Metadata that is no tag changes nothing. -/
  plain : (∀ value, tag ≠ some (.text ("json:\"" ++ value ++ "\""))) →
    field.key = name ∧ field.omittable = false
  /-- A text is read as a tag, whatever its length. -/
  read : ∀ text, tag = some (.text text) →
    field.key = (if (parse text).name = "" then name else (parse text).name) ∧
      field.omittable = (parse text).hasOption omitEmpty

theorem Elm.Field.MadeFor.carries {style : Style} {name : String} {tag : Option TagValue}
    {field : Elm.Field} (h : field.MadeFor style name (Wire.of name tag)) :
    field.Carries name tag where
  written := by
    rintro key options hkey hoptions rfl
    rw [h.key, h.omittable, Wire.of_write name hkey hoptions]
    exact ⟨rfl, decide_eq_true_iff⟩
  plain := by
    intro htag
    rw [h.key, h.omittable, Wire.of_plain name htag]
    exact ⟨rfl, rfl⟩
  read := by
    rintro text rfl
    rw [h.key, h.omittable, Wire.of_text]
    exact ⟨rfl, rfl⟩

namespace Source.Program

/-- In every session, the fields that are built for a class carry the tags of its exported
declarations, one by one. -/
theorem built_fields_carry_tags {p : Program} {style : Style} {id : ClassId} {s s' : Session}
    {fields : List Elm.Field}
    (h : (p.buildFields style (p.convertRecord style) id).run s = (.ok fields, s')) :
    ∃ decls, p.fields? id = some decls ∧
      List.Forall₂ (fun f field => field.Carries f.name f.tag)
        (decls.filter fun f => isExported f.name) fields := by
  obtain ⟨decls, hdecls, hmade⟩ := buildFields_made h
  exact ⟨decls, hdecls, hmade.imp fun f field hfield => hfield.carries⟩

/-- Declarations of a parcel: a tag, a tag without a name, an opening without an end, a tag of a
private field, metadata that is no text, and a tag with a quote for its name. -/
def parcelFields : List FieldDecl :=
  [⟨"parcel_id", .cls (.builtin .int), some (.text (write "id" ["string", "omitempty"])), .field⟩,
    ⟨"note", .cls (.builtin .str), some (.text (write "" ["", "omitempty "])), .field⟩,
    ⟨"weight", .cls (.builtin .int), some (.text "json:\""), .field⟩,
    ⟨"_secret", .cls (.builtin .str), some (.text (write "secret" [])), .field⟩,
    ⟨"label", .cls (.builtin .str), some .other, .field⟩,
    ⟨"size", .cls (.builtin .str), some (.text (write "\"" [])), .field⟩]

/-- A parcel with these declarations. -/
def parcel : Program where
  classes := [
    { name := "Parcel", module := "post", kind := .record
      lineage := [.declared 0, .builtin .object]
      annotations := parcelFields
      collected := parcelFields }]
  modules := [{ name := "post", bindings := [] }]
  loaded := [("post", 0)]

theorem parcel_carries_tags :
    ∃ fields s', (parcel.buildFields {} (parcel.convertRecord {}) 0).run {} = (.ok fields, s') ∧
      fields.map (fun f => (f.key, f.omittable)) =
        [("id", true), ("note", false), ("weight", false), ("label", false), ("\"", false)] ∧
      List.Forall₂ (fun f field => field.Carries f.name f.tag)
        (parcelFields.filter fun f => isExported f.name) fields := by
  obtain ⟨fields, s', hrun, hkeys⟩ : ∃ fields s',
      (parcel.buildFields {} (parcel.convertRecord {}) 0).run {} = (.ok fields, s') ∧
        fields.map (fun f => (f.key, f.omittable)) =
          [("id", true), ("note", false), ("weight", false), ("label", false), ("\"", false)] :=
    ⟨_, _, rfl, by decide +kernel⟩
  obtain ⟨decls, hdecls, hcarries⟩ := built_fields_carry_tags hrun
  cases hdecls
  exact ⟨fields, s', hrun, hkeys, hcarries⟩

end Source.Program

end ElmCodec
