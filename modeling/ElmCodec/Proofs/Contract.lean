import ElmCodec.Proofs.Lines

/-!
# The text of a module determines its contract

The contract of a module is what it says about JSON: the names of its records and, field by
field, the name, the key, whether the value may be missing, and the type.  Two resolutions
that are written in the same way have the same contract (`emit_determines_contract`).  They
may differ in what the text does not show, such as the places of records in the schema.

The text is taken apart from the outside.  Its paragraphs are those of the header and of the
banner, which both resolutions have in the same number, and then the declarations.  There are
three of them for each record and one more, so the number of records is determined, and the
declarations of a record can be told by their places.  The lines of a type alias have the
names and the types, and the lines of a decoder have the keys.  No key ends the literal in
which it stands, since literals are read back (`content_literal`).
-/

namespace ElmCodec.Elm

/-! ## Contracts -/

/-- Two fields say the same about JSON. -/
structure Field.SameContract (s s' : Schema) (f f' : Field) : Prop where
  name : f.name = f'.name
  key : f.key = f'.key
  isMaybe : f.isMaybe = f'.isMaybe
  declared : ∃ text, f.declared s = .ok text ∧ f'.declared s' = .ok text

/-- Two types have the same name, and fields that say the same in order. -/
structure Ty.SameContract (s s' : Schema) (t t' : Ty) : Prop where
  name : t.name s = t'.name s'
  fields : List.Forall₂ (Field.SameContract s s') (t.fields s) (t'.fields s')

/-- Two resolutions have as many types, which say the same in order. -/
def Resolution.SameContract (r r' : Resolution) : Prop :=
  List.Forall₂ (Ty.SameContract r.schema r'.schema) r.types r'.types

/-! ## Names -/

/-- Whether a name consists of ASCII letters and digits, at least one of them. -/
def isAlphanumeric (w : String) : Bool := isRun Char.isAlphanum w

/-- Whether the names that a type is written with consist of letters and digits. -/
def Ty.isAlphanumeric (s : Schema) : Ty → Bool
  | .primitive p => Elm.isAlphanumeric p.name && Elm.isAlphanumeric p.codec
  | .list t | .nullable t => t.isAlphanumeric s
  | .record id => Elm.isAlphanumeric (s.nameOf id)
  | .incomplete _ | .foreign .. => true

example : [Primitive.bool, .int, .float, .string].all
    (fun p => Ty.isAlphanumeric [] (.primitive p)) = true := by decide

/-- The short names of the JSON libraries consist of letters and digits. -/
structure Imports.AreAlphanumeric (m : Imports) : Prop where
  decode : isAlphanumeric m.decode = true
  pipeline : isAlphanumeric m.pipeline = true
  encode : isAlphanumeric m.encode = true

/-- The types of a resolution are records.  Their names and those of their fields consist of
letters and digits, while the keys may be any texts. -/
structure Resolution.IsAlphanumeric (r : Resolution) : Prop where
  records : ∀ t ∈ r.types, ∃ id, t = .record id
  types : ∀ t ∈ r.types, t.isAlphanumeric r.schema = true
  names : ∀ t ∈ r.types, ∀ f ∈ t.fields r.schema, isAlphanumeric f.name = true
  fields : ∀ t ∈ r.types, ∀ f ∈ t.fields r.schema, f.type.isAlphanumeric r.schema = true

theorem isWord_of_isAlphanumeric {w : String} (h : isAlphanumeric w = true) : IsWord w := by
  simp only [isAlphanumeric, isRun, Bool.and_eq_true, decide_eq_true_eq, List.all_eq_true] at h
  refine isWord_iff.mpr ⟨h.1, fun c hc => ?_⟩
  simp [isNameChar, h.2 c hc]

theorem Imports.AreAlphanumeric.areWords {m : Imports} (h : m.AreAlphanumeric) : m.AreWords :=
  ⟨isWord_of_isAlphanumeric h.decode, isWord_of_isAlphanumeric h.pipeline,
    isWord_of_isAlphanumeric h.encode⟩

/-- The names that stand innermost in the three texts of a type are words. -/
theorem Ty.words_of_isAlphanumeric {s : Schema} {m : Imports} (hm : m.AreWords) {t : Ty}
    (h : t.isAlphanumeric s = true) (hcomplete : t.IsComplete) :
    IsWord (t.leaf.name s) ∧ IsWord (t.leaf.decoderName s m.decode) ∧
      IsWord (t.leaf.encoderName s m.encode) := by
  induction t with
  | primitive p =>
    obtain ⟨hname, hcodec⟩ := Bool.and_eq_true_iff.mp h
    have hchars : p.codec.toList.all isNameChar = true :=
      List.all_eq_true.mpr (isWord_iff.mp (isWord_of_isAlphanumeric hcodec)).2
    exact ⟨isWord_of_isAlphanumeric hname, (hm.decode.append (b := ".") rfl).append hchars,
      (hm.encode.append (b := ".") rfl).append hchars⟩
  | record id =>
    have hname : IsWord (s.nameOf id) := isWord_of_isAlphanumeric h
    exact ⟨hname, isWord_decoderName hname, .prepend rfl hname⟩
  | list t ih => exact ih h hcomplete
  | nullable t ih => exact ih h hcomplete
  | incomplete w => exact hcomplete.elim
  | foreign kind key name => exact hcomplete.elim

/-! ## Equal lines -/

theorem append_cons_inj {c : Char} {xs ys xs' ys' : List Char} (h : c ∉ xs) (h' : c ∉ xs')
    (heq : xs ++ c :: ys = xs' ++ c :: ys') : xs = xs' ∧ ys = ys' := by
  induction xs generalizing xs' with
  | nil =>
    cases xs' with
    | nil => exact ⟨rfl, (List.cons.inj heq).2⟩
    | cons d xs' => exact absurd ((List.cons.inj heq).1 ▸ List.mem_cons_self) h'
  | cons d xs ih =>
    cases xs' with
    | nil => exact absurd ((List.cons.inj heq).1 ▸ List.mem_cons_self) h
    | cons d' xs' =>
      obtain ⟨rfl, hrest⟩ := List.cons.inj heq
      obtain ⟨rfl, rfl⟩ := ih (fun hmem => h (List.mem_cons_of_mem _ hmem))
        (fun hmem => h' (List.mem_cons_of_mem _ hmem)) hrest
      exact ⟨rfl, rfl⟩

/-- A literal ends at its closing quote, whatever comes after it. -/
theorem literal_append_inj {key key' : String} {rest rest' : List Char}
    (h : (literal key).toList ++ rest = (literal key').toList ++ rest') : key = key' := by
  have hread : ∀ (k : String) (rest : List Char),
      content .none (((literal k).toList ++ rest).tail) = some (k.toList, rest) := by
    intro k rest
    rw [literal_toList]
    simpa using content_literal k.toList rest
  have hkeys := hread key rest
  rw [h, hread] at hkeys
  exact String.toList_inj.mp (Prod.mk.inj (Option.some.inj hkeys)).1.symm

theorem fieldText_inj {f f' : String × Form} (heq : fieldText f = fieldText f') (h : IsWord f.1)
    (h' : IsWord f'.1) : f.1 = f'.1 ∧ f.2.typeText = f'.2.typeText := by
  have hchars : ∀ f : String × Form, (fieldText f).toList =
      f.1.toList ++ ' ' :: (": ".toList ++ f.2.typeText.toList) := by
    intro f
    simp [fieldText]
  have hsplit := congrArg String.toList heq
  rw [hchars, hchars] at hsplit
  obtain ⟨hname, htype⟩ := append_cons_inj (h.not_mem rfl) (h'.not_mem rfl) hsplit
  exact ⟨String.toList_inj.mp hname, String.toList_inj.mp (List.append_cancel_left htype)⟩

theorem Step.text_inj {m : Imports} {s s' : Step} (h : s.text m = s'.text m) :
    s.key = s'.key ∧ s.optional = s'.optional := by
  have hchars : ∀ s : Step, ∃ rest, (s.text m).toList = ("|> " ++ m.pipeline).toList ++
      ((if s.optional then ".optional " else ".required ").toList ++
        ((literal s.key).toList ++ rest)) := by
    intro s
    refine ⟨(" " ++ s.value.codecText m.decode ++ if s.optional then " Nothing" else "").toList, ?_⟩
    cases hoptional : s.optional <;> simp [Step.text, hoptional]
  obtain ⟨rest, hrest⟩ := hchars s
  obtain ⟨rest', hrest'⟩ := hchars s'
  have heq := congrArg String.toList h
  rw [hrest, hrest'] at heq
  have heq := List.append_cancel_left heq
  cases hoptional : s.optional <;> cases hoptional' : s'.optional <;>
    simp [hoptional, hoptional'] at heq
  · exact ⟨literal_append_inj heq, rfl⟩
  · exact ⟨literal_append_inj heq, rfl⟩

theorem leads_inj {opening : String} {items items' : List String}
    (h : leads opening items = leads opening items') : items = items' := by
  cases items with
  | nil =>
    cases items' with
    | nil => rfl
    | cons item' items' => cases h
  | cons item items =>
    cases items' with
    | nil => cases h
    | cons item' items' =>
      obtain ⟨hfirst, hrest⟩ := List.cons.inj h
      have hitems := List.map_injective_iff.mpr (fun _ _ => (String.append_right_inj _).mp) hrest
      rw [(String.append_right_inj _).mp hfirst, hitems]

theorem Alias.lines_inj {a a' : Alias} (h : a.lines = a'.lines) :
    a.name = a'.name ∧ a.fields.map fieldText = a'.fields.map fieldText := by
  obtain ⟨hhead, hbody⟩ := List.cons.inj h
  have hleads := List.map_injective_iff.mpr (fun _ _ => Block.atLevel_inj)
    (List.append_cancel_right hbody)
  refine ⟨?_, leads_inj hleads⟩
  exact String.toList_inj.mp (by simpa using congrArg String.toList hhead)

theorem Decoder.lines_inj {m : Imports} {d d' : Decoder} (h : d.lines m = d'.lines m) :
    d.steps.map (Step.text m) = d'.steps.map (Step.text m) := by
  obtain ⟨-, h⟩ := List.cons.inj h
  obtain ⟨-, h⟩ := List.cons.inj h
  obtain ⟨-, h⟩ := List.cons.inj h
  exact List.map_injective_iff.mpr (fun _ _ => Block.atLevel_inj) h

theorem forall₂_of_map_eq {α β γ : Type} {f : α → γ} {g : β → γ} {as : List α} {bs : List β}
    (h : as.map f = bs.map g) : List.Forall₂ (fun a b => f a = g b) as bs := by
  rw [← List.forall₂_eq_eq_eq, List.forall₂_map_left_iff, List.forall₂_map_right_iff] at h
  exact h

theorem forall₂_of_flatMap_eq {α γ : Type} {f g : α → γ} {as bs : List α}
    (hlength : as.length = bs.length)
    (h : (as.flatMap fun a => [f a, g a]) = bs.flatMap fun b => [f b, g b]) :
    List.Forall₂ (fun a b => f a = f b) as bs := by
  induction as generalizing bs with
  | nil =>
    cases bs with
    | nil => exact .nil
    | cons b bs => cases hlength
  | cons a as ih =>
    cases bs with
    | nil => cases hlength
    | cons b bs =>
      obtain ⟨hfirst, hrest⟩ := List.cons.inj h
      obtain ⟨-, hrest⟩ := List.cons.inj hrest
      exact .cons hfirst (ih (Nat.succ.inj hlength) hrest)

/-! ## Equal declarations -/

theorem Field.sameContract_of_texts {s s' : Schema} {m : Imports} {f f' : Field}
    (hname : IsWord f.name) (hname' : IsWord f'.name) (hcomplete : f.type.IsComplete)
    (hcomplete' : f'.type.IsComplete) (hentry : fieldText (f.entry s) = fieldText (f'.entry s'))
    (hstep : (f.step s m).text m = (f'.step s' m).text m) : f.SameContract s s' f' := by
  obtain ⟨hnames, htypes⟩ := fieldText_inj hentry hname hname'
  obtain ⟨hkeys, hmaybe⟩ := Step.text_inj hstep
  refine ⟨hnames, hkeys, hmaybe, _, declared_eq s hcomplete, ?_⟩
  rw [declared_eq s' hcomplete', htypes]

theorem Ty.sameContract_of_lines {s s' : Schema} {m : Imports} {t t' : Ty}
    (hname : ∀ f ∈ t.fields s, IsWord f.name ∧ f.type.IsComplete)
    (hname' : ∀ f ∈ t'.fields s', IsWord f.name ∧ f.type.IsComplete)
    (halias : (t.recordAlias s).lines = (t'.recordAlias s').lines) {name name' : String}
    (hdecoder : (t.recordDecoder s m name).lines m = (t'.recordDecoder s' m name').lines m) :
    t.SameContract s s' t' := by
  obtain ⟨hnames, hentries⟩ := Alias.lines_inj halias
  have hsteps := Decoder.lines_inj hdecoder
  simp only [recordAlias, List.map_map] at hentries
  simp only [recordDecoder, List.map_map] at hsteps
  refine ⟨hnames, List.Forall₂.mp (fun f f' hentry hstep => ?_)
    (forall₂_and_mem (forall₂_of_map_eq hentries)) (forall₂_of_map_eq hsteps)⟩
  obtain ⟨hentry, hf, hf'⟩ := hentry
  exact Field.sameContract_of_texts (hname f hf).1 (hname' f' hf').1 (hname f hf).2
    (hname' f' hf').2 hentry hstep

/-- The lines of the declarations for a type are lines. -/
structure Declared.AreLines (m : Imports) (d : Declared) : Prop where
  type : ∀ l ∈ d.type.lines, IsLine l
  decoder : ∀ l ∈ d.decoder.lines m, IsLine l
  encoder : ∀ l ∈ d.encoder.lines m, IsLine l

namespace Resolution

variable {r r' : Resolution} {m : Imports} {t : Ty}

theorem IsAlphanumeric.isWord_name (h : r.IsAlphanumeric) (ht : t ∈ r.types) :
    IsWord (t.name r.schema) := by
  have htype := h.types t ht
  obtain ⟨id, rfl⟩ := h.records t ht
  exact isWord_of_isAlphanumeric htype

theorem IsAlphanumeric.isWord_codecNames (h : r.IsAlphanumeric) (ht : t ∈ r.types) :
    IsWord (t.decoderName r.schema m.decode) ∧ IsWord (t.encoderName r.schema m.encode) := by
  have hname := h.isWord_name ht
  obtain ⟨id, rfl⟩ := h.records t ht
  exact ⟨isWord_decoderName hname, .prepend rfl hname⟩

theorem IsAlphanumeric.areLines (h : r.IsAlphanumeric) (hm : m.AreWords) (ht : t ∈ r.types)
    (hcomplete : ∀ f ∈ t.fields r.schema, f.type.IsComplete) {decoderName encoderName : String}
    (hdecoder : IsWord decoderName) (hencoder : IsWord encoderName) :
    (t.declaredAs r.schema m decoderName encoderName).AreLines m := by
  have hname := h.isWord_name ht
  have hfield : ∀ f ∈ t.fields r.schema, IsWord f.name := fun f hf =>
    isWord_of_isAlphanumeric (h.names t ht f hf)
  have hleaf : ∀ f ∈ t.fields r.schema, IsWord (f.type.leaf.name r.schema) ∧
      IsWord (f.type.leaf.decoderName r.schema m.decode) ∧
      IsWord (f.type.leaf.encoderName r.schema m.encode) :=
    fun f hf => Ty.words_of_isAlphanumeric hm (h.fields t ht f hf) (hcomplete f hf)
  refine ⟨Alias.isLine hname ?_, Decoder.isLine hm hdecoder hname hname ?_,
    Encoder.isLine hm hencoder hname ?_⟩
  · intro entry hentry
    obtain ⟨f, hf, rfl⟩ := List.mem_map.mp hentry
    rw [Field.leaf_entry]
    exact ⟨hfield f hf, (hleaf f hf).1⟩
  · intro step hstep
    obtain ⟨f, hf, rfl⟩ := List.mem_map.mp hstep
    rw [Field.leaf_step]
    exact (hleaf f hf).2.1
  · intro pair hpair
    obtain ⟨f, hf, rfl⟩ := List.mem_map.mp hpair
    refine ⟨fun helper hhelper => ?_, ?_, hfield f hf⟩
    · cases hmaybe : f.isMaybe <;> simp [Field.pair, hmaybe] at hhelper
      exact hhelper ▸ rfl
    · rw [Field.leaf_pair]
      exact (hleaf f hf).2.2

theorem IsAlphanumeric.isLine (h : r.IsAlphanumeric) (hm : m.AreWords)
    (hcomplete : ∀ t ∈ r.types, ∀ f ∈ t.fields r.schema, f.type.IsComplete) :
    ∀ lines ∈ r.declaredLines m, lines ≠ [] ∧ ∀ l ∈ lines, IsLine l := by
  have hdeclared : ∀ d ∈ r.declared m, d.AreLines m := by
    intro d hd
    cases List.mem_cons.mp hd with
    | inl hroot =>
      have hmem : r.root ∈ r.types := List.mem_cons_self
      exact hroot ▸ h.areLines hm hmem (hcomplete _ hmem) rfl rfl
    | inr hnested =>
      obtain ⟨t, ht, rfl⟩ := List.mem_map.mp hnested
      have hmem : t ∈ r.types := List.mem_cons_of_mem _ ht
      obtain ⟨hdecoder, hencoder⟩ := h.isWord_codecNames (m := m) hmem
      exact h.areLines hm hmem (hcomplete t hmem) hdecoder hencoder
  intro lines hlines
  simp only [declaredLines, List.mem_append, List.mem_map, List.mem_flatMap, List.mem_cons,
    List.not_mem_nil, or_false] at hlines
  rcases hlines with (⟨d, hd, rfl⟩ | ⟨d, hd, rfl | rfl⟩) | rfl
  · exact ⟨List.cons_ne_nil _ _, (hdeclared d hd).type⟩
  · exact ⟨List.cons_ne_nil _ _, (hdeclared d hd).decoder⟩
  · exact ⟨List.cons_ne_nil _ _, (hdeclared d hd).encoder⟩
  · exact ⟨List.cons_ne_nil _ _, isLine_helperLines hm⟩

/-- Modules with the same lines have as many records, with the same lines for each of them. -/
theorem forall₂_of_declaredLines (h : r.declaredLines m = r'.declaredLines m) :
    List.Forall₂ (fun d d' => d.type.lines = d'.type.lines ∧ d.decoder.lines m = d'.decoder.lines m)
      (r.declared m) (r'.declared m) := by
  have hlength : (r.declared m).length = (r'.declared m).length := by
    have hlines := congrArg List.length h
    simp [declaredLines, List.length_flatMap] at hlines
    omega
  obtain ⟨haliases, hcodecs⟩ :=
    List.append_inj (List.append_cancel_right h) (by simpa using hlength)
  exact List.Forall₂.mp (fun _ _ => And.intro) (forall₂_of_map_eq haliases)
    (forall₂_of_flatMap_eq hlength hcodecs)

/-- Resolutions that are written in the same way have the same contract. -/
theorem emit_determines_contract (hm : m.AreAlphanumeric) (hr : r.IsAlphanumeric)
    (hr' : r'.IsAlphanumeric) {banner : List String} {text : String}
    (h : emit m r banner = .ok text) (h' : emit m r' banner = .ok text) : r.SameContract r' := by
  have hwords := hm.areWords
  have hcomplete := isComplete_of_sections (hasParts_of_emit hr.records h).sections
  have hcomplete' := isComplete_of_sections (hasParts_of_emit hr'.records h').sections
  have hparagraphs := paragraphs_emit hr.records (hr.isLine hwords hcomplete) h
  rw [paragraphs_emit hr'.records (hr'.isLine hwords hcomplete') h'] at hparagraphs
  -- The headers have as many paragraphs, and the banner is the same.
  have hbefore : (paragraphs (header m (r'.root.name r'.schema)).toList).length =
      (paragraphs (header m (r.root.name r.schema)).toList).length := by
    rw [length_paragraphs_header hwords (hr.isWord_name List.mem_cons_self),
      length_paragraphs_header hwords (hr'.isWord_name List.mem_cons_self)]
  have hchars := (List.append_inj hparagraphs (by simp [hbefore])).2
  have hlines : r.declaredLines m = r'.declaredLines m :=
    List.map_injective_iff.mpr (List.map_injective_iff.mpr fun _ _ => String.toList_inj.mp)
      hchars.symm
  obtain ⟨⟨halias, hdecoder⟩, hnested⟩ := List.forall₂_cons.mp (forall₂_of_declaredLines hlines)
  have hnames : ∀ {r : Resolution}, r.IsAlphanumeric →
      (∀ t ∈ r.types, ∀ f ∈ t.fields r.schema, f.type.IsComplete) → ∀ t ∈ r.types,
      ∀ f ∈ t.fields r.schema, IsWord f.name ∧ f.type.IsComplete :=
    fun hr hcomplete t ht f hf =>
      ⟨isWord_of_isAlphanumeric (hr.names t ht f hf), hcomplete t ht f hf⟩
  refine .cons (Ty.sameContract_of_lines (hnames hr hcomplete _ List.mem_cons_self)
    (hnames hr' hcomplete' _ List.mem_cons_self) halias hdecoder) ?_
  rw [List.forall₂_map_left_iff, List.forall₂_map_right_iff] at hnested
  refine (forall₂_and_mem hnested).imp fun t t' ⟨⟨halias, hdecoder⟩, ht, ht'⟩ => ?_
  exact Ty.sameContract_of_lines (hnames hr hcomplete t (List.mem_cons_of_mem _ ht))
    (hnames hr' hcomplete' t' (List.mem_cons_of_mem _ ht')) halias hdecoder

/-- A survey with answers, where the key of a field reads like the end of a line. -/
def survey : Resolution where
  schema := [
    ⟨"Survey", [
      ⟨"a\" D.int\n        |> P.required \"b", "scores", .list (.nullable (.primitive .int)), false⟩,
      ⟨"answers", "answers", .list (.record 1), true⟩]⟩,
    ⟨"Answer", [⟨"\\text", "text", .nullable (.primitive .string), false⟩]⟩]
  root := .record 0
  nested := [.record 1]

/-- The same survey with other places for the records and without the null scores. -/
def surveyAgain : Resolution where
  schema := [
    ⟨"Answer", [⟨"\\text", "text", .primitive .string, true⟩]⟩,
    ⟨"Survey", [⟨"a\" D.int\n        |> P.required \"b", "scores", .list (.primitive .int), false⟩,
      ⟨"answers", "answers", .list (.record 0), true⟩]⟩]
  root := .record 1
  nested := [.record 0]

/-- Both surveys are written in the same way, so the key is the same and belongs to one field. -/
theorem survey_sameContract :
    Imports.AreAlphanumeric {} ∧ survey.IsAlphanumeric ∧ surveyAgain.IsAlphanumeric ∧
      ∃ text, emit {} survey [] = .ok text ∧ emit {} surveyAgain [] = .ok text ∧
        survey.SameContract surveyAgain := by
  have hm : Imports.AreAlphanumeric {} := ⟨rfl, rfl, rfl⟩
  have hsurvey : survey.IsAlphanumeric :=
    ⟨by simp [types, survey], by decide, by decide, by decide⟩
  have hagain : surveyAgain.IsAlphanumeric :=
    ⟨by simp [types, surveyAgain], by decide, by decide, by decide⟩
  have hsame : emit {} surveyAgain [] = emit {} survey [] := rfl
  cases htext : emit {} survey [] with
  | error e => cases htext
  | ok text =>
    rw [htext] at hsame
    exact ⟨hm, hsurvey, hagain, text, rfl, hsame,
      emit_determines_contract hm hsurvey hagain htext hsame⟩

end Resolution

end ElmCodec.Elm
