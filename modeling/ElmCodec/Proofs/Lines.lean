import ElmCodec.Proofs.Emission

/-!
# The lines of a module

The text of a module is a sequence of paragraphs with blank lines between them, and a
paragraph is a sequence of lines.  Each declaration is one paragraph (`Alias.lines`,
`Decoder.lines`, `Encoder.lines`, `helperLines`).

`paragraphs` reads the paragraphs of any text.  Two blank lines always end a paragraph
(`paragraphs_append`), so the paragraphs of a module are those of its header, of its banner
and of its declarations, whatever stands in the banner.  A declaration is read back as its
lines if none of them is empty or has a line break inside (`paragraphs_joinWith`).  A key
may be any text, since the literal of a text has no line break (`le_of_mem_literal`).
-/

namespace ElmCodec.Elm

/-! ## Paragraphs -/

/-- The paragraphs of a text, each by its lines. -/
def paragraphs (text : List Char) : List (List (List Char)) :=
  ((text.splitOn '\n').splitOn []).filter fun lines => !lines.isEmpty

example : paragraphs "a\nb\n\n\n\nc\n".toList = [[['a'], ['b']], [['c']]] := by decide

theorem splitOn_append_cons {α : Type} [BEq α] [LawfulBEq α] (c : α) (xs ys : List α) :
    (xs ++ c :: ys).splitOn c = xs.splitOn c ++ ys.splitOn c :=
  List.splitOnP_append_cons xs ys BEq.rfl

theorem paragraphs_blankLine (xs ys : List Char) :
    paragraphs (xs ++ '\n' :: '\n' :: ys) = paragraphs xs ++ paragraphs ys := by
  have hlines : (xs ++ '\n' :: '\n' :: ys).splitOn '\n' =
      xs.splitOn '\n' ++ [] :: ys.splitOn '\n' := by
    rw [splitOn_append_cons, ← List.nil_append ('\n' :: ys), splitOn_append_cons]
    rfl
  rw [paragraphs, hlines, splitOn_append_cons, List.filter_append]
  rfl

theorem paragraphs_lineBreak (ys : List Char) : paragraphs ('\n' :: ys) = paragraphs ys := by
  have hlines : ('\n' :: ys).splitOn '\n' = [] ++ [] :: ys.splitOn '\n' :=
    splitOn_append_cons '\n' [] ys
  rw [paragraphs, hlines, splitOn_append_cons, List.filter_append]
  rfl

/-- Two blank lines end a paragraph, whatever stands before them. -/
theorem paragraphs_append (xs ys : List Char) :
    paragraphs (xs ++ "\n\n\n".toList ++ ys) = paragraphs xs ++ paragraphs ys := by
  have hbreaks : xs ++ "\n\n\n".toList ++ ys = xs ++ '\n' :: '\n' :: '\n' :: ys := by simp
  rw [hbreaks, paragraphs_blankLine, paragraphs_lineBreak]

/-- The line break at the end of a text does not matter. -/
theorem paragraphs_snoc (xs : List Char) : paragraphs (xs ++ "\n".toList) = paragraphs xs := by
  change paragraphs (xs ++ ['\n']) = _
  have hlines : (xs ++ ['\n']).splitOn '\n' = xs.splitOn '\n' ++ [[]] := splitOn_append_cons ..
  have hempty : (xs.splitOn '\n' ++ [[]]).splitOn [] = (xs.splitOn '\n').splitOn [] ++ [[]] :=
    splitOn_append_cons ..
  rw [paragraphs, hlines, hempty, List.filter_append]
  exact List.append_nil _

theorem paragraphs_intercalate (parts : List (List Char)) :
    paragraphs ("\n\n\n".toList.intercalate parts) = parts.flatMap paragraphs := by
  induction parts with
  | nil => rfl
  | cons part parts ih =>
    cases parts with
    | nil => simp
    | cons next parts =>
      rw [List.intercalate_cons_cons, paragraphs_append, ih]
      rfl

/-- A line of a text: it has characters, and no line break. -/
structure IsLine (l : String) : Prop where
  ne_nil : l.toList ≠ []
  unbroken : '\n' ∉ l.toList

/-- Lines are read back as one paragraph. -/
theorem paragraphs_joinWith {lines : List String} (hne : lines ≠ [])
    (h : ∀ l ∈ lines, IsLine l) :
    paragraphs (Text.joinWith "\n" lines).toList = [lines.map String.toList] := by
  have hsplit : (Text.joinWith "\n" lines).toList.splitOn '\n' = lines.map String.toList := by
    rw [Text.joinWith, String.toList_intercalate]
    refine List.splitOn_intercalate '\n' ?_ (by simpa using hne)
    simpa using fun l hl => (h l hl).unbroken
  have hfull : [] ∉ lines.map String.toList := by
    intro hempty
    obtain ⟨l, hl, hnil⟩ := List.mem_map.mp hempty
    exact (h l hl).ne_nil hnil
  rw [paragraphs, hsplit, List.splitOn_eq_singleton hfull]
  simp [hne]

/-! ## Lines of declarations -/

namespace Block

/-- A text as a line at a level. -/
def atLevel (level : Int) (text : String) : String :=
  if text = "" then "" else margin level ++ text

theorem atLevel_zero (text : String) : atLevel 0 text = text := by
  unfold atLevel
  split
  next h => exact h.symm
  next => exact String.empty_append

theorem atLevel_inj {level : Int} {text text' : String}
    (h : atLevel level text = atLevel level text') : text = text' := by
  unfold atLevel at h
  split at h <;> split at h
  next ht ht' => rw [ht, ht']
  next ht ht' => simp_all
  next ht ht' => simp_all
  next => exact String.toList_inj.mp (by simpa using congrArg String.toList h)

theorem isLine_atLevel {level : Int} {text : String} (h : IsLine text) :
    IsLine (atLevel level text) := by
  have hne : text ≠ "" := fun hempty => h.ne_nil (by rw [hempty]; rfl)
  rw [atLevel, if_neg hne]
  constructor
  · simpa using fun _ => hne
  · simpa [margin] using h.unbroken

theorem line_eq (b : Block) (text : String) :
    b.line text = { b with lines := b.lines ++ [atLevel b.level text] } :=
  rfl

theorem addLines_eq (b : Block) (texts : List String) :
    b.addLines texts = { b with lines := b.lines ++ texts.map (atLevel b.level) } := by
  induction texts generalizing b with
  | nil => simp [addLines]
  | cons text texts ih =>
    change (b.line text).addLines texts = _
    rw [ih, line_eq]
    simp

end Block

/-- The lines of a type alias. -/
def Alias.lines (a : Alias) : List String :=
  ("type alias " ++ a.name ++ " =") ::
    ((leads "\x7b" (a.fields.map fieldText)).map (Block.atLevel 1) ++ [Block.atLevel 1 "\x7d"])

/-- The lines of a decoder. -/
def Decoder.lines (m : Imports) (d : Decoder) : List String :=
  (d.name ++ " : " ++ m.decode ++ ".Decoder " ++ d.type) :: (d.name ++ " =") ::
    Block.atLevel 1 (m.decode ++ ".succeed " ++ d.constructor) ::
    (d.steps.map (Step.text m)).map (Block.atLevel 2)

/-- The lines of an encoder. -/
def Encoder.lines (m : Imports) (e : Encoder) : List String :=
  (e.name ++ " : " ++ e.type ++ " -> " ++ m.encode ++ ".Value") :: (e.name ++ " r =") ::
    Block.atLevel 1 (m.encode ++ ".object") ::
    ((leads "[" (e.pairs.map (Pair.text m))).map (Block.atLevel 2) ++ [Block.atLevel 2 "]"])

/-- The lines of the helper of every module. -/
def helperLines (m : Imports) : List String :=
  [("maybe : (a -> " ++ m.encode ++ ".Value) -> Maybe a -> " ++ m.encode ++ ".Value"),
    "maybe encoder =",
    Block.atLevel 1 ("Maybe.map encoder >> Maybe.withDefault " ++ m.encode ++ ".null")]

theorem Alias.text_eq (a : Alias) : a.text = Text.joinWith "\n" a.lines := by
  simp [Alias.text, Alias.lines, Block.text, Block.indented, Block.addLines_eq, Block.line_eq,
    Block.indent, Block.dedent, Block.atLevel_zero]

theorem Decoder.text_eq (m : Imports) (d : Decoder) :
    d.text m = Text.joinWith "\n" (d.lines m) := by
  simp [Decoder.text, Decoder.lines, Block.text, Block.indented, Block.addLines_eq, Block.line_eq,
    Block.indent, Block.dedent, Block.atLevel_zero]

theorem Encoder.text_eq (m : Imports) (e : Encoder) :
    e.text m = Text.joinWith "\n" (e.lines m) := by
  simp [Encoder.text, Encoder.lines, Block.text, Block.indented, Block.addLines_eq, Block.line_eq,
    Block.indent, Block.dedent, Block.atLevel_zero]

theorem maybeHelper_eq (m : Imports) : maybeHelper m = Text.joinWith "\n" (helperLines m) := by
  simp [maybeHelper, helperLines, Block.text, Block.indented, Block.line_eq, Block.indent,
    Block.dedent, Block.atLevel_zero]

/-! ## Declarations without line breaks -/

theorem unbroken_literal (key : String) : '\n' ∉ (literal key).toList := by
  intro h
  exact absurd (le_of_mem_literal h) (by decide)

theorem IsWord.unbroken {w : String} (h : IsWord w) : '\n' ∉ w.toList := h.not_mem rfl

theorem Form.unbroken_typeText {f : Form} (h : IsWord f.leaf) : '\n' ∉ f.typeText.toList := by
  have hparens : ∀ {text : String}, '\n' ∉ text.toList → '\n' ∉ (parenthesized text).toList := by
    intro text htext
    unfold parenthesized
    split
    next => simp [htext]
    next => exact htext
  induction f with
  | named n => exact h.unbroken
  | list f ih => simp [typeText, hparens (ih h)]
  | nullable f ih => simp [typeText, hparens (ih h)]

theorem Form.unbroken_codecText {f : Form} (h : IsWord f.leaf) {module_ : String}
    (hm : IsWord module_) : '\n' ∉ (f.codecText module_).toList := by
  induction f with
  | named n => exact h.unbroken
  | list f ih => simp [codecText, hm.unbroken, ih h]
  | nullable f ih => simp [codecText, hm.unbroken, ih h]

theorem isLine_leads {opening : String} (hopening : IsLine opening) {items : List String}
    (h : ∀ item ∈ items, IsLine item) : ∀ l ∈ leads opening items, IsLine l := by
  intro l hl
  cases items with
  | nil => cases hl
  | cons item items =>
    cases List.mem_cons.mp hl with
    | inl hfirst =>
      subst hfirst
      exact ⟨by simp, by simp [hopening.unbroken, (h item List.mem_cons_self).unbroken]⟩
    | inr hrest =>
      obtain ⟨item', hitem', rfl⟩ := List.mem_map.mp hrest
      exact ⟨by simp, by simp [(h item' (List.mem_cons_of_mem item hitem')).unbroken]⟩

theorem isLine_map_atLevel (level : Int) {texts : List String} (h : ∀ text ∈ texts, IsLine text) :
    ∀ l ∈ texts.map (Block.atLevel level), IsLine l := by
  intro l hl
  obtain ⟨text, htext, rfl⟩ := List.mem_map.mp hl
  exact Block.isLine_atLevel (h text htext)

theorem Alias.isLine {a : Alias} (hname : IsWord a.name)
    (hfields : ∀ f ∈ a.fields, IsWord f.1 ∧ IsWord f.2.leaf) : ∀ l ∈ a.lines, IsLine l := by
  have hitems : ∀ item ∈ a.fields.map fieldText, IsLine item := by
    intro item hitem
    obtain ⟨f, hf, rfl⟩ := List.mem_map.mp hitem
    obtain ⟨hfield, htype⟩ := hfields f hf
    exact ⟨by simp [fieldText],
      by simp [fieldText, hfield.unbroken, Form.unbroken_typeText htype]⟩
  have hopening : IsLine "\x7b" := ⟨by simp, by simp⟩
  have hbody := isLine_map_atLevel 1 (isLine_leads hopening hitems)
  simp only [Alias.lines, List.forall_mem_cons, List.forall_mem_append]
  exact ⟨⟨by simp, by simp [hname.unbroken]⟩, hbody,
    Block.isLine_atLevel ⟨by simp, by simp⟩, by simp⟩

theorem Step.isLine {m : Imports} (hm : m.AreWords) {s : Step} (h : IsWord s.value.leaf) :
    IsLine (s.text m) := by
  refine ⟨by simp [Step.text], ?_⟩
  cases hoptional : s.optional <;>
    simp [Step.text, hoptional, hm.pipeline.unbroken, unbroken_literal,
      Form.unbroken_codecText h hm.decode]

theorem Decoder.isLine {m : Imports} (hm : m.AreWords) {d : Decoder} (hname : IsWord d.name)
    (htype : IsWord d.type) (hconstructor : IsWord d.constructor)
    (hsteps : ∀ s ∈ d.steps, IsWord s.value.leaf) : ∀ l ∈ d.lines m, IsLine l := by
  have hitems : ∀ item ∈ d.steps.map (Step.text m), IsLine item := by
    intro item hitem
    obtain ⟨s, hs, rfl⟩ := List.mem_map.mp hitem
    exact Step.isLine hm (hsteps s hs)
  have hbody := isLine_map_atLevel 2 hitems
  simp only [Decoder.lines, List.forall_mem_cons]
  exact ⟨⟨by simp, by simp [hname.unbroken, htype.unbroken, hm.decode.unbroken]⟩,
    ⟨by simp, by simp [hname.unbroken]⟩,
    Block.isLine_atLevel ⟨by simp, by simp [hconstructor.unbroken, hm.decode.unbroken]⟩, hbody⟩

theorem Pair.isLine {m : Imports} (hm : m.AreWords) {p : Pair} (hhelper : ∀ h ∈ p.helper, IsWord h)
    (hvalue : IsWord p.value.leaf) (hfield : IsWord p.field) : IsLine (p.text m) := by
  refine ⟨by simp [Pair.text], ?_⟩
  have hcodec := Form.unbroken_codecText hvalue hm.encode
  cases hp : p.helper with
  | none => simp [Pair.text, hp, unbroken_literal, hcodec, hfield.unbroken]
  | some helper =>
    simp [Pair.text, hp, unbroken_literal, hcodec, hfield.unbroken, (hhelper helper hp).unbroken]

theorem Encoder.isLine {m : Imports} (hm : m.AreWords) {e : Encoder} (hname : IsWord e.name)
    (htype : IsWord e.type)
    (hpairs : ∀ p ∈ e.pairs, (∀ h ∈ p.helper, IsWord h) ∧ IsWord p.value.leaf ∧ IsWord p.field) :
    ∀ l ∈ e.lines m, IsLine l := by
  have hitems : ∀ item ∈ e.pairs.map (Pair.text m), IsLine item := by
    intro item hitem
    obtain ⟨p, hp, rfl⟩ := List.mem_map.mp hitem
    obtain ⟨hhelper, hvalue, hfield⟩ := hpairs p hp
    exact Pair.isLine hm hhelper hvalue hfield
  have hopening : IsLine "[" := ⟨by simp, by simp⟩
  have hbody := isLine_map_atLevel 2 (isLine_leads hopening hitems)
  simp only [Encoder.lines, List.forall_mem_cons, List.forall_mem_append]
  exact ⟨⟨by simp, by simp [hname.unbroken, htype.unbroken, hm.encode.unbroken]⟩,
    ⟨by simp, by simp [hname.unbroken]⟩,
    Block.isLine_atLevel ⟨by simp, by simp [hm.encode.unbroken]⟩, hbody,
    Block.isLine_atLevel ⟨by simp, by simp⟩, by simp⟩

theorem isLine_helperLines {m : Imports} (hm : m.AreWords) : ∀ l ∈ helperLines m, IsLine l := by
  simp only [helperLines, List.forall_mem_cons]
  exact ⟨⟨by simp, by simp [hm.encode.unbroken]⟩, ⟨by simp, by simp⟩,
    Block.isLine_atLevel ⟨by simp, by simp [hm.encode.unbroken]⟩, by simp⟩

/-! ## The text of a module -/

theorem Ty.isComplete_of_decoder {s : Schema} {decode text : String} {t : Ty}
    (h : t.decoder s decode = .ok text) : t.IsComplete := by
  induction t generalizing text with
  | primitive p => trivial
  | record id => trivial
  | list t ih =>
    obtain ⟨elem, helem, -⟩ := bind_eq_ok.mp h
    exact ih helem
  | nullable t ih => exact ih h
  | incomplete w => cases h
  | foreign kind key name => cases h

theorem Ty.isComplete_of_decoderText {s : Schema} {m : Imports} {t : Ty} {name text : String}
    (h : decoderText s m t name = .ok text) : ∀ f ∈ t.fields s, f.type.IsComplete := by
  intro f hf
  obtain ⟨lines, hlines, -⟩ := bind_eq_ok.mp h
  obtain ⟨line, -, hline⟩ := forall₂_mem_left (mapM_eq_ok.mp hlines) hf
  obtain ⟨decoder, hdecoder, -⟩ := bind_eq_ok.mp hline
  obtain ⟨type, htype, -⟩ := bind_eq_ok.mp hdecoder
  exact isComplete_of_decoder htype

namespace Resolution

variable {r : Resolution} {m : Imports} {banner parts : List String} {text : String}

/-- A module with a text has no types with unknown parts. -/
theorem isComplete_of_sections (h : sections m r banner = .ok parts) :
    ∀ t ∈ r.types, ∀ f ∈ t.fields r.schema, f.type.IsComplete := by
  intro t ht
  obtain ⟨aliases, -, h⟩ := bind_eq_ok.mp h
  obtain ⟨decoder, hdecoder, h⟩ := bind_eq_ok.mp h
  obtain ⟨encoder, -, h⟩ := bind_eq_ok.mp h
  obtain ⟨nested, hnested, -⟩ := bind_eq_ok.mp h
  cases List.mem_cons.mp ht with
  | inl hroot => exact hroot ▸ Ty.isComplete_of_decoderText hdecoder
  | inr ht =>
    obtain ⟨codecs, -, hcodecs⟩ := forall₂_mem_left (mapM_eq_ok.mp hnested) ht
    obtain ⟨name, -, hcodecs⟩ := bind_eq_ok.mp hcodecs
    obtain ⟨text, htext, -⟩ := bind_eq_ok.mp hcodecs
    exact Ty.isComplete_of_decoderText htext

/-- The parts of a module with a text. -/
theorem hasParts_of_emit (hrecords : ∀ t ∈ r.types, ∃ id, t = .record id)
    (h : emit m r banner = .ok text) :
    r.HasParts m banner ([header m (r.root.name r.schema), Text.joinWith "\n" banner] ++
      r.declaredTexts m) := by
  obtain ⟨parts, hparts, -⟩ := bind_eq_ok.mp h
  have hsections := sections_eq hrecords (isComplete_of_sections hparts) (m := m) banner
  exact ⟨hsections, by rw [emit, hsections]; rfl⟩

/-- The lines of the declarations, in the order of a module. -/
def declaredLines (m : Imports) (r : Resolution) : List (List String) :=
  (r.declared m).map (·.type.lines) ++
    (r.declared m).flatMap (fun d => [d.decoder.lines m, d.encoder.lines m]) ++ [helperLines m]

theorem declaredTexts_eq (m : Imports) (r : Resolution) :
    r.declaredTexts m = (r.declaredLines m).map (Text.joinWith "\n") := by
  simp [declaredTexts, declaredLines, Alias.text_eq, Decoder.text_eq, Encoder.text_eq,
    maybeHelper_eq, List.map_flatMap]

/-- The line that names a module, and the lines of its imports. -/
def headerLines (m : Imports) (root : String) : List String × List String :=
  (["module " ++ root ++ " exposing (" ++ root ++ ", decoder, encode)"],
    ["import Json.Decode as " ++ m.decode, "import Json.Decode.Pipeline as " ++ m.pipeline,
      "import Json.Encode as " ++ m.encode])

theorem header_eq (m : Imports) (root : String) :
    (header m root).toList = (Text.joinWith "\n" (headerLines m root).1).toList ++
      '\n' :: '\n' :: (Text.joinWith "\n" (headerLines m root).2).toList := by
  simp [header, headerLines, Block.text, Block.addLines_eq, Block.atLevel_zero, Text.joinWith]

theorem length_paragraphs_header (hm : m.AreWords) {root : String} (hroot : IsWord root) :
    (paragraphs (header m root).toList).length = 2 := by
  have hfirst : ∀ l ∈ (headerLines m root).1, IsLine l := by
    simp only [headerLines, List.forall_mem_singleton]
    exact ⟨by simp, by simp [hroot.unbroken]⟩
  have himports : ∀ l ∈ (headerLines m root).2, IsLine l := by
    simp only [headerLines, List.forall_mem_cons]
    exact ⟨⟨by simp, by simp [hm.decode.unbroken]⟩, ⟨by simp, by simp [hm.pipeline.unbroken]⟩,
      ⟨by simp, by simp [hm.encode.unbroken]⟩, by simp⟩
  rw [header_eq, paragraphs_blankLine, paragraphs_joinWith (by simp [headerLines]) hfirst,
    paragraphs_joinWith (by simp [headerLines]) himports]
  rfl

/-- The paragraphs of a module: those of the header and of the banner, and one for each
declaration. -/
theorem paragraphs_emit (hrecords : ∀ t ∈ r.types, ∃ id, t = .record id)
    (hlines : ∀ lines ∈ r.declaredLines m, lines ≠ [] ∧ ∀ l ∈ lines, IsLine l)
    (h : emit m r banner = .ok text) :
    paragraphs text.toList = paragraphs (header m (r.root.name r.schema)).toList ++
      paragraphs (Text.joinWith "\n" banner).toList ++
      (r.declaredLines m).map (List.map String.toList) := by
  have htext := Except.ok.inj (h.symm.trans (hasParts_of_emit hrecords h).text)
  -- A part without text has no paragraphs.
  have hfilter : ∀ parts : List String,
      (parts.filter fun part => part != "").flatMap (paragraphs ·.toList) =
        parts.flatMap (paragraphs ·.toList) := by
    intro parts
    induction parts with
    | nil => rfl
    | cons part parts ih =>
      by_cases hpart : part = ""
      · subst hpart
        exact ih
      · simp [hpart, ih]
  have hdeclared : (r.declaredTexts m).flatMap (paragraphs ·.toList) =
      (r.declaredLines m).map (List.map String.toList) := by
    rw [declaredTexts_eq, List.flatMap_map, List.map_eq_flatMap]
    refine List.flatMap_congr fun lines hmem => ?_
    exact paragraphs_joinWith (hlines lines hmem).1 (hlines lines hmem).2
  rw [htext, String.toList_append, paragraphs_snoc, Text.joinWith, String.toList_intercalate,
    paragraphs_intercalate, List.flatMap_map, hfilter, List.flatMap_append, hdeclared]
  simp

end Resolution

end ElmCodec.Elm
