import ElmCodec.Proofs.Declaration
import ElmCodec.Proofs.Results

/-!
# What the emitted declarations say

Each declaration of an emitted module is spelled by the tokens of a syntax tree.  The
tree of a record is a map over its fields: a field has a type in the type alias, a step
in the decoder and a key in the encoder (`Field.entry`, `Field.step`, `Field.pair`).

A type that is complete has a text, and so have its decoder and its encoder.  The three
texts are those of one form with other names at the leaves (`Ty.form`).
-/

namespace ElmCodec.Elm

/-! ## Lines and phrases -/

/-- A text is spelled by tokens. -/
def LineSpells (ts : List Token) (text : String) : Prop := Spells ts text.toList

/-- Texts with blanks between them are spelled by the tokens of all of them. -/
theorem spells_joinWith (c : Char) (hc : isBlank c = true) {sep : String}
    (hsep : sep.toList = [c]) {tss : List (List Token)} {texts : List String}
    (h : List.Forall₂ LineSpells tss texts) :
    LineSpells tss.flatten (Text.joinWith sep texts) := by
  rw [LineSpells, Text.joinWith, String.toList_intercalate, hsep]
  induction h with
  | nil => exact .nil
  | @cons ts text tss texts htext htexts ih =>
    cases htexts with
    | nil => simpa using (show Spells ts text.toList from htext)
    | cons hnext hrest =>
      rw [List.map_cons, List.map_cons, List.intercalate_cons_cons, List.flatten_cons,
        List.append_assoc]
      exact Spells.append_blank c hc htext ih

/-- The text of a token. -/
def Token.spelling : Token → String
  | .word w => w
  | .operator o => o
  | .text s => literal s
  | .mark c => String.singleton c

/-- Tokens with one blank between them. -/
def phrase (ts : List Token) : String := Text.joinWith " " (ts.map Token.spelling)

theorem spells_phrase {ts : List Token} {text : String} (h : ∀ c, .mark c ∉ ts)
    (htext : (phrase ts).toList = text.toList) : LineSpells ts text := by
  have hself : List.Forall₂ LineSpells (ts.map ([·])) (ts.map Token.spelling) := by
    rw [List.forall₂_map_left_iff, List.forall₂_map_right_iff, List.forall₂_same]
    intro t ht
    cases t with
    | word w => exact Spells.word_self w
    | operator o => exact Spells.operator_self o
    | text s => exact Spells.literal_self s
    | mark c => exact absurd ht (h c)
  have hts : Spells (ts.flatMap ([·])) (phrase ts).toList := spells_joinWith ' ' rfl rfl hself
  rwa [List.flatMap_singleton', htext] at hts

theorem phrase_toList (ts : List Token) :
    (phrase ts).toList = List.intercalate [' '] (ts.map fun t => t.spelling.toList) := by
  rw [phrase, Text.joinWith, String.toList_intercalate, List.map_map]
  rfl

/-! ## Texts of forms -/

namespace Form

/-- The text of a type. -/
def typeText : Form → String
  | .named n => n
  | .list t => "List " ++ parenthesized t.typeText
  | .nullable t => "Maybe " ++ parenthesized t.typeText

/-- The text of a codec. -/
def codecText (module_ : String) : Form → String
  | .named n => n
  | .list f => "(" ++ module_ ++ ".list " ++ f.codecText module_ ++ ")"
  | .nullable f => "(" ++ module_ ++ ".nullable " ++ f.codecText module_ ++ ")"

theorem spells_parens {ts : List Token} {cs : List Char} (h : Spells ts cs) :
    Spells (parens ts) ('(' :: (cs ++ [')'])) :=
  .mark '(' rfl (h.append_mark ')' rfl .nil)

/-- A word before an argument. -/
theorem spells_apply (w : String) {t : String} {ts : List Token} (h : Spells ts t.toList) :
    Spells (.word w :: ts) (w ++ " " ++ t).toList := by
  have happly := (Spells.word_self w).append_blank ' ' rfl h
  simpa using happly

/-- A type by itself and as an argument is spelled by its tokens. -/
theorem spells_typeText (f : Form) :
    Spells (f.typeTokens false) f.typeText.toList ∧
      Spells (f.typeTokens true) (parenthesized f.typeText).toList := by
  -- A type of several words has a blank in its text.
  have hwrap : ∀ {w t : String} {ts : List Token}, Spells ts t.toList →
      Spells (parens (.word w :: ts)) (parenthesized (w ++ " " ++ t)).toList := by
    intro w t ts h
    have hblank : (w ++ " " ++ t).toList.contains ' ' = true := by simp
    rw [parenthesized, if_pos hblank]
    simpa using spells_parens (spells_apply w h)
  induction f with
  | named n =>
    refine ⟨Spells.word_self n, ?_⟩
    rw [typeTokens, parenthesized, typeText, Bool.true_and]
    split
    next => simpa using spells_parens (Spells.word_self n)
    next => exact Spells.word_self n
  | list t ih => exact ⟨spells_apply _ ih.2, hwrap ih.2⟩
  | nullable t ih => exact ⟨spells_apply _ ih.2, hwrap ih.2⟩

/-- A codec is spelled by its tokens. -/
theorem spells_codecText (module_ : String) (f : Form) :
    Spells (f.codecTokens module_) (f.codecText module_).toList := by
  induction f with
  | named n => exact Spells.word_self n
  | list f ih =>
    have h := spells_parens (spells_apply (module_ ++ ".list") ih)
    simpa [codecText, codecTokens] using h
  | nullable f ih =>
    have h := spells_parens (spells_apply (module_ ++ ".nullable") ih)
    simpa [codecText, codecTokens] using h

end Form

/-! ## Lines -/

/-- The text of a field with its type. -/
def fieldText (f : String × Form) : String := f.1 ++ " : " ++ f.2.typeText

/-- The text of a step. -/
def Step.text (m : Imports) (s : Step) : String :=
  "|> " ++ (m.pipeline ++ if s.optional then ".optional" else ".required") ++ " " ++
    literal s.key ++ " " ++ s.value.codecText m.decode ++ if s.optional then " Nothing" else ""

/-- The text of a key with the encoding of a field. -/
def Pair.text (m : Imports) (p : Pair) : String :=
  "( " ++ literal p.key ++ ", " ++
    (match p.helper with
      | some helper => helper ++ " " ++ p.value.codecText m.encode
      | none => p.value.codecText m.encode) ++
    " r." ++ p.field ++ " )"

theorem spells_fieldText (f : String × Form) : Spells (fieldTokens f) (fieldText f).toList := by
  have h := (Spells.word_self f.1).append_blank ' ' rfl
    ((Spells.operator_self ":").append_blank ' ' rfl f.2.spells_typeText.1)
  simpa [fieldTokens, fieldText] using h

theorem Step.spells_text (m : Imports) (s : Step) :
    Spells (.operator "|>" :: s.tokens m) (s.text m).toList := by
  obtain ⟨key, value, optional⟩ := s
  have hvalue := value.spells_codecText m.decode
  cases optional with
  | false =>
    have h := (Spells.operator_self "|>").append_blank ' ' rfl
      ((Spells.word_self (m.pipeline ++ ".required")).append_blank ' ' rfl
        ((Spells.literal_self key).append_blank ' ' rfl hvalue))
    simpa [Step.tokens, Step.text] using h
  | true =>
    have h := (Spells.operator_self "|>").append_blank ' ' rfl
      ((Spells.word_self (m.pipeline ++ ".optional")).append_blank ' ' rfl
        ((Spells.literal_self key).append_blank ' ' rfl
          (hvalue.append_blank ' ' rfl (Spells.word_self "Nothing"))))
    simpa [Step.tokens, Step.text] using h

theorem Pair.spells_text (m : Imports) (p : Pair) : Spells (p.tokens m "r") (p.text m).toList := by
  obtain ⟨key, helper, value, field⟩ := p
  have hkey : ∀ {ts : List Token} {cs : List Char}, Spells ts cs →
      Spells (.mark '(' :: .text key :: .mark ',' :: ts)
        ('(' :: ' ' :: ((literal key).toList ++ ',' :: ' ' :: cs)) := fun h =>
    .mark '(' rfl (.blank ' ' rfl
      ((Spells.literal_self key).append_mark ',' rfl (.blank ' ' rfl h)))
  have hvalue := (value.spells_codecText m.encode).append_blank ' ' rfl
    ((Spells.word_self ("r." ++ field)).append_blank ' ' rfl (.mark ')' rfl .nil))
  cases helper with
  | none => simpa [Pair.tokens, Pair.text] using hkey hvalue
  | some helper =>
    have h := hkey ((Spells.word_self helper).append_blank ' ' rfl hvalue)
    simpa [Pair.tokens, Pair.text] using h

/-! ## Blocks -/

namespace Block

/-- The lines of a block are spelled by tokens. -/
def SpelledBy (b : Block) (tss : List (List Token)) : Prop :=
  List.Forall₂ LineSpells tss b.lines

variable {b : Block} {tss : List (List Token)}

theorem spelledBy_empty : ({} : Block).SpelledBy [] := .nil

theorem SpelledBy.line (h : b.SpelledBy tss) {ts : List Token} {text : String}
    (htext : LineSpells ts text) : (b.line text).SpelledBy (tss ++ [ts]) := by
  refine List.rel_append h (.cons ?_ .nil)
  split
  next hempty => exact hempty ▸ htext
  next =>
    rw [LineSpells, String.toList_append, margin, String.toList_ofList]
    exact htext.blanks _

theorem SpelledBy.addLines (h : b.SpelledBy tss) {tss' : List (List Token)} {texts : List String}
    (htexts : List.Forall₂ LineSpells tss' texts) : (b.addLines texts).SpelledBy (tss ++ tss') := by
  induction htexts generalizing b tss with
  | nil => rwa [List.append_nil]
  | cons htext _ ih =>
    have hline := ih (h.line htext)
    rwa [List.append_assoc] at hline

theorem SpelledBy.indented (h : b.SpelledBy tss) {body : Block → Block} {tss' : List (List Token)}
    (hbody : ∀ {b}, b.SpelledBy tss → (body b).SpelledBy tss') :
    (b.indented body).SpelledBy tss' :=
  hbody (b := b.indent) h

theorem SpelledBy.text (h : b.SpelledBy tss) : Spells tss.flatten b.text.toList :=
  spells_joinWith '\n' rfl rfl h

end Block

/-! ## Declarations -/

/-- The lines of a list are spelled by its items, the first after an opening. -/
theorem spells_leads {α : Type} {tokens : α → List Token} {text : α → String}
    (h : ∀ a, LineSpells (tokens a) (text a)) (c : Char) (hc : isMark c = true)
    (opening : String) (hopening : opening.toList = [c]) (a : α) (as : List α) :
    List.Forall₂ LineSpells ((.mark c :: tokens a) :: as.map fun b => .mark ',' :: tokens b)
      (leads opening ((a :: as).map text)) := by
  refine .cons ?_ ?_
  · have hfirst := Spells.mark c hc (.blank ' ' rfl (h a))
    simpa [LineSpells, hopening] using hfirst
  · rw [List.map_map, List.forall₂_map_left_iff, List.forall₂_map_right_iff, List.forall₂_same]
    intro b _
    have hnext := Spells.mark ',' rfl (.blank ' ' rfl (h b))
    simpa [LineSpells] using hnext

/-- The text of a type alias. -/
def Alias.text (a : Alias) : String :=
  let b : Block := {}
  let b := b.line ("type alias " ++ a.name ++ " =")
  (b.indented fun b => (b.addLines (leads "\x7b" (a.fields.map fieldText))).line "\x7d").text

/-- The text of a decoder. -/
def Decoder.text (m : Imports) (d : Decoder) : String :=
  let b : Block := {}
  let b := b.line (d.name ++ " : " ++ m.decode ++ ".Decoder " ++ d.type)
  let b := b.line (d.name ++ " =")
  (b.indented fun b =>
    (b.line (m.decode ++ ".succeed " ++ d.constructor)).indented fun b =>
      b.addLines (d.steps.map (Step.text m))).text

/-- The text of an encoder with the argument that all encoders have. -/
def Encoder.text (m : Imports) (e : Encoder) : String :=
  let b : Block := {}
  let b := b.line (e.name ++ " : " ++ e.type ++ " -> " ++ m.encode ++ ".Value")
  let b := b.line (e.name ++ " r =")
  (b.indented fun b =>
    (b.line (m.encode ++ ".object")).indented fun b =>
      (b.addLines (leads "[" (e.pairs.map (Pair.text m)))).line "]").text

theorem Alias.spells_text (a : Alias) (h : a.fields ≠ []) : Spells a.tokens a.text.toList := by
  obtain ⟨name, fields⟩ := a
  obtain ⟨f, fields, rfl⟩ := List.exists_cons_of_ne_nil h
  have hhead : LineSpells [.word "type", .word "alias", .word name, .operator "="]
      ("type alias " ++ name ++ " =") :=
    spells_phrase (by simp) (by simp [phrase_toList, Token.spelling, List.intercalate])
  have hclose : LineSpells [.mark '\x7d'] "\x7d" := .mark '\x7d' rfl .nil
  have hlines := spells_leads spells_fieldText '\x7b' rfl "\x7b" rfl f fields
  have htext := ((Block.spelledBy_empty.line hhead).indented fun hb =>
    (hb.addLines hlines).line hclose).text
  simpa [Alias.tokens, Alias.text, itemTokens, List.flatMap] using htext

theorem Decoder.spells_text (m : Imports) (d : Decoder) :
    Spells (d.tokens m) (d.text m).toList := by
  have hsignature : LineSpells
      [.word d.name, .operator ":", .word (m.decode ++ ".Decoder"), .word d.type]
      (d.name ++ " : " ++ m.decode ++ ".Decoder " ++ d.type) :=
    spells_phrase (by simp) (by simp [phrase_toList, Token.spelling, List.intercalate])
  have hhead : LineSpells [.word d.name, .operator "="] (d.name ++ " =") :=
    spells_phrase (by simp) (by simp [phrase_toList, Token.spelling, List.intercalate])
  have hsucceed : LineSpells [.word (m.decode ++ ".succeed"), .word d.constructor]
      (m.decode ++ ".succeed " ++ d.constructor) :=
    spells_phrase (by simp) (by simp [phrase_toList, Token.spelling, List.intercalate])
  have hsteps : List.Forall₂ LineSpells
      (d.steps.map fun s => .operator "|>" :: s.tokens m) (d.steps.map (Step.text m)) := by
    rw [List.forall₂_map_left_iff, List.forall₂_map_right_iff, List.forall₂_same]
    exact fun s _ => s.spells_text m
  have htext := (((Block.spelledBy_empty.line hsignature).line hhead).indented fun hb =>
    (hb.line hsucceed).indented fun hb => hb.addLines hsteps).text
  simpa [Decoder.tokens, Decoder.text, List.flatMap] using htext

theorem Encoder.spells_text (m : Imports) (e : Encoder) (h : e.pairs ≠ [])
    (hargument : e.argument = "r") : Spells (e.tokens m) (e.text m).toList := by
  obtain ⟨name, type, argument, pairs⟩ := e
  obtain ⟨p, pairs, rfl⟩ := List.exists_cons_of_ne_nil h
  subst hargument
  have hsignature : LineSpells
      [.word name, .operator ":", .word type, .operator "->", .word (m.encode ++ ".Value")]
      (name ++ " : " ++ type ++ " -> " ++ m.encode ++ ".Value") :=
    spells_phrase (by simp) (by simp [phrase_toList, Token.spelling, List.intercalate])
  have hhead : LineSpells [.word name, .word "r", .operator "="] (name ++ " r =") :=
    spells_phrase (by simp) (by simp [phrase_toList, Token.spelling, List.intercalate])
  have hobject : LineSpells [.word (m.encode ++ ".object")] (m.encode ++ ".object") :=
    Spells.word_self _
  have hclose : LineSpells [.mark ']'] "]" := .mark ']' rfl .nil
  have hlines := spells_leads (Pair.spells_text m) '[' rfl "[" rfl p pairs
  have htext := (((Block.spelledBy_empty.line hsignature).line hhead).indented fun hb =>
    (hb.line hobject).indented fun hb => (hb.addLines hlines).line hclose).text
  simpa [Encoder.tokens, Encoder.text, itemTokens, List.flatMap] using htext

/-- The helper of every module. -/
def maybe (m : Imports) : Helper := ⟨"maybe", "encoder", "encoder", m.encode ++ ".null"⟩

theorem spells_maybeHelper (m : Imports) : LineSpells ((maybe m).tokens m) (maybeHelper m) := by
  have hname : Spells [.word "maybe", .operator ":"] "maybe :".toList :=
    spells_phrase (by simp) (by simp [phrase_toList, Token.spelling, List.intercalate])
  have hfunction : Spells [.word "a", .operator "->", .word (m.encode ++ ".Value")]
      ("a -> " ++ m.encode ++ ".Value").toList :=
    spells_phrase (by simp) (by simp [phrase_toList, Token.spelling, List.intercalate])
  have hresult : Spells [.operator "->", .word "Maybe", .word "a", .operator "->",
      .word (m.encode ++ ".Value")] ("-> Maybe a -> " ++ m.encode ++ ".Value").toList :=
    spells_phrase (by simp) (by simp [phrase_toList, Token.spelling, List.intercalate])
  have hhead : LineSpells [.word "maybe", .word "encoder", .operator "="] "maybe encoder =" :=
    spells_phrase (by simp) (by simp [phrase_toList, Token.spelling, List.intercalate])
  have hbody : LineSpells [.word "Maybe.map", .word "encoder", .operator ">>",
      .word "Maybe.withDefault", .word (m.encode ++ ".null")]
      ("Maybe.map encoder >> Maybe.withDefault " ++ m.encode ++ ".null") :=
    spells_phrase (by simp) (by simp [phrase_toList, Token.spelling, List.intercalate])
  have hsignature : LineSpells ([.word "maybe", .operator ":"] ++
      (parens [.word "a", .operator "->", .word (m.encode ++ ".Value")] ++
        [.operator "->", .word "Maybe", .word "a", .operator "->", .word (m.encode ++ ".Value")]))
      ("maybe : (a -> " ++ m.encode ++ ".Value) -> Maybe a -> " ++ m.encode ++ ".Value") := by
    have h := hname.append_blank ' ' rfl
      ((Form.spells_parens hfunction).append_blank ' ' rfl hresult)
    simpa [LineSpells] using h
  have htext := (((Block.spelledBy_empty.line hsignature).line hhead).indented fun hb =>
    hb.line hbody).text
  simpa [LineSpells, Helper.tokens, maybe, maybeHelper, parens] using htext

/-! ## Forms of types -/

namespace Ty

/-- A type without unknown parts. -/
def IsComplete : Ty → Prop
  | .primitive _ | .record _ => True
  | .list t | .nullable t => t.IsComplete
  | .incomplete _ | .foreign .. => False

/-- The type that stands innermost. -/
def leaf : Ty → Ty
  | .list t | .nullable t => t.leaf
  | t => t

/-- The form of a type, with names for what is neither a list nor nullable. -/
def form (leaf : Ty → String) : Ty → Form
  | .list t => .list (t.form leaf)
  | .nullable t => t.form leaf
  | t => .named (leaf t)

/-- The name of the decoder of a primitive or a record. -/
def decoderName (s : Schema) (decode : String) : Ty → String
  | .primitive p => decode ++ "." ++ p.codec
  | t => t.camelName s ++ "Decoder"

/-- The name of the encoder of a primitive or a record. -/
def encoderName (s : Schema) (encode : String) : Ty → String
  | .primitive p => encode ++ "." ++ p.codec
  | t => "encode" ++ t.name s

variable {t : Ty} (s : Schema)

theorem declared_eq (h : t.IsComplete) : t.declared s = .ok (t.form (name s)).typeText := by
  induction t with
  | primitive p => rfl
  | list t ih => rw [declared, ih h]; rfl
  | nullable t ih => exact ih h
  | record id => rfl
  | incomplete w => exact h.elim
  | foreign kind key name => exact h.elim

theorem decoder_eq (decode : String) (h : t.IsComplete) :
    t.decoder s decode = .ok ((t.form (decoderName s decode)).codecText decode) := by
  induction t with
  | primitive p => rfl
  | list t ih => rw [decoder, ih h]; rfl
  | nullable t ih => exact ih h
  | record id => rfl
  | incomplete w => exact h.elim
  | foreign kind key name => exact h.elim

theorem encoder_eq (encode : String) (h : t.IsComplete) :
    t.encoder s encode = .ok ((t.form (encoderName s encode)).codecText encode) := by
  induction t with
  | primitive p => rfl
  | list t ih => rw [encoder, ih h]; rfl
  | nullable t ih => exact ih h
  | record id => rfl
  | incomplete w => exact h.elim
  | foreign kind key name => exact h.elim

end Ty

/-! ## Fields -/

namespace Field

/-- The field in a type alias. -/
def entry (s : Schema) (f : Field) : String × Form :=
  (f.name, if f.isMaybe then .nullable (f.type.form (Ty.name s)) else f.type.form (Ty.name s))

/-- The step of a decoder that reads the field. -/
def step (s : Schema) (m : Imports) (f : Field) : Step where
  key := f.key
  value :=
    let value := f.type.form (Ty.decoderName s m.decode)
    if f.isMaybe then .nullable value else value
  optional := f.isMaybe

/-- The key of an encoder with the encoding of the field. -/
def pair (s : Schema) (m : Imports) (f : Field) : Pair where
  key := f.key
  helper := if f.isMaybe then some "maybe" else none
  value := f.type.form (Ty.encoderName s m.encode)
  field := f.name

variable {f : Field} (s : Schema) (m : Imports)

theorem declared_eq (h : f.type.IsComplete) : f.declared s = .ok (f.entry s).2.typeText := by
  rw [declared, Ty.declared_eq s h, entry]
  cases f.isMaybe <;> rfl

theorem decoder_eq (h : f.type.IsComplete) :
    f.decoder s m.decode = .ok ((f.step s m).value.codecText m.decode) := by
  rw [decoder, Ty.decoder_eq s m.decode h, step]
  cases f.isMaybe <;> rfl

theorem aliasLine_eq (h : f.type.IsComplete) : aliasLine s f = .ok (fieldText (f.entry s)) := by
  rw [aliasLine, declared_eq s h]
  rfl

theorem pipelineLine_eq (h : f.type.IsComplete) :
    pipelineLine s m f = .ok ((f.step s m).text m) := by
  rw [pipelineLine, decoder_eq s m h, Step.text, pipeline, fallback]
  rfl

theorem pairLine_eq (h : f.type.IsComplete) : pairLine s m f = .ok ((f.pair s m).text m) := by
  rw [pairLine, encoder, Ty.encoder_eq s m.encode h, Pair.text, pair]
  cases f.isMaybe <;> rfl

end Field

/-! ## Records -/

namespace Ty

/-- The type alias of a record. -/
def recordAlias (s : Schema) (t : Ty) : Alias := ⟨t.name s, (t.fields s).map (Field.entry s)⟩

/-- The decoder of a record, under a name. -/
def recordDecoder (s : Schema) (m : Imports) (t : Ty) (name : String) : Decoder :=
  ⟨name, t.name s, t.name s, (t.fields s).map (Field.step s m)⟩

/-- The encoder of a record, under a name. -/
def recordEncoder (s : Schema) (m : Imports) (t : Ty) (name : String) : Encoder :=
  ⟨name, t.name s, "r", (t.fields s).map (Field.pair s m)⟩

variable {s : Schema} {m : Imports} {t : Ty}

theorem typeAlias_eq (h : ∀ f ∈ t.fields s, f.type.IsComplete) :
    typeAlias s t = .ok (t.recordAlias s).text := by
  rw [typeAlias, mapM_eq_map fun f hf => Field.aliasLine_eq s (h f hf), Alias.text, recordAlias,
    List.map_map]
  rfl

theorem decoderText_eq (h : ∀ f ∈ t.fields s, f.type.IsComplete) (name : String) :
    decoderText s m t name = .ok ((t.recordDecoder s m name).text m) := by
  rw [decoderText, mapM_eq_map fun f hf => Field.pipelineLine_eq s m (h f hf), Decoder.text,
    recordDecoder, List.map_map]
  rfl

theorem encoderText_eq (h : ∀ f ∈ t.fields s, f.type.IsComplete) (name : String) :
    encoderText s m t name = .ok ((t.recordEncoder s m name).text m) := by
  rw [encoderText, mapM_eq_map fun f hf => Field.pairLine_eq s m (h f hf), Encoder.text,
    recordEncoder, List.map_map]
  rfl

end Ty

end ElmCodec.Elm
