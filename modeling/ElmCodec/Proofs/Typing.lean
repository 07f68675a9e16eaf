import ElmCodec.Proofs.Emission

/-!
# The types of a field's codecs

A field is written three times: its type in a type alias, its decoder in a pipeline, and its
encoder before the value that it is applied to.  The three texts put parentheses by different
rules.  A type is put in parentheses if it has a blank, the codec of a list always, and the
helper for a `Maybe` never.

To say that they agree, the texts are read in the same way, as names that are applied to
arguments (`Term.parse`).  An argument belongs to the function on its left unless parentheses
say otherwise, so a missing pair of them gives another term.  The names of the JSON libraries
and of the codecs of records have types (`DecodeName`, `EncodeName`), and an application has
the result type of its function (`Term.HasType`).

The main result is that the type of a field reads as a type `t`, its decoder as a decoder of
`t`, and its encoder as a function on `t` that is applied to the field (`Field.codecs_agree`).
-/

namespace ElmCodec.Elm

/-! ## Applications -/

/-- A name, or a function that is applied to an argument.  Types are read as terms, and so are
expressions. -/
inductive Term where
  | word (w : String)
  | apply (f x : Term)
deriving DecidableEq

namespace Term

/-- A term as the next argument of what stands before it, if there is something. -/
def after : Option Term → Term → Term
  | none, t => t
  | some f, t => .apply f t

/-- How far a term is read: what stands in the innermost open parenthesis, and what stands
before each open parenthesis, the innermost first. -/
structure Reading where
  inner : Option Term := none
  outer : List (Option Term) := []

/-- Reads one token. -/
def Reading.read (r : Reading) : Token → Option Reading
  | .word w => some ⟨some (after r.inner (.word w)), r.outer⟩
  | .mark '(' => some ⟨none, r.inner :: r.outer⟩
  | .mark ')' =>
    match r with
    | ⟨some t, before :: outer⟩ => some ⟨some (after before t), outer⟩
    | _ => none
  | _ => none

/-- The term that a text spells. -/
def parse (text : String) : Option Term := do
  let ts ← lex text.toList
  match ← ts.foldlM Reading.read {} with
  | ⟨some t, []⟩ => some t
  | _ => none

example : parse "maybe (E.list E.int) r.xs" = some (.apply (.apply (.word "maybe")
    (.apply (.word "E.list") (.word "E.int"))) (.word "r.xs")) := by decide
example : parse "List Maybe Int" =
    some (.apply (.apply (.word "List") (.word "Maybe")) (.word "Int")) := by decide

theorem parse_eq {ts : List Token} {text : String} {t : Term} (hspells : Spells ts text.toList)
    (hproper : AllProper ts) (hread : ts.foldlM Reading.read {} = some ⟨some t, []⟩) :
    parse text = some t := by
  simp [parse, lex_eq hspells hproper, hread]

/-- Parentheses are read as one argument. -/
theorem Reading.read_parens {ts : List Token} {t : Term} (r : Reading)
    (h : ∀ outer, ts.foldlM Reading.read ⟨none, outer⟩ = some ⟨some t, outer⟩) :
    (parens ts).foldlM Reading.read r = some ⟨some (after r.inner t), r.outer⟩ := by
  simp [parens, Reading.read, h]

end Term

/-! ## Terms of forms -/

namespace Form

/-- The term of a type. -/
def typeTerm : Form → Term
  | .named n => .word n
  | .list t => .apply (.word "List") t.typeTerm
  | .nullable t => .apply (.word "Maybe") t.typeTerm

/-- The term of a codec. -/
def codecTerm (module_ : String) : Form → Term
  | .named n => .word n
  | .list f => .apply (.word (module_ ++ ".list")) (f.codecTerm module_)
  | .nullable f => .apply (.word (module_ ++ ".nullable")) (f.codecTerm module_)

open Term

theorem read_typeTokens {f : Form} (h : IsWord f.leaf) :
    (∀ outer, (f.typeTokens false).foldlM Reading.read ⟨none, outer⟩ =
        some ⟨some f.typeTerm, outer⟩) ∧
      ∀ r, (f.typeTokens true).foldlM Reading.read r =
        some ⟨some (after r.inner f.typeTerm), r.outer⟩ := by
  -- As an argument a type of several words is in parentheses, where it stands by itself.
  have hwrap : ∀ {w : String} {t : Form}, (∀ r, (t.typeTokens true).foldlM Reading.read r =
        some ⟨some (after r.inner t.typeTerm), r.outer⟩) →
      ∀ outer, (.word w :: t.typeTokens true).foldlM Reading.read ⟨none, outer⟩ =
        some ⟨some (.apply (.word w) t.typeTerm), outer⟩ := by
    intro w t ht outer
    simp [Reading.read, after, ht]
  induction f with
  | named n =>
    have hplain : ∀ argument, typeTokens argument (.named n) = [.word n] := by
      intro argument
      simp [typeTokens, IsWord.not_mem (w := n) (c := ' ') h rfl]
    simp [hplain, Reading.read, after, typeTerm]
  | list t ih => exact ⟨hwrap (ih h).2, fun r => r.read_parens (hwrap (ih h).2)⟩
  | nullable t ih => exact ⟨hwrap (ih h).2, fun r => r.read_parens (hwrap (ih h).2)⟩

theorem read_codecTokens (module_ : String) (f : Form) (r : Reading) :
    (f.codecTokens module_).foldlM Reading.read r =
      some ⟨some (after r.inner (f.codecTerm module_)), r.outer⟩ := by
  induction f generalizing r with
  | named n => rfl
  | list f ih =>
    refine r.read_parens fun outer => ?_
    simp [Reading.read, after, ih, codecTerm]
  | nullable f ih =>
    refine r.read_parens fun outer => ?_
    simp [Reading.read, after, ih, codecTerm]

theorem parse_typeText {f : Form} (h : IsWord f.leaf) : parse f.typeText = some f.typeTerm :=
  parse_eq f.spells_typeText.1 (typeTokens_proper h false) ((read_typeTokens h).1 [])

theorem parse_codecText {f : Form} (h : IsWord f.leaf) {module_ : String} (hm : IsWord module_) :
    parse (f.codecText module_) = some (f.codecTerm module_) :=
  parse_eq (f.spells_codecText module_) (codecTokens_proper h hm) (f.read_codecTokens module_ {})

end Form

namespace Pair

/-- The text of the function that encodes a field. -/
def functionText (m : Imports) (p : Pair) : String :=
  match p.helper with
  | some helper => helper ++ " " ++ p.value.codecText m.encode
  | none => p.value.codecText m.encode

/-- The term of the function that encodes a field. -/
def functionTerm (m : Imports) (p : Pair) : Term :=
  match p.helper with
  | some helper => .apply (.word helper) (p.value.codecTerm m.encode)
  | none => p.value.codecTerm m.encode

open Term

/-- The function is applied to the field although it is not in parentheses. -/
theorem parse_functionText {m : Imports} {p : Pair} (hm : IsWord m.encode)
    (hhelper : ∀ h ∈ p.helper, IsWord h) (hvalue : IsWord p.value.leaf) (hfield : IsWord p.field) :
    parse (p.functionText m ++ " r." ++ p.field) =
      some (.apply (p.functionTerm m) (.word ("r." ++ p.field))) := by
  obtain ⟨key, helper, value, field⟩ := p
  have hspells := (value.spells_codecText m.encode).append_blank ' ' rfl
    (Spells.word_self ("r." ++ field))
  have hproper : AllProper (value.codecTokens m.encode ++ [.word ("r." ++ field)]) :=
    (Form.codecTokens_proper hvalue hm).append (.word (.prepend rfl hfield) .nil)
  cases helper with
  | none =>
    refine parse_eq (by simpa [functionText] using hspells) hproper ?_
    simp [Form.read_codecTokens, Reading.read, after, functionTerm]
  | some helper =>
    have happly := (Spells.word_self helper).append_blank ' ' rfl hspells
    refine parse_eq (by simpa [functionText] using happly) (.word (hhelper helper rfl) hproper) ?_
    simp [Form.read_codecTokens, Reading.read, after, functionTerm]

end Pair

/-! ## Types of expressions -/

/-- The type of an expression. -/
inductive ExprType where
  | value (t : Term)
  | function (argument result : ExprType)

/-- An expression has a type, where `names` gives the types of names.  A name may have several
types. -/
inductive Term.HasType (names : String → ExprType → Prop) : Term → ExprType → Prop where
  | word {w : String} {τ : ExprType} : names w τ → HasType names (.word w) τ
  | apply {f x : Term} {σ τ : ExprType} : HasType names f (.function σ τ) →
      HasType names x σ → HasType names (.apply f x) τ

/-- The decoders of a type. -/
def decoderOf (decode : String) (t : Term) : ExprType :=
  .value (.apply (.word (decode ++ ".Decoder")) t)

/-- The encoders of a type, which are functions. -/
def encoderOf (encode : String) (t : Term) : ExprType :=
  .function (.value t) (.value (.word (encode ++ ".Value")))

/-- The names that a library of decoders and one of encoders have in common. -/
inductive LibraryName (module_ : String) (codec : Term → ExprType) : String → ExprType → Prop where
  | bool : LibraryName module_ codec (module_ ++ ".bool") (codec (.word "Bool"))
  | int : LibraryName module_ codec (module_ ++ ".int") (codec (.word "Int"))
  | float : LibraryName module_ codec (module_ ++ ".float") (codec (.word "Float"))
  | string : LibraryName module_ codec (module_ ++ ".string") (codec (.word "String"))
  | list (t : Term) : LibraryName module_ codec (module_ ++ ".list")
      (.function (codec t) (codec (.apply (.word "List") t)))

/-- The name with a small first letter. -/
def decapitalized (name : String) : String :=
  match name.toList with
  | [] => ""
  | c :: cs => String.ofList (c.toLower :: cs)

/-- The names of decoders with their types. -/
inductive DecodeName (s : Schema) (decode : String) : String → ExprType → Prop where
  | library {w : String} {τ : ExprType} : LibraryName decode (decoderOf decode) w τ →
      DecodeName s decode w τ
  | nullable (t : Term) : DecodeName s decode (decode ++ ".nullable")
      (.function (decoderOf decode t) (decoderOf decode (.apply (.word "Maybe") t)))
  | record {r : Record} : r ∈ s →
      DecodeName s decode (decapitalized r.name ++ "Decoder") (decoderOf decode (.word r.name))

/-- The names of encoders with their types. -/
inductive EncodeName (s : Schema) (encode : String) : String → ExprType → Prop where
  | library {w : String} {τ : ExprType} : LibraryName encode (encoderOf encode) w τ →
      EncodeName s encode w τ
  | maybe (t : Term) : EncodeName s encode "maybe"
      (.function (encoderOf encode t) (encoderOf encode (.apply (.word "Maybe") t)))
  | record {r : Record} : r ∈ s →
      EncodeName s encode ("encode" ++ r.name) (encoderOf encode (.word r.name))

/-! ## Types with names -/

/-- Whether a name is an ASCII capital with ASCII letters and digits after it. -/
def isTypeName (name : String) : Bool :=
  match name.toList with
  | [] => false
  | c :: cs => c.isUpper && cs.all Char.isAlphanum

/-- The elements of lists and nullables are known, down to primitive types that have codecs and
records that have type names. -/
def Ty.IsNamed (s : Schema) : Ty → Prop
  | .primitive p => p ∈ [.bool, .int, .float, .string]
  | .list t | .nullable t => t.IsNamed s
  | .record id => isTypeName (s.nameOf id) = true
  | .incomplete _ | .foreign .. => False

theorem isAlphanum_of_isTypeName {name : String} (h : isTypeName name = true) :
    name.toList ≠ [] ∧ ∀ c ∈ name.toList, c.isAlphanum = true := by
  unfold isTypeName at h
  cases hname : name.toList with
  | nil => simp [hname] at h
  | cons c cs =>
    simp only [hname, Bool.and_eq_true, List.all_eq_true] at h
    refine ⟨List.cons_ne_nil c cs, List.forall_mem_cons.mpr ⟨?_, h.2⟩⟩
    change (c.isUpper || c.isLower || c.isDigit) = true
    simp [h.1]

theorem isWord_of_isTypeName {name : String} (h : isTypeName name = true) : IsWord name := by
  obtain ⟨hne, hletters⟩ := isAlphanum_of_isTypeName h
  rw [isWord_iff]
  refine ⟨hne, fun c hc => ?_⟩
  simp [isNameChar, hletters c hc]

theorem lowerHead_of_isTypeName {name : String} (h : isTypeName name = true) :
    String.ofList (Text.lowerHead name.toList) = decapitalized name := by
  unfold isTypeName at h
  unfold decapitalized
  cases hname : name.toList with
  | nil => rfl
  | cons c cs =>
    simp only [hname, Bool.and_eq_true] at h
    have hascii : c.toNat < 0x80 := by
      have hupper : 'A'.toNat ≤ c.toNat ∧ c.toNat ≤ 'Z'.toNat := of_decide_eq_true h.1
      exact Nat.lt_of_le_of_lt hupper.2 (by decide)
    simp [Text.lowerHead, Text.lowerChar, hascii]

/-- A record with a type name is defined. -/
theorem exists_record_of_isTypeName {s : Schema} {id : RecordId}
    (h : isTypeName (s.nameOf id) = true) : ∃ r ∈ s, r.name = s.nameOf id := by
  unfold Schema.nameOf at h ⊢
  cases hid : s[id]? with
  | none => rw [hid] at h; cases h
  | some r => exact ⟨r, List.mem_of_getElem? hid, rfl⟩

namespace Ty

variable {s : Schema} {t : Ty}

theorem IsNamed.isComplete (h : t.IsNamed s) : t.IsComplete := by
  induction t with
  | primitive p => trivial
  | record id => trivial
  | list t ih => exact ih h
  | nullable t ih => exact ih h
  | incomplete w => exact h.elim
  | foreign kind key name => exact h.elim

/-- The names that stand innermost in the three texts of a type are words. -/
theorem IsNamed.words (h : t.IsNamed s) :
    IsWord (t.leaf.name s) ∧ ∀ module_, IsWord module_ →
      IsWord (t.leaf.decoderName s module_) ∧ IsWord (t.leaf.encoderName s module_) := by
  induction t with
  | primitive p =>
    have hp : IsWord p.name ∧ p.codec.toList.all isNameChar = true := by
      simp only [IsNamed, List.mem_cons, List.not_mem_nil, or_false] at h
      rcases h with rfl | rfl | rfl | rfl <;> exact ⟨rfl, rfl⟩
    refine ⟨hp.1, fun module_ hm => ?_⟩
    have hcodec : IsWord (module_ ++ "." ++ p.codec) := (hm.append (b := ".") rfl).append hp.2
    exact ⟨hcodec, hcodec⟩
  | record id =>
    have hname : IsWord (s.nameOf id) := isWord_of_isTypeName h
    exact ⟨hname, fun module_ _ => ⟨isWord_decoderName hname, .prepend rfl hname⟩⟩
  | list t ih => exact ih h
  | nullable t ih => exact ih h
  | incomplete w => exact h.elim
  | foreign kind key name => exact h.elim

/-- A codec has the type for the type it is a codec of, if the names of records have. -/
theorem IsNamed.hasType_codecTerm {names : String → ExprType → Prop} {module_ : String}
    {codec : Term → ExprType} {codecName : Ty → String}
    (hlibrary : ∀ {w τ}, LibraryName module_ codec w τ → names w τ)
    (hprimitive : ∀ p, codecName (.primitive p) = module_ ++ "." ++ p.codec)
    (hrecord : ∀ id, isTypeName (s.nameOf id) = true →
      names (codecName (.record id)) (codec (.word (s.nameOf id))))
    (h : t.IsNamed s) :
    ((t.form codecName).codecTerm module_).HasType names (codec (t.form (name s)).typeTerm) := by
  induction t with
  | primitive p =>
    refine .word (hlibrary ?_)
    rw [hprimitive, String.append_assoc]
    simp only [IsNamed, List.mem_cons, List.not_mem_nil, or_false] at h
    rcases h with rfl | rfl | rfl | rfl
    · exact .bool
    · exact .int
    · exact .float
    · exact .string
  | record id => exact .word (hrecord id h)
  | list t ih => exact .apply (.word (hlibrary (.list _))) (ih h)
  | nullable t ih => exact ih h
  | incomplete w => exact h.elim
  | foreign kind key name => exact h.elim

theorem IsNamed.hasType_decoder (decode : String) (h : t.IsNamed s) :
    ((t.form (decoderName s decode)).codecTerm decode).HasType (DecodeName s decode)
      (decoderOf decode (t.form (name s)).typeTerm) := by
  refine h.hasType_codecTerm .library (fun p => rfl) fun id hid => ?_
  obtain ⟨r, hr, hname⟩ := exists_record_of_isTypeName hid
  have hdecoder : decoderName s decode (.record id) = decapitalized r.name ++ "Decoder" := by
    rw [hname, ← lowerHead_of_isTypeName hid]
    rfl
  rw [hdecoder, ← hname]
  exact .record hr

theorem IsNamed.hasType_encoder (encode : String) (h : t.IsNamed s) :
    ((t.form (encoderName s encode)).codecTerm encode).HasType (EncodeName s encode)
      (encoderOf encode (t.form (name s)).typeTerm) := by
  refine h.hasType_codecTerm .library (fun p => rfl) fun id hid => ?_
  obtain ⟨r, hr, hname⟩ := exists_record_of_isTypeName hid
  have hencoder : encoderName s encode (.record id) = "encode" ++ r.name := by
    rw [hname]
    rfl
  rw [hencoder, ← hname]
  exact .record hr

end Ty

/-! ## Fields -/

namespace Field

variable {s : Schema} {f : Field}

theorem encoder_eq (m : Imports) (h : f.type.IsComplete) :
    f.encoder s m.encode = .ok ((f.pair s m).functionText m) := by
  rw [encoder, Ty.encoder_eq s m.encode h, Pair.functionText, pair]
  cases f.isMaybe <;> rfl

theorem hasType_step (m : Imports) (h : f.type.IsNamed s) :
    ((f.step s m).value.codecTerm m.decode).HasType (DecodeName s m.decode)
      (decoderOf m.decode (f.entry s).2.typeTerm) := by
  have htype := h.hasType_decoder m.decode
  rw [step, entry]
  cases f.isMaybe with
  | false => exact htype
  | true => exact .apply (.word (.nullable _)) htype

theorem hasType_pair (m : Imports) (h : f.type.IsNamed s) :
    ((f.pair s m).functionTerm m).HasType (EncodeName s m.encode)
      (encoderOf m.encode (f.entry s).2.typeTerm) := by
  have htype := h.hasType_encoder m.encode
  rw [Pair.functionTerm, pair, entry]
  cases f.isMaybe with
  | false => exact htype
  | true => exact .apply (.word (.maybe _)) htype

/-- The type, the decoder and the encoder of a field are about one type. -/
theorem codecs_agree (h : f.type.IsNamed s) :
    ∃ t : Term, (∃ text, f.declared s = .ok text ∧ Term.parse text = some t) ∧
      (∀ decode, IsWord decode → ∃ text x, f.decoder s decode = .ok text ∧
        Term.parse text = some x ∧ x.HasType (DecodeName s decode) (decoderOf decode t)) ∧
      ∀ m : Imports, IsWord m.encode → IsWord f.name → ∃ text g, f.encoder s m.encode = .ok text ∧
        pairLine s m f = .ok ("( " ++ literal f.key ++ ", " ++ (text ++ " r." ++ f.name) ++ " )") ∧
        Term.parse (text ++ " r." ++ f.name) = some (.apply g (.word ("r." ++ f.name))) ∧
        g.HasType (EncodeName s m.encode) (encoderOf m.encode t) := by
  have hcomplete := h.isComplete
  refine ⟨(f.entry s).2.typeTerm, ⟨_, declared_eq s hcomplete, ?_⟩, fun decode hdecode => ?_,
    fun m hencode hname => ?_⟩
  · refine Form.parse_typeText ?_
    rw [leaf_entry]
    exact h.words.1
  · refine ⟨_, _, decoder_eq s { decode } hcomplete, Form.parse_codecText ?_ hdecode,
      hasType_step { decode } h⟩
    rw [leaf_step]
    exact (h.words.2 decode hdecode).1
  · refine ⟨_, _, encoder_eq m hcomplete, ?_, Pair.parse_functionText hencode ?_ ?_ hname,
      hasType_pair m h⟩
    · rw [pairLine, encoder_eq m hcomplete]
      simp [String.append_assoc]
    · intro helper hhelper
      cases hmaybe : f.isMaybe <;> simp [pair, hmaybe] at hhelper
      exact hhelper ▸ rfl
    · rw [leaf_pair]
      exact (h.words.2 m.encode hencode).2

/-- A grid of cells in rows.  It may be missing as a whole, and so may each of its rows. -/
def grid : Field where
  key := "grid"
  name := "cells"
  type := .list (.nullable (.list (.record 0)))
  omittable := true

theorem grid_codecs_agree :
    grid.type.IsNamed [⟨"Cell2D", []⟩] ∧ IsWord "D" ∧ IsWord "E" ∧ IsWord grid.name ∧
      ∃ t x g, Term.parse "Maybe (List (List Cell2D))" = some t ∧
        Term.parse "(D.nullable (D.list (D.list cell2DDecoder)))" = some x ∧
        x.HasType (DecodeName [⟨"Cell2D", []⟩] "D") (decoderOf "D" t) ∧
        Term.parse "maybe (E.list (E.list encodeCell2D)) r.cells" =
          some (.apply g (.word "r.cells")) ∧
        g.HasType (EncodeName [⟨"Cell2D", []⟩] "E") (encoderOf "E" t) := by
  have hnamed : grid.type.IsNamed [⟨"Cell2D", []⟩] :=
    show isTypeName "Cell2D" = true by decide
  obtain ⟨t, ⟨_, hdeclared, ht⟩, hdecoder, hencoder⟩ := codecs_agree hnamed
  obtain ⟨_, x, hx, hparse, hxtype⟩ := hdecoder "D" rfl
  obtain ⟨_, g, hg, -, happly, hgtype⟩ := hencoder {} rfl rfl
  cases hdeclared
  cases hx
  cases hg
  exact ⟨hnamed, rfl, rfl, rfl, t, x, g, ht, hparse, hxtype, happly, hgtype⟩

end Field

end ElmCodec.Elm
