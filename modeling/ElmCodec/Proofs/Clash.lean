import ElmCodec.Proofs.Closed
import ElmCodec.Proofs.Lines
import ElmCodec.Proofs.Naming
import ElmCodec.Proofs.Renames
import ElmCodec.Proofs.Typing
import Mathlib.Data.List.Infix
import Mathlib.Data.List.Nodup

/-!
# Names that clash

A module declares one type alias for each record, and two codecs.  Nothing looks for a name
that is already taken, so it depends on the names of the records, and before them on the names
of the classes, whether two declarations have one name.

The codecs of nested records are named in two ways.  A decoder has the name of its record with
a small first letter and `Decoder` after it, and an encoder has `encode` before the name of its
record.  Records with different names may meet in between: the decoder of `EncodeUser` and the
encoder of `UserDecoder` are both called `encodeUserDecoder`.  There is no other way
(`decoderName_eq_encoderName_iff`), so this is the only clash of declared values
(`Resolution.declared_values_nodup_iff`).

The names of records clash if a rename table gives one name twice, or if classes have names
that are spelled alike as type names: `HTMLView` and `HtmlView` are both spelled `HtmlView`
(`Source.Program.record_names_nodup_iff`).
-/

namespace ElmCodec

namespace Elm

/-! ## Names of codecs -/

theorem exists_of_isTypeName {name : String} (h : isTypeName name = true) :
    ∃ c cs, name.toList = c :: cs ∧ c.isUpper = true ∧
      (decapitalized name).toList = c.toLower :: cs := by
  unfold isTypeName at h
  unfold decapitalized
  cases hname : name.toList with
  | nil => simp [hname] at h
  | cons c cs =>
    simp only [hname, Bool.and_eq_true] at h
    exact ⟨c, cs, rfl, h.1, String.toList_ofList⟩

theorem decapitalized_inj {a b : String} (ha : isTypeName a = true) (hb : isTypeName b = true)
    (h : decapitalized a = decapitalized b) : a = b := by
  obtain ⟨c, cs, hc, hcupper, hclower⟩ := exists_of_isTypeName ha
  obtain ⟨d, ds, hd, hdupper, hdlower⟩ := exists_of_isTypeName hb
  rw [h, hdlower] at hclower
  obtain ⟨hhead, htail⟩ := List.cons.inj hclower
  have hsame : c = d := by
    rw [← Text.toUpper_toLower_of_isUpper hcupper, ← hhead,
      Text.toUpper_toLower_of_isUpper hdupper]
  exact String.toList_inj.mp (by rw [hc, hd, hsame, htail])

theorem decapitalized_encode (x : String) : decapitalized ("Encode" ++ x) = "encode" ++ x := by
  refine String.toList_inj.mp ?_
  simp [decapitalized]

/-- The decoder of a record has the name of the encoder of another one only if the two names
share what `Encode` stands before and `Decoder` after. -/
theorem decoderName_eq_encoderName_iff {a b : String} (ha : isTypeName a = true) :
    decapitalized a ++ "Decoder" = "encode" ++ b ↔
      ∃ x, a = "Encode" ++ x ∧ b = x ++ "Decoder" := by
  constructor
  · intro h
    obtain ⟨c, cs, hc, hupper, hlower⟩ := exists_of_isTypeName ha
    have hlist : c.toLower :: (cs ++ "Decoder".toList) = 'e' :: ("ncode".toList ++ b.toList) := by
      simpa [hlower] using congrArg String.toList h
    obtain ⟨hhead, htail⟩ := List.cons.inj hlist
    have hcapital : c = 'E' := by
      rw [← Text.toUpper_toLower_of_isUpper hupper, hhead]
      rfl
    -- No letter of `ncode` begins `Decoder`, so `cs` is not shorter than `ncode`.
    have hsplit : ∃ xs, cs = "ncode".toList ++ xs ∧ b.toList = xs ++ "Decoder".toList := by
      obtain ⟨xs, hxs, hb⟩ | ⟨xs, hxs, hb⟩ := List.append_eq_append_iff.mp htail
      · cases xs with
        | nil => exact ⟨[], by simpa using hxs.symm, by simpa using hb.symm⟩
        | cons x xs =>
          have hx : x = 'D' := (List.cons.inj hb).1.symm
          have hmem : x ∈ "ncode".toList := by simp [hxs]
          exact absurd (hx ▸ hmem) (by decide)
      · exact ⟨xs, hxs, hb⟩
    obtain ⟨xs, hcs, hb⟩ := hsplit
    refine ⟨String.ofList xs, String.toList_inj.mp ?_, String.toList_inj.mp ?_⟩
    · simp [hc, hcapital, hcs]
    · simp [hb]
  · rintro ⟨x, rfl, rfl⟩
    rw [decapitalized_encode, String.append_assoc]

/-- The names of the codecs of nested records with type names clash only in one way. -/
theorem nodup_codecNames_iff {names : List String} (hnames : ∀ n ∈ names, isTypeName n = true) :
    (names.flatMap fun n => [decapitalized n ++ "Decoder", "encode" ++ n]).Nodup ↔
      names.Nodup ∧ ∀ x, ¬ ("Encode" ++ x ∈ names ∧ x ++ "Decoder" ∈ names) := by
  have hperm : (names.map (fun n => decapitalized n ++ "Decoder") ++ names.map ("encode" ++ ·)).Perm
      (names.flatMap fun n => [decapitalized n ++ "Decoder", "encode" ++ n]) := by
    rw [List.map_eq_flatMap, List.map_eq_flatMap]
    exact List.flatMap_append_perm ..
  have hencoders : (names.map ("encode" ++ ·)).Nodup ↔ names.Nodup :=
    List.nodup_map_iff fun _ _ h => String.append_right_inj _ |>.mp h
  rw [← hperm.nodup_iff, List.nodup_append, hencoders]
  simp only [List.forall_mem_map]
  constructor
  · rintro ⟨-, hnodup, hapart⟩
    refine ⟨hnodup, fun x ⟨hencode, hdecoder⟩ => hapart _ hencode _ hdecoder ?_⟩
    exact (decoderName_eq_encoderName_iff (hnames _ hencode)).mpr ⟨x, rfl, rfl⟩
  · rintro ⟨hnodup, hapart⟩
    refine ⟨hnodup.map_on fun a ha b hb h => ?_, hnodup, fun a ha b hb h => ?_⟩
    · exact decapitalized_inj (hnames a ha) (hnames b hb) (String.append_left_inj _ |>.mp h)
    · obtain ⟨x, rfl, rfl⟩ := (decoderName_eq_encoderName_iff (hnames a ha)).mp h
      exact hapart x ⟨ha, hb⟩

/-! ## Declared values -/

/-- The name of the value that a text declares: it stands first, before the type. -/
def declaredValue? (text : String) : Option String :=
  let name := text.toList.takeWhile (· != ' ')
  if " : ".toList.isPrefixOf (text.toList.drop name.length) then some (String.ofList name) else none

example : declaredValue? "encode : User -> E.Value\nencode r =" = some "encode" := by decide
example : declaredValue? "type alias User =\n    \x7b name : String" = none := by decide

theorem declaredValue?_eq {name : String} (h : ' ' ∉ name.toList) (rest : String) :
    declaredValue? (name ++ " " ++ rest) =
      if ": ".toList.isPrefixOf rest.toList then some name else none := by
  have htake : (name ++ " " ++ rest).toList.takeWhile (· != ' ') = name.toList := by
    have hchars : ∀ c ∈ name.toList, (c != ' ') = true := by
      intro c hc
      simpa using fun heq : c = ' ' => h (heq ▸ hc)
    rw [String.toList_append, String.toList_append, List.append_assoc,
      List.takeWhile_append_of_pos hchars]
    simp
  have hdrop : (name ++ " " ++ rest).toList.drop name.toList.length = ' ' :: rest.toList := by
    simp
  simp only [declaredValue?, htake, hdrop, String.ofList_toList]
  rfl

theorem exists_joinWith_cons (sep l : String) (ls : List String) :
    ∃ rest, Text.joinWith sep (l :: ls) = l ++ rest := by
  cases ls with
  | nil => exact ⟨"", by simp [Text.joinWith]⟩
  | cons l' ls =>
    refine ⟨sep ++ Text.joinWith sep (l' :: ls), ?_⟩
    simp [Text.joinWith, String.append_assoc]

/-- A text that begins with a name and a type declares the name. -/
theorem declaredValue?_joinWith {name first type : String} (h : ' ' ∉ name.toList)
    (hfirst : first = name ++ " : " ++ type) (lines : List String) :
    declaredValue? (Text.joinWith "\n" (first :: lines)) = some name := by
  obtain ⟨rest, hrest⟩ := exists_joinWith_cons "\n" first lines
  have htext : first ++ rest = name ++ " " ++ (": " ++ type ++ rest) :=
    String.toList_inj.mp (by simp [hfirst])
  rw [hrest, htext, declaredValue?_eq h, if_pos (by simp)]

theorem Alias.declaredValue?_text (a : Alias) : declaredValue? a.text = none := by
  rw [Alias.text_eq, Alias.lines]
  generalize _ ++ [Block.atLevel 1 "\x7d"] = lines
  obtain ⟨rest, hrest⟩ := exists_joinWith_cons "\n" ("type alias " ++ a.name ++ " =") lines
  have htext : "type alias " ++ a.name ++ " =" ++ rest =
      "type" ++ " " ++ ("alias " ++ a.name ++ " =" ++ rest) :=
    String.toList_inj.mp (by simp)
  rw [hrest, htext, declaredValue?_eq (by decide), if_neg (by simp)]

theorem Decoder.declaredValue?_text (m : Imports) {d : Decoder} (h : ' ' ∉ d.name.toList) :
    declaredValue? (d.text m) = some d.name := by
  rw [Decoder.text_eq]
  exact declaredValue?_joinWith h (by simp only [String.append_assoc]; rfl) _

theorem Encoder.declaredValue?_text (m : Imports) {e : Encoder} (h : ' ' ∉ e.name.toList) :
    declaredValue? (e.text m) = some e.name := by
  rw [Encoder.text_eq]
  exact declaredValue?_joinWith h (by simp only [String.append_assoc]; rfl) _

theorem declaredValue?_maybeHelper (m : Imports) :
    declaredValue? (maybeHelper m) = some "maybe" := by
  have hfirst : "maybe : (a -> " ++ m.encode ++ ".Value) -> Maybe a -> " ++ m.encode ++ ".Value" =
      "maybe" ++ " : " ++
        ("(a -> " ++ m.encode ++ ".Value) -> Maybe a -> " ++ m.encode ++ ".Value") :=
    String.toList_inj.mp (by simp)
  rw [maybeHelper_eq]
  exact declaredValue?_joinWith (by decide) hfirst _

namespace Resolution

variable {r : Resolution} {m : Imports} {banner : List String} {text : String}

/-- The declarations of a module declare the values in `declaredNames`, in this order. -/
theorem filterMap_declaredTexts (m : Imports) (hrecords : ∀ t ∈ r.types, ∃ id, t = .record id)
    (hnames : ∀ t ∈ r.nested, isTypeName (t.name r.schema) = true) :
    (r.declaredTexts m).filterMap declaredValue? = r.declaredNames m := by
  have hblank : ∀ d ∈ r.declared m, ' ' ∉ d.decoder.name.toList ∧ ' ' ∉ d.encoder.name.toList := by
    intro d hd
    cases List.mem_cons.mp hd with
    | inl hroot =>
      subst hroot
      exact ⟨show ' ' ∉ "decoder".toList by decide, show ' ' ∉ "encode".toList by decide⟩
    | inr hnested =>
      obtain ⟨t, ht, rfl⟩ := List.mem_map.mp hnested
      obtain ⟨id, rfl⟩ := hrecords t (List.mem_cons_of_mem _ ht)
      have hword := isWord_of_isTypeName (hnames _ ht)
      exact ⟨(isWord_decoderName hword).not_mem rfl, (IsWord.prepend rfl hword).not_mem rfl⟩
  have haliases : ((r.declared m).map (·.type.text)).filterMap declaredValue? = [] := by
    simp [List.filterMap_map, Alias.declaredValue?_text]
  have hcodecs : ((r.declared m).flatMap fun d => [d.decoder.text m, d.encoder.text m]).filterMap
      declaredValue? = (r.declared m).flatMap fun d => [d.decoder.name, d.encoder.name] := by
    rw [List.filterMap_flatMap]
    refine List.flatMap_congr fun d hd => ?_
    obtain ⟨hdecoder, hencoder⟩ := hblank d hd
    simp [Decoder.declaredValue?_text m hdecoder, Encoder.declaredValue?_text m hencoder]
  rw [declaredTexts, List.filterMap_append, List.filterMap_append, haliases, hcodecs]
  simp [declaredNames, declaredValue?_maybeHelper, maybe]

theorem nestedNames_eq (m : Imports) (hrecords : ∀ t ∈ r.types, ∃ id, t = .record id)
    (hnames : ∀ t ∈ r.nested, isTypeName (t.name r.schema) = true) :
    r.nestedNames m = (r.nested.map (Ty.name r.schema)).flatMap fun n =>
      [decapitalized n ++ "Decoder", "encode" ++ n] := by
  rw [nestedNames, List.flatMap_map]
  refine List.flatMap_congr fun t ht => ?_
  obtain ⟨id, rfl⟩ := hrecords t (List.mem_cons_of_mem _ ht)
  rw [decoderName_record, encoderName_record, lowerHead_of_isTypeName (hnames _ ht)]

/-- The codecs of nested records do not have the names of other declared values. -/
theorem not_mem_nestedNames (m : Imports) (hrecords : ∀ t ∈ r.types, ∃ id, t = .record id)
    (hnames : ∀ t ∈ r.nested, isTypeName (t.name r.schema) = true) :
    ∀ n ∈ ["decoder", "encode", "maybe"], n ∉ r.nestedNames m := by
  intro n hn hmem
  obtain ⟨t, ht, hcodec⟩ := List.mem_flatMap.mp hmem
  obtain ⟨id, rfl⟩ := hrecords t (List.mem_cons_of_mem _ ht)
  simp only [List.mem_cons, List.not_mem_nil, or_false] at hcodec
  rcases hcodec with rfl | rfl
  · exact decoderName_not_mem id hn
  · have hname := hnames _ ht
    rw [name_eq_of_encoderName_mem hn] at hname
    cases hname

theorem nodup_declaredNames_iff (hrecords : ∀ t ∈ r.types, ∃ id, t = .record id)
    (hnames : ∀ t ∈ r.nested, isTypeName (t.name r.schema) = true) :
    (r.declaredNames m).Nodup ↔ (r.nestedNames m).Nodup := by
  have hfixed := not_mem_nestedNames m hrecords hnames
  have hperm : (r.declaredNames m).Perm (["decoder", "encode", "maybe"] ++ r.nestedNames m) := by
    rw [declaredNames_eq]
    exact .append_left ["decoder", "encode"] List.perm_append_comm
  rw [hperm.nodup_iff, List.nodup_append]
  refine ⟨fun h => h.2.1, fun h => ⟨by decide, h, fun a ha b hb hab => ?_⟩⟩
  exact hfixed a ha (hab ▸ hb)

/-- The values that a module declares have different names if the nested records have, and if
none is called `Encode` with a name and another one this name with `Decoder`. -/
theorem declared_values_nodup_iff (hrecords : ∀ t ∈ r.types, ∃ id, t = .record id)
    (hnames : ∀ t ∈ r.nested, isTypeName (t.name r.schema) = true)
    (hemit : emit m r banner = .ok text) :
    ∃ declarations, r.HasParts m banner
        ([header m (r.root.name r.schema), Text.joinWith "\n" banner] ++ declarations) ∧
      declarations.filterMap declaredValue? = r.declaredNames m ∧
      ((declarations.filterMap declaredValue?).Nodup ↔
        (r.nested.map (Ty.name r.schema)).Nodup ∧
          ∀ x, ¬ ("Encode" ++ x ∈ r.nested.map (Ty.name r.schema) ∧
            x ++ "Decoder" ∈ r.nested.map (Ty.name r.schema))) := by
  have hvalues := filterMap_declaredTexts m hrecords hnames
  refine ⟨r.declaredTexts m, hasParts_of_emit hrecords hemit, hvalues, ?_⟩
  rw [hvalues, nodup_declaredNames_iff hrecords hnames, nestedNames_eq m hrecords hnames,
    nodup_codecNames_iff]
  exact List.forall_mem_map.mpr hnames

/-- An account with two nested records. -/
def account (first second : String) : Resolution where
  schema := [
    ⟨"Account", [⟨"owner", "owner", .record 1, false⟩, ⟨"reader", "reader", .record 2, true⟩]⟩,
    ⟨first, [⟨"name", "name", .primitive .string, false⟩]⟩,
    ⟨second, [⟨"id", "id", .primitive .int, false⟩]⟩]
  root := .record 0
  nested := [.record 1, .record 2]

theorem account_isRecord (first second : String) :
    ∀ t ∈ (account first second).types, ∃ id, t = .record id := by
  simp [types, account]

theorem account_declared_values_nodup :
    (∀ t ∈ (account "EncodeUser" "DecoderUser").nested,
        isTypeName (t.name (account "EncodeUser" "DecoderUser").schema) = true) ∧
      ∃ text declarations, emit {} (account "EncodeUser" "DecoderUser") [] = .ok text ∧
        (account "EncodeUser" "DecoderUser").HasParts {} []
          ([header {} "Account", ""] ++ declarations) ∧
        (declarations.filterMap declaredValue?).Nodup := by
  have hnames : ∀ t ∈ (account "EncodeUser" "DecoderUser").nested,
      isTypeName (t.name (account "EncodeUser" "DecoderUser").schema) = true := by decide
  have hapart : ∀ n ∈ ["EncodeUser", "DecoderUser"], ¬ "Decoder".toList <:+ n.toList := by decide
  cases htext : emit {} (account "EncodeUser" "DecoderUser") [] with
  | error e => cases htext
  | ok text =>
    obtain ⟨declarations, hparts, -, hnodup⟩ :=
      declared_values_nodup_iff (account_isRecord _ _) hnames htext
    refine ⟨hnames, text, declarations, rfl, hparts, hnodup.mpr ⟨by decide, fun x hx => ?_⟩⟩
    exact hapart _ hx.2 ⟨x.toList, by rw [String.toList_append]⟩

/-- Three records with different type names, and one name for two codecs. -/
theorem account_declared_values_clash :
    (∀ t ∈ (account "EncodeUser" "UserDecoder").types,
        isTypeName (t.name (account "EncodeUser" "UserDecoder").schema) = true) ∧
      ((account "EncodeUser" "UserDecoder").types.map
        (Ty.name (account "EncodeUser" "UserDecoder").schema)).Nodup ∧
      ∃ text declarations, emit {} (account "EncodeUser" "UserDecoder") [] = .ok text ∧
        (account "EncodeUser" "UserDecoder").HasParts {} []
          ([header {} "Account", ""] ++ declarations) ∧
        declarations.filterMap declaredValue? =
          ["decoder", "encode", "encodeUserDecoder", "encodeEncodeUser", "userDecoderDecoder",
            "encodeUserDecoder", "maybe"] ∧
        ¬ (declarations.filterMap declaredValue?).Nodup := by
  refine ⟨by decide, by decide, ?_⟩
  have hrecords := account_isRecord "EncodeUser" "UserDecoder"
  have hvalues := filterMap_declaredTexts {} hrecords (by decide)
  cases htext : emit {} (account "EncodeUser" "UserDecoder") [] with
  | error e => cases htext
  | ok text =>
    refine ⟨text, _, rfl, hasParts_of_emit hrecords htext, hvalues.trans (by decide), ?_⟩
    rw [hvalues]
    decide

end Resolution

end Elm

/-! ## Names of records -/

namespace Naming

/-- A type name in which no abbreviation stands. -/
structure IsPlain (n : Naming) (name : String) : Prop where
  isTypeName : Elm.isTypeName name = true
  apart : ∀ a ∈ n.abbreviations, a ≠ "" → ¬ a.toList <:+: name.toList

instance (n : Naming) (name : String) : Decidable (n.IsPlain name) :=
  decidable_of_iff (Elm.isTypeName name = true ∧
      ∀ a ∈ n.abbreviations, a ≠ "" → ¬ a.toList <:+: name.toList)
    ⟨fun h => ⟨h.1, h.2⟩, fun h => ⟨h.1, h.2⟩⟩

example : standard.IsPlain "Cell2D" ∧ ¬ standard.IsPlain "HTMLView" := by decide +kernel

/-- A plain type name is kept. -/
theorem IsPlain.typeName_eq {n : Naming} {name : String} (h : n.IsPlain name) :
    n.typeName name = name := by
  obtain ⟨c, cs, hname, hupper, -⟩ := Elm.exists_of_isTypeName h.isTypeName
  have hjoined : joined name.toList = name.toList := by
    refine joined_eq_self fun hmem => ?_
    cases (Elm.isAlphanum_of_isTypeName h.isTypeName).2 '_' hmem
  have hword : n.word name.toList = name.toList := by
    rw [word, hjoined]
    refine respell_eq_self fun a ha hne => ?_
    obtain ⟨b, hb, rfl⟩ := List.mem_map.mp ha
    exact h.apart b hb fun hempty => hne (by rw [hempty]; rfl)
  have hcase : Text.lowerChar c = [c.toLower] ∧ Text.upperChar c.toLower = [c] :=
    Text.forall_isUpper
      (P := fun c => Text.lowerChar c = [c.toLower] ∧ Text.upperChar c.toLower = [c])
      (by decide) hupper
  rw [typeName, hword]
  refine String.toList_inj.mp ?_
  simp [hname, Text.lowerHead, Text.upperHead, hcase]

end Naming

theorem named_iff {naming : Naming} {renames : Renames} {declared name : String} :
    Named naming renames declared name ↔ name = naming.recordName renames declared := by
  constructor
  · intro h
    unfold Naming.recordName
    cases h with
    | given hfind => rw [hfind]; rfl
    | ofDeclared hfind => rw [hfind]; rfl
  · rintro rfl
    exact named_recordName naming renames declared

namespace Source.Program

variable {p : Program} {style : Style} {root : ClassId} {known : List ClassId}

theorem names_resolutionOf (h : known ≠ []) :
    (p.resolutionOf style known).types.map (Elm.Ty.name (p.resolutionOf style known).schema) =
      known.map fun c => style.naming.recordName style.renames (p.className (.declared c)) := by
  rw [types_resolutionOf h, List.map_map]
  refine List.ext_getElem (by simp) fun i hi hi' => ?_
  simp at hi
  simp [Elm.Ty.name, Elm.Schema.nameOf, resolutionOf, hi]
  rfl

/-- The records of a resolution have different names exactly if no two classes that the root
reaches are given one name.  Plain names are given by the classes themselves. -/
theorem record_names_nodup_iff {a : Annot} {r : Elm.Resolution}
    (h : p.resolution style a = .ok r) :
    ∃ root, a = .cls (.declared root) ∧
      ((r.types.map (Elm.Ty.name r.schema)).Nodup ↔
        ∀ c d name, p.Reaches root c → p.Reaches root d →
          Named style.naming style.renames (p.className (.declared c)) name →
          Named style.naming style.renames (p.className (.declared d)) name → c = d) ∧
      ((∀ c, p.Reaches root c → style.renames.find? (p.className (.declared c)) = none ∧
          style.naming.IsPlain (p.className (.declared c))) →
        ((r.types.map (Elm.Ty.name r.schema)).Nodup ↔
          ∀ c d, p.Reaches root c → p.Reaches root d →
            p.className (.declared c) = p.className (.declared d) → c = d)) := by
  obtain ⟨root, known, rfl, hroot, hwalk, rfl⟩ := resolution_eq_ok.mp h
  have hne : known ≠ [] := by
    obtain ⟨others, rfl⟩ := discovery_eq_cons hroot hwalk
    exact List.cons_ne_nil _ _
  have hnodup := (discovery_explored hroot hwalk).nodup List.nodup_nil
  have hmem : ∀ {c}, c ∈ known ↔ p.Reaches root c := mem_discovery hroot hwalk
  rw [names_resolutionOf hne, List.nodup_map_iff_inj_on hnodup]
  refine ⟨root, rfl, ?_, fun hplain => ?_⟩
  · simp only [named_iff, hmem]
    constructor
    · rintro hinj c d name hc hd rfl hname
      exact hinj c hc d hd hname
    · intro hinj c hc d hd hname
      exact hinj c d _ hc hd rfl hname
  · have hkept : ∀ {c}, p.Reaches root c →
        style.naming.recordName style.renames (p.className (.declared c)) =
          p.className (.declared c) := by
      intro c hc
      obtain ⟨hfind, hname⟩ := hplain c hc
      rw [Naming.recordName, hfind]
      exact hname.typeName_eq
    simp only [hmem]
    constructor
    · intro hinj c d hc hd hname
      exact hinj c hc d hd (by rw [hkept hc, hkept hd, hname])
    · intro hinj c hc d hd hname
      rw [hkept hc, hkept hd] at hname
      exact hinj c d hc hd hname

/-- A page with two views. -/
def page (first second : String) : Program :=
  .ofModule "site"
    [.record first [("title", .ofBuiltin .str)], .record second [("width", .ofBuiltin .int)],
      .record "Page" [("front", .name first), ("back", .name second)]]

theorem page_record_names_nodup :
    ∃ r : Elm.Resolution,
      (page "FrontView" "BackView").resolution ⟨.standard, []⟩ (.cls (.declared 2)) = .ok r ∧
      (∀ c, (page "FrontView" "BackView").Reaches 2 c →
        Table.find? ([] : Renames) ((page "FrontView" "BackView").className (.declared c)) = none ∧
          Naming.standard.IsPlain ((page "FrontView" "BackView").className (.declared c))) ∧
      (r.types.map (Elm.Ty.name r.schema)).Nodup := by
  have hroot : (page "FrontView" "BackView").isRecordClass 2 = true := by decide +kernel
  have hwalk : (page "FrontView" "BackView").discovery 2 = .ok [2, 0, 1] := by decide +kernel
  have hpage : (page "FrontView" "BackView").resolution ⟨.standard, []⟩ (.cls (.declared 2)) =
      .ok ((page "FrontView" "BackView").resolutionOf ⟨.standard, []⟩ [2, 0, 1]) :=
    resolution_eq_ok.mpr ⟨2, [2, 0, 1], rfl, hroot, hwalk, rfl⟩
  have hmem : ∀ {c}, (page "FrontView" "BackView").Reaches 2 c → c ∈ [2, 0, 1] :=
    (mem_discovery hroot hwalk).mpr
  have hplain : ∀ c ∈ [2, 0, 1],
      Naming.standard.IsPlain ((page "FrontView" "BackView").className (.declared c)) := by
    decide +kernel
  have hdistinct : ∀ c ∈ [2, 0, 1], ∀ d ∈ [2, 0, 1],
      (page "FrontView" "BackView").className (.declared c) =
        (page "FrontView" "BackView").className (.declared d) → c = d := by
    decide +kernel
  obtain ⟨root, hsame, -, hkept⟩ := record_names_nodup_iff hpage
  cases hsame
  refine ⟨_, hpage, fun c hc => ⟨rfl, hplain c (hmem hc)⟩, ?_⟩
  refine (hkept fun c hc => ⟨rfl, hplain c (hmem hc)⟩).mpr fun c d hc hd hname => ?_
  exact hdistinct c (hmem hc) d (hmem hd) hname

/-- Two classes with different names, and one name for two records. -/
theorem page_record_names_clash :
    ∃ r : Elm.Resolution,
      (page "HTMLView" "HtmlView").resolution ⟨.standard, []⟩ (.cls (.declared 2)) = .ok r ∧
      r.types.map (Elm.Ty.name r.schema) = ["Page", "HtmlView", "HtmlView"] ∧
      ¬ (r.types.map (Elm.Ty.name r.schema)).Nodup := by
  have hroot : (page "HTMLView" "HtmlView").isRecordClass 2 = true := by decide +kernel
  have hwalk : (page "HTMLView" "HtmlView").discovery 2 = .ok [2, 0, 1] := by decide +kernel
  refine ⟨_, resolution_eq_ok.mpr ⟨2, [2, 0, 1], rfl, hroot, hwalk, rfl⟩, ?_, ?_⟩
  · decide +kernel
  · decide +kernel

end Source.Program

end ElmCodec
