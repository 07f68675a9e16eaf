import ElmCodec.Proofs.Written
import Mathlib.Data.List.Nodup

/-!
# What decoders and encoders do

The meaning of the declarations of a module, for the usual meaning of the functions of
the JSON libraries.

A *library* knows the primitive and the record types of a module by their names, and the
decoders and encoders of these.  Their values are not looked into.  The values of a form
are lists and optional values of them.

* `list` decodes an array item by item, and `nullable` takes null for nothing.
* `required` decodes the value under a key.
* `optional` takes nothing for a missing key, and also for null if the decoder refuses it.
* A decoder gives the values of its steps to the constructor of a record, which takes them
  in the order of the fields in the type alias.
* An encoder reads fields by name and makes an object of their encodings.  Of the members
  with one key the last one counts.

The main lemma is about a record whose types have codecs that undo each other: its
decoder undoes its encoder (`Ty.decoder_run_encoder`).
-/

namespace ElmCodec.Elm

/-! ## Values -/

/-- A JSON value. -/
inductive Json where
  | null
  | bool (b : Bool)
  | number (mantissa exponent : Int)
  | text (s : String)
  | array (items : List Json)
  | object (members : List (String × Json))

/-- The value under a key. -/
def Json.member? (key : String) : Json → Option Json
  | .object members => members.reverse.lookup key
  | _ => none

/-- An Elm value, made of values that are not looked into. -/
inductive Value (α : Type) where
  /-- A value of a primitive or a record type. -/
  | leaf (a : α)
  /-- A list. -/
  | list (items : List (Value α))
  /-- No value. -/
  | nothing
  /-- A value. -/
  | just (v : Value α)

/-- The types and codecs that are known by name. -/
structure Library (α : Type) where
  /-- The values of a type. -/
  hasType : String → α → Prop
  /-- What a decoder makes of a JSON value. -/
  decode : String → Json → Option α
  /-- What an encoder makes of a value. -/
  encode : String → α → Json

/-- A record value: its fields in order. -/
abbrev RecordValue (α : Type) := List (String × Value α)

variable {α : Type}

/-! ## Forms -/

namespace Form

/-- A value has a type. -/
def HasType (lib : Library α) : Form → Value α → Prop
  | .named n, .leaf a => lib.hasType n a
  | .list t, .list items => ∀ v ∈ items, t.HasType lib v
  | .nullable _, .nothing => True
  | .nullable t, .just v => t.HasType lib v
  | _, _ => False

/-- What a decoder makes of a JSON value. -/
def decode (lib : Library α) : Form → Json → Option (Value α)
  | .named n, json => (lib.decode n json).map .leaf
  | .list f, .array items => (items.mapM (f.decode lib)).map .list
  | .list _, _ => none
  | .nullable _, .null => some .nothing
  | .nullable f, json => (f.decode lib json).map .just

/-- What an encoder makes of a value.  There is none for nullable values. -/
def encode (lib : Library α) : Form → Value α → Option Json
  | .named n, .leaf a => some (lib.encode n a)
  | .list f, .list items => (items.mapM (f.encode lib)).map .array
  | _, _ => none

end Form

/-! ## Declarations -/

/-- The fields of a record value have the types that a type alias says. -/
def Alias.HasType (lib : Library α) (a : Alias) (record : RecordValue α) : Prop :=
  List.Forall₂ (fun field value => value.1 = field.1 ∧ field.2.HasType lib value.2)
    a.fields record

/-- What a step makes of a JSON value. -/
def Step.run (lib : Library α) (json : Json) (s : Step) : Option (Value α) :=
  match s.optional, json.member? s.key with
  | false, none => none
  | false, some value => s.value.decode lib value
  | true, none => some .nothing
  | true, some .null => (s.value.decode lib .null).or (some .nothing)
  | true, some value => s.value.decode lib value

/-- What a decoder makes of a JSON value.  Its constructor belongs to a type alias. -/
def Decoder.run (lib : Library α) (a : Alias) (d : Decoder) (json : Json) :
    Option (RecordValue α) :=
  if d.type = a.name ∧ d.constructor = a.name ∧ d.steps.length = a.fields.length then
    (d.steps.mapM (Step.run lib json)).map ((a.fields.map Prod.fst).zip ·)
  else none

/-- What a helper makes of an encoder. -/
def Helper.run (m : Imports) (h : Helper) (encode : Value α → Option Json) :
    Value α → Option Json
  | .nothing => if h.fallback = m.encode ++ ".null" then some .null else none
  | .just v => if h.applied = h.argument then encode v else none
  | _ => none

/-- What the encoder under a key makes of a value. -/
def Pair.encode (lib : Library α) (m : Imports) (h : Helper) (p : Pair) (v : Value α) :
    Option Json :=
  match p.helper with
  | none => p.value.encode lib v
  | some name => if name = h.name then h.run m (p.value.encode lib) v else none

/-- The member of an object that a key of an encoder gives. -/
def Pair.run (lib : Library α) (m : Imports) (h : Helper) (record : RecordValue α) (p : Pair) :
    Option (String × Json) :=
  (record.lookup p.field).bind fun v => (p.encode lib m h v).map (p.key, ·)

/-- What an encoder makes of a record value. -/
def Encoder.run (lib : Library α) (m : Imports) (h : Helper) (e : Encoder)
    (record : RecordValue α) : Option Json :=
  (e.pairs.mapM (Pair.run lib m h record)).map .object

/-! ## Codecs that undo each other -/

/-- The decoder and the encoder of a type undo each other, and no value is encoded as null. -/
def Library.Inverts (lib : Library α) (s : Schema) (m : Imports) (t : Ty) : Prop :=
  ∀ a, lib.hasType (t.name s) a →
    lib.decode (t.decoderName s m.decode) (lib.encode (t.encoderName s m.encode) a) = some a ∧
      lib.encode (t.encoderName s m.encode) a ≠ .null

variable {lib : Library α} {s : Schema} {m : Imports}

/-- A type undoes its encoding if the type that stands innermost does. -/
theorem Ty.decode_encode {t : Ty} (hlib : lib.Inverts s m t.leaf) {v : Value α}
    (hv : (t.form (Ty.name s)).HasType lib v) :
    ∃ json, (t.form (Ty.encoderName s m.encode)).encode lib v = some json ∧ json ≠ .null ∧
      (t.form (Ty.decoderName s m.decode)).decode lib json = some v := by
  induction t generalizing v with
  | list t ih =>
    cases v with
    | list items =>
      have hitems : ∃ jsons, List.Forall₂ (fun v json =>
          (t.form (Ty.encoderName s m.encode)).encode lib v = some json ∧
            (t.form (Ty.decoderName s m.decode)).decode lib json = some v) items jsons := by
        refine exists_forall₂ fun v hv' => ?_
        obtain ⟨json, hencode, -, hdecode⟩ := ih hlib (hv v hv')
        exact ⟨json, hencode, hdecode⟩
      obtain ⟨jsons, hjsons⟩ := hitems
      have hencode := mapM_eq_some.mpr (hjsons.imp fun _ _ h => h.1)
      have hdecode := mapM_eq_some.mpr (hjsons.flip.imp fun _ _ h => h.2)
      exact ⟨.array jsons, congrArg (Option.map Json.array) hencode, by simp,
        congrArg (Option.map Value.list) hdecode⟩
    | _ => exact hv.elim
  | nullable t ih => exact ih hlib hv
  | _ =>
    cases v with
    | leaf a =>
      obtain ⟨hdecode, hnull⟩ := hlib a hv
      exact ⟨_, rfl, hnull, congrArg (Option.map Value.leaf) hdecode⟩
    | _ => exact hv.elim

theorem Form.decode_nullable (f : Form) {json : Json} (h : json ≠ .null) :
    (Form.nullable f).decode lib json = (f.decode lib json).map .just := by
  cases json with
  | null => exact absurd rfl h
  | _ => rfl

theorem Step.run_of_ne_null {s : Step} {object json : Json} (h : object.member? s.key = some json)
    (hnull : json ≠ .null) : s.run lib object = s.value.decode lib json := by
  rw [Step.run, h]
  cases s.optional with
  | false => rfl
  | true =>
    cases json with
    | null => exact absurd rfl hnull
    | _ => rfl

/-- A field undoes its encoding: its step reads what its pair puts under the key. -/
theorem Field.step_run_pair {f : Field} (hlib : lib.Inverts s m f.type.leaf) {v : Value α}
    (hv : (f.entry s).2.HasType lib v) :
    ∃ json, (f.pair s m).encode lib m (maybe m) v = some json ∧
      ∀ object : Json, object.member? f.key = some json →
        (f.step s m).run lib object = some v := by
  cases hmaybe : f.isMaybe with
  | false =>
    simp only [entry, hmaybe] at hv
    obtain ⟨json, hencode, hnull, hdecode⟩ := Ty.decode_encode hlib hv
    refine ⟨json, by simp [Pair.encode, pair, hmaybe, hencode], fun object hobject => ?_⟩
    rw [Step.run_of_ne_null hobject hnull]
    simp [step, hmaybe, hdecode]
  | true =>
    simp only [entry, hmaybe] at hv
    cases v with
    | nothing =>
      refine ⟨.null, by simp [Pair.encode, pair, hmaybe, maybe, Helper.run], ?_⟩
      intro object hobject
      rw [Step.run, show object.member? (f.step s m).key = some .null from hobject]
      simp [step, hmaybe, Form.decode]
    | just v =>
      obtain ⟨json, hencode, hnull, hdecode⟩ := Ty.decode_encode hlib hv
      refine ⟨json, by simp [Pair.encode, pair, hmaybe, maybe, Helper.run, hencode], ?_⟩
      intro object hobject
      rw [Step.run_of_ne_null hobject hnull]
      simp [step, hmaybe, Form.decode_nullable, hnull, hdecode]
    | _ => exact hv.elim

/-- The decoder of a record undoes its encoder. -/
theorem Ty.decoder_run_encoder {t : Ty} (hlib : ∀ f ∈ t.fields s, lib.Inverts s m f.type.leaf)
    (hkeys : ((t.fields s).map Field.key).Nodup) (hnames : ((t.fields s).map Field.name).Nodup)
    {record : RecordValue α} (hrecord : (t.recordAlias s).HasType lib record)
    (decoderName encoderName : String) :
    ∃ members, (t.recordEncoder s m encoderName).run lib m (maybe m) record =
        some (.object members) ∧
      members.map Prod.fst = (t.fields s).map Field.key ∧
      (t.recordDecoder s m decoderName).run lib (t.recordAlias s) (.object members) =
        some record := by
  have hvalues := forall₂_and_mem (List.forall₂_map_left_iff.mp hrecord)
  have hfst : record.map Prod.fst = (t.fields s).map Field.name :=
    forall₂_map_eq hvalues fun f value h => h.1.1
  -- Each value is found under the name of its field.
  have hlookup : ∀ {f : Field} {value : String × Value α}, value.1 = f.name → value ∈ record →
      record.lookup f.name = some value.2 := by
    intro f value hname hmem
    rw [← hname]
    exact lookup_of_mem (hfst ▸ hnames) hmem
  -- It is encoded, and is read back from every object that has its encoding under the key.
  have hencode : ∀ f ∈ t.fields s, ∃ member : String × Json,
      (f.pair s m).run lib m (maybe m) record = some member ∧ member.1 = f.key ∧
        ∀ object : Json, object.member? f.key = some member.2 → ∀ v,
          record.lookup f.name = some v → (f.step s m).run lib object = some v := by
    intro f hf
    obtain ⟨value, hmem, ⟨hname, htype⟩, -⟩ := forall₂_mem_left hvalues hf
    obtain ⟨json, hjson, hdecode⟩ := Field.step_run_pair (hlib f hf) htype
    refine ⟨(f.key, json), ?_, rfl, fun object hobject v hv => ?_⟩
    · rw [Pair.run, show record.lookup (f.pair s m).field = some value.2 from hlookup hname hmem,
        Option.bind_some, hjson]
      rfl
    · cases (hlookup hname hmem).symm.trans hv
      exact hdecode object hobject
  obtain ⟨members, hmembers⟩ := exists_forall₂ hencode
  have hmemberKeys : members.map Prod.fst = (t.fields s).map Field.key :=
    forall₂_map_eq hmembers fun f member h => h.2.1
  refine ⟨members, ?_, hmemberKeys, ?_⟩
  · have hpairs := mapM_eq_some.mpr
      (List.forall₂_map_left_iff.mpr (hmembers.imp fun _ _ h => h.1))
    exact congrArg (Option.map Json.object) hpairs
  · have hsteps : List.Forall₂ (fun f value =>
        (f.step s m).run lib (.object members) = some value.2) (t.fields s) record := by
      refine hvalues.imp fun f value ⟨⟨hname, _⟩, hf, hmem⟩ => ?_
      obtain ⟨member, hmember, -, hkey, hdecode⟩ := forall₂_mem_left hmembers hf
      refine hdecode (.object members) ?_ value.2 (hlookup hname hmem)
      rw [← hkey]
      refine lookup_of_mem ?_ (List.mem_reverse.mpr hmember)
      rw [List.map_reverse, List.nodup_reverse, hmemberKeys]
      exact hkeys
    have hrun : ((t.fields s).map (Field.step s m)).mapM (Step.run lib (.object members)) =
        some (record.map Prod.snd) :=
      mapM_eq_some.mpr (List.forall₂_map_left_iff.mpr (List.forall₂_map_right_iff.mpr hsteps))
    have hzip : ((t.recordAlias s).fields.map Prod.fst).zip (record.map Prod.snd) = record := by
      refine (List.zip_of_prod ?_ rfl).symm
      rw [hfst, recordAlias, List.map_map]
      rfl
    rw [Decoder.run, if_pos ⟨rfl, rfl, by simp [recordDecoder, recordAlias]⟩]
    exact (congrArg (Option.map _) hrun).trans (congrArg some hzip)

end ElmCodec.Elm
