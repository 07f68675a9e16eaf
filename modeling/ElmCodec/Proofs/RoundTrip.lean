import ElmCodec.Proofs.Codec
import ElmCodec.Proofs.Emission

/-!
# The decoder undoes the encoder

The type alias, the decoder and the encoder of a record are read from the module of a
resolution.  If the codecs of the primitive types and of the records undo each other
(`Library.Faithful`) then the decoder gives back each record value that the encoder is
given.

The keys of a record have to differ, as have the names of its fields.  Otherwise one value
hides another.
-/

namespace ElmCodec

namespace Elm

variable {α : Type}

/-- The codecs of the primitive types undo each other and give no null.  Those of the records
of a module undo each other and give objects. -/
structure Library.Faithful (lib : Library α) (m : Imports) (r : Resolution) : Prop where
  primitives : ∀ (k : Source.Scalar) a, lib.hasType k.primitive.name a →
    lib.decode (m.decode ++ "." ++ k.primitive.codec)
        (lib.encode (m.encode ++ "." ++ k.primitive.codec) a) = some a ∧
      lib.encode (m.encode ++ "." ++ k.primitive.codec) a ≠ .null
  records : ∀ t ∈ r.types, ∀ a, lib.hasType (t.name r.schema) a →
    lib.decode (t.decoderName r.schema m.decode)
        (lib.encode (t.encoderName r.schema m.encode) a) = some a ∧
      ∃ members, lib.encode (t.encoderName r.schema m.encode) a = .object members

theorem Library.Faithful.inverts {lib : Library α} {m : Imports} {r : Resolution}
    (h : lib.Faithful m r) {t : Ty}
    (ht : (∃ k : Source.Scalar, t = .primitive k.primitive) ∨ t ∈ r.types) :
    lib.Inverts r.schema m t := by
  intro a ha
  obtain ⟨k, rfl⟩ | ht := ht
  · exact h.primitives k a ha
  · obtain ⟨hdecode, members, hmembers⟩ := h.records t ht a ha
    exact ⟨hdecode, by rw [hmembers]; exact Json.noConfusion⟩

/-- A library whose values are their own encodings. -/
def Library.plain : Library Json where
  hasType name json := json ≠ .null ∧
    (name ∉ ["Bool", "Int", "Float", "String"] → ∃ members, json = .object members)
  decode _ json := some json
  encode _ json := json

theorem Library.plain_faithful (m : Imports) {r : Resolution}
    (h : ∀ t ∈ r.types, t.name r.schema ∉ ["Bool", "Int", "Float", "String"]) :
    Library.plain.Faithful m r where
  primitives _ _ ha := ⟨rfl, ha.1⟩
  records t ht _ ha := ⟨rfl, ha.2 (h t ht)⟩

end Elm

namespace Source.Program

open Elm

variable {p : Program} {style : Style} {a : Annot} {r : Resolution} {t : Ty}

/-- The decoder of a record undoes its encoder. -/
theorem decoder_undoes_encoder (h : p.resolution style a = .ok r) (ht : t ∈ r.types)
    (hkeys : ((t.fields r.schema).map Field.key).Nodup)
    (hnames : ((t.fields r.schema).map Field.name).Nodup) (m : Imports) (banner : List String) :
    ∃ parts declared helper,
      r.HasParts m banner parts ∧ r.Declares m parts t declared ∧
      declared.type = t.recordAlias r.schema ∧
      maybeHelper m ∈ parts ∧ Reads m.AreWords (readHelper m) (maybeHelper m) helper ∧
      ∀ {α : Type} (lib : Elm.Library α), lib.Faithful m r →
        ∀ record, declared.type.HasType lib record → ∃ members,
          declared.encoder.run lib m helper record = some (.object members) ∧
          members.map Prod.fst = (t.fields r.schema).map Field.key ∧
          declared.decoder.run lib declared.type (.object members) = some record := by
  have hwhole := resolution_isWhole h
  obtain ⟨decoderName, encoderName, -, hdeclares⟩ :=
    hwhole.declares (fun _ => List.mem_append_right _) ht
  refine ⟨_, _, maybe m, hwhole.hasParts m banner, hdeclares, rfl, ?_,
    Resolution.reads_helper m, ?_⟩
  · simp [Resolution.declaredTexts]
  · intro α lib hlib record hrecord
    exact Ty.decoder_run_encoder (fun f hf => hlib.inverts ((hwhole t ht).leaf f hf)) hkeys hnames
      hrecord decoderName encoderName

/-- A team with a member, a captain and no rivals. -/
def team : RecordValue Json :=
  [("members", .list [.leaf (.object [("fullName", .text "Ada")])]),
    ("captain", .just (.leaf (.object [("fullName", .text "Ada")]))), ("rivals", .list [])]

/-- The module of the club gives back a team. -/
theorem team_decoder_undoes_encoder :
    ∃ r : Resolution, club.resolution ⟨.standard, []⟩ (.cls (.declared 1)) = .ok r ∧
      ∃ parts declared helper members,
        r.HasParts {} [] parts ∧ r.Declares {} parts (.record 1) declared ∧
        declared.type.HasType Library.plain team ∧
        declared.encoder.run Library.plain {} helper team = some (.object members) ∧
        members.map Prod.fst = ["members", "captain", "rivals"] ∧
        declared.decoder.run Library.plain declared.type (.object members) = some team := by
  have hclub : club.resolution ⟨.standard, []⟩ (.cls (.declared 1)) =
      .ok (club.resolutionOf ⟨.standard, []⟩ [1, 2]) :=
    resolution_eq_ok.mpr ⟨1, [1, 2], rfl, club_discovery.1, club_discovery.2, rfl⟩
  have hschema : (club.resolutionOf ⟨.standard, []⟩ [1, 2]).schema =
      [⟨"Member", [⟨"full_name", "fullName", .primitive .string, false⟩,
          ⟨"team", "team", .record 1, false⟩]⟩,
        ⟨"Team", [⟨"members", "members", .list (.record 0), false⟩,
          ⟨"captain", "captain", .nullable (.record 0), false⟩,
          ⟨"rivals", "rivals", .list (.record 1), false⟩]⟩] := by
    decide +kernel
  obtain ⟨parts, declared, helper, hparts, hdeclares, htype, -, -, hrun⟩ :=
    decoder_undoes_encoder (t := .record 1) hclub (by decide) (by rw [hschema]; decide)
      (by rw [hschema]; decide) {} []
  have hplain : Library.plain.Faithful {} (club.resolutionOf ⟨.standard, []⟩ [1, 2]) :=
    Library.plain_faithful {} (by rw [hschema]; decide)
  have hteam : declared.type.HasType Library.plain team := by
    rw [htype, hschema]
    have hmember : Library.plain.hasType "Member" (.object [("fullName", .text "Ada")]) :=
      ⟨Json.noConfusion, fun _ => ⟨_, rfl⟩⟩
    refine .cons ⟨rfl, fun v hv => ?_⟩ (.cons ⟨rfl, hmember⟩ (.cons ⟨rfl, fun v hv => ?_⟩ .nil))
    · rw [List.mem_singleton.mp hv]
      exact hmember
    · cases hv
  obtain ⟨members, hencode, hkeys, hdecode⟩ := hrun Library.plain hplain team hteam
  have hmembers : members.map Prod.fst = ["members", "captain", "rivals"] :=
    hkeys.trans (by rw [hschema]; decide)
  exact ⟨_, hclub, parts, declared, helper, members, hparts, hdeclares, hteam, hencode, hmembers,
    hdecode⟩

end Source.Program

end ElmCodec
