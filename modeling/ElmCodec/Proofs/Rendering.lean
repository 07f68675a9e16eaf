import ElmCodec.Proofs.Emission
import ElmCodec.Proofs.Recursion

/-!
# Rendering does not fail

A list or nullable without an element and a type of a foreign kind cannot be written, and a
module with such a type has no text.  No type of a resolution leads to one.  The leaf of a type
is a scalar or a record of the resolution, and this goes on from the record to the leaves of its
fields (`Resolution.Supplies.meets`), however often a way through the types goes round a cycle.

So the text of a module is there if the resolution is (`IsWhole.hasParts`), and what a
module fails with is what the resolution fails with.
-/

namespace ElmCodec

open Source (Program Annot)

namespace Elm

/-- A type is met from another one on a way through elements and through fields of records. -/
inductive Ty.Meets (s : Schema) : Ty → Ty → Prop where
  | here (t : Ty) : t.Meets s t
  | list {t u : Ty} : t.Meets s u → (Ty.list t).Meets s u
  | nullable {t u : Ty} : t.Meets s u → (Ty.nullable t).Meets s u
  | field {id : RecordId} {f : Field} {u : Ty} : f ∈ s.fieldsOf id → f.type.Meets s u →
      (Ty.record id).Meets s u

/-- A type has all its texts, under all names of the modules with the codecs. -/
structure Ty.IsWritten (s : Schema) (t : Ty) : Prop where
  declared : ∃ text, t.declared s = .ok text
  decoder : ∀ decode, ∃ text, t.decoder s decode = .ok text
  encoder : ∀ encode, ∃ text, t.encoder s encode = .ok text

theorem Ty.IsComplete.isWritten {t : Ty} (h : t.IsComplete) (s : Schema) : t.IsWritten s where
  declared := ⟨_, declared_eq s h⟩
  decoder := fun decode => ⟨_, decoder_eq s decode h⟩
  encoder := fun encode => ⟨_, encoder_eq s encode h⟩

namespace Resolution

variable {r : Resolution} {t u : Ty}

theorem IsWhole.supplies (hr : r.IsWhole) (ht : t ∈ r.types) : r.Supplies t := by
  obtain ⟨id, rfl⟩ := (hr t ht).isRecord
  exact Or.inr ht

theorem Supplies.meets (h : r.Supplies t) (hr : r.IsWhole) (hu : t.Meets r.schema u) :
    r.Supplies u := by
  induction hu with
  | here t => exact h
  | list _ ih => exact ih h
  | nullable _ ih => exact ih h
  | field hf _ ih =>
    obtain ⟨k, hk⟩ | hrecord := h
    · cases hk
    · exact ih ((hr _ hrecord).leaf _ hf)

/-- The types that are met in a resolution can be written. -/
theorem IsWhole.isWritten (hr : r.IsWhole) (ht : t ∈ r.types) (hu : t.Meets r.schema u) :
    u.IsWritten r.schema :=
  (((hr.supplies ht).meets hr hu).isComplete hr).isWritten r.schema

end Resolution

end Elm

namespace Source.Program

variable {p : Program} {style : Style} {a : Annot} {e : Failure}

/-- The text of the Elm module of a definition, or why there is none. -/
def moduleText (p : Program) (style : Style) (banner : List String) (a : Annot) :
    Except Failure String :=
  ((p.elmModule style banner a).run {}).1

theorem moduleText_of_error (h : p.resolution style a = .error e) (banner : List String) :
    p.moduleText style banner a = .error e := by
  unfold moduleText elmModule
  rw [run_bind]
  unfold resolution at h
  cases hrun : (p.resolve style a).run {} with
  | mk outcome s =>
    rw [hrun] at h
    cases h
    rfl

theorem moduleText_of_ok {r : Elm.Resolution} (h : p.resolution style a = .ok r)
    {banner : List String} {text : String} (htext : Elm.emit {} r banner = .ok text) :
    p.moduleText style banner a = .ok text := by
  unfold moduleText elmModule
  rw [run_bind]
  unfold resolution at h
  cases hrun : (p.resolve style a).run {} with
  | mk outcome s =>
    rw [hrun] at h
    cases h
    simp only [htext]
    rfl

theorem FailsAt.isFailure {c : ClassId} (h : p.FailsAt c e) : p.IsFailure e := by
  cases h with
  | exported hes => exact Or.inr ⟨c, hes⟩
  | noField _ => exact Or.inl ⟨_, rfl⟩
  | field _ _ _ => exact Or.inl ⟨_, rfl⟩

theorem isFailure_of_resolution (h : p.resolution style a = .error e) : p.IsFailure e := by
  cases hensure : p.ensureRecord a with
  | error e' =>
    cases (resolution_eq_error hensure).symm.trans h
    unfold ensureRecord at hensure
    split at hensure
    next id =>
      split at hensure
      next => cases hensure
      next => cases hensure; exact Or.inl ⟨_, rfl⟩
    next => cases hensure; exact Or.inl ⟨_, rfl⟩
  | ok root =>
    obtain ⟨rfl, hroot⟩ := ensureRecord_eq_ok.mp hensure
    rw [resolution_eq hroot] at h
    cases hwalk : p.discovery root with
    | ok known => rw [hwalk] at h; cases h
    | error e' =>
      rw [hwalk] at h
      cases h
      have hroom : p.Room p.classes.length [] := ⟨List.nodup_nil, by simp, by simp⟩
      obtain ⟨c, -, hfails⟩ := walkClass_fails p.classes.length hroot hroom hwalk
      exact hfails.isFailure

theorem IsFailure.ne_unwritable (h : p.IsFailure e) (why : Elm.RenderError) :
    e ≠ .fault (.unwritable why) := by
  rintro rfl
  rcases h.fault with ⟨_, hwhy⟩ | hclass | ⟨_, hname⟩
  · cases hwhy
  · cases hclass
  · cases hname

/-- A module has no text exactly if its definition has no resolution, with the same failure,
which is never that a type cannot be written.  A resolution can be written with every banner
and all names of the imports, and so can every type that is met from its records. -/
theorem module_fails_iff_resolution_fails (p : Program) (style : Style) (a : Annot) :
    (∀ banner e, p.moduleText style banner a = .error e ↔ p.resolution style a = .error e) ∧
    (∀ e, p.resolution style a = .error e → ∀ why, e ≠ .fault (.unwritable why)) ∧
    ∀ r, p.resolution style a = .ok r →
      (∀ m banner, ∃ text, Elm.emit m r banner = .ok text) ∧
      (∀ banner text, p.moduleText style banner a = .ok text ↔ Elm.emit {} r banner = .ok text) ∧
      ∀ t ∈ r.types, ∀ u, t.Meets r.schema u → u.IsWritten r.schema := by
  have hemit : ∀ r, p.resolution style a = .ok r → ∀ m banner, ∃ text,
      Elm.emit m r banner = .ok text :=
    fun r hr m banner => ⟨_, ((resolution_isWhole hr).hasParts m banner).text⟩
  refine ⟨fun banner e => ⟨fun h => ?_, fun h => moduleText_of_error h banner⟩,
    fun e h => (isFailure_of_resolution h).ne_unwritable, fun r hr => ⟨hemit r hr, ?_, ?_⟩⟩
  · cases hr : p.resolution style a with
    | error e' => rw [moduleText_of_error hr] at h; cases h; rfl
    | ok r =>
      obtain ⟨text, htext⟩ := hemit r hr {} banner
      rw [moduleText_of_ok hr htext] at h
      cases h
  · intro banner text
    obtain ⟨text', htext⟩ := hemit r hr {} banner
    rw [moduleText_of_ok hr htext, htext, Except.ok.injEq, Except.ok.injEq]
  · exact fun t ht u => (resolution_isWhole hr).isWritten ht

/-- A house: a room has a room next to it, if any, and walls with several layers of colours. -/
def house : Program :=
  .ofModule "house"
    [.record "Colour" [("name", .ofBuiltin .str)],
      .record "Room" [("next", .text "Room | None"),
        ("walls", .listOf (.listOf (.name "Colour")))]]

/-- The room next to a room leads to its walls and on to the colours.  A number is no
definition, and its module fails as its resolution does. -/
theorem house_is_written :
    (∃ r : Elm.Resolution, house.resolution {} (.cls (.declared 1)) = .ok r ∧
      (Elm.Ty.record 0).Meets r.schema (.list (.record 1)) ∧
      (Elm.Ty.list (.record 1)).IsWritten r.schema ∧
      ∃ text, house.moduleText {} ["-- rooms"] (.cls (.declared 1)) = .ok text) ∧
    house.moduleText {} [] (.cls (.builtin .int)) =
      .error (.ofProblem (.notARecord "int")) := by
  refine ⟨?_, ?_⟩
  · have hresolution : house.resolution {} (.cls (.declared 1)) =
        .ok (house.resolutionOf {} [1, 0]) :=
      resolution_eq_ok.mpr ⟨1, [1, 0], rfl, by decide +kernel, by decide +kernel, rfl⟩
    have hnext : Elm.Field.mk "next" "next" (.nullable (.record 0)) false ∈
        (house.resolutionOf {} [1, 0]).schema.fieldsOf 0 := by decide +kernel
    have hwalls : Elm.Field.mk "walls" "walls" (.list (.list (.record 1))) false ∈
        (house.resolutionOf {} [1, 0]).schema.fieldsOf 0 := by decide +kernel
    have hmeets : (Elm.Ty.record 0).Meets (house.resolutionOf {} [1, 0]).schema
        (.list (.record 1)) :=
      .field hnext (.nullable (.field hwalls (.list (.here _))))
    obtain ⟨-, -, hok⟩ := module_fails_iff_resolution_fails house {} (.cls (.declared 1))
    obtain ⟨hemit, htext, hwritten⟩ := hok _ hresolution
    obtain ⟨text, h⟩ := hemit {} ["-- rooms"]
    exact ⟨_, hresolution, hmeets, hwritten (.record 0) (by decide) _ hmeets, text,
      (htext _ _).mpr h⟩
  · exact ((module_fails_iff_resolution_fails house {} _).1 [] _).mpr (resolution_eq_error rfl)

end Source.Program

end ElmCodec
