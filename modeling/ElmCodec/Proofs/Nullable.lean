import ElmCodec.Proofs.References
import ElmCodec.Proofs.Resolution
import ElmCodec.Proofs.Sameness

/-!
# No type is made nullable twice

A nullable type directly inside another one would have to come from a union inside a union.
Evaluation makes flat unions, but notes may stand between two of them.  The notes are removed in
the end, and what has changed by this is made again.  So the parts of what is left have no notes
around them and no type that is nullable twice (`IsSettled`), at every depth
(`withoutNotes_settles`).

What is equal to an annotation before may stay in its place, and what is made again may be an
equal annotation that was made before.  In both cases equal annotations have one type.
-/

namespace ElmCodec

/-- Whether a nullable type stands directly inside another one, at any depth. -/
def Elm.Ty.doublesNull : Elm.Ty → Bool
  | .nullable t => t.isNullable || t.doublesNull
  | .list t => t.doublesNull
  | .primitive _ | .record _ | .incomplete _ | .foreign .. => false

namespace Source

open Annot (Flat Throughout changed sameAll distinct flattened)

variable {p : Program} {node : ClassId → Elm.RecordId} {a b t : Annot} {as : List Annot}

/-! ## Annotations with single types -/

/-- An annotation without notes around it, of which the type is nowhere nullable twice. -/
structure IsSingle (p : Program) (node : ClassId → Elm.RecordId) (a : Annot) : Prop where
  /-- No notes are around it. -/
  bare : ∀ t notes, a ≠ .annotated t notes
  /-- No nullable type stands directly inside another one in its type. -/
  type : ∀ ty, Translates p node a ty → ty.doublesNull = false

/-- An annotation that is no union is as single as the elements of the sequences that it is. -/
theorem IsSingle.of_elements (hbare : ∀ t notes, a ≠ .annotated t notes)
    (hunion : a.isUnion = false) (helements : ∀ t, a.SequenceOf t → IsSingle p node t) :
    IsSingle p node a where
  bare := hbare
  type ty h := by
    cases h with
    | bool | int | float | str | record => rfl
    | annotated => exact absurd rfl (hbare _ _)
    | optional hopt =>
      rw [(Annot.optionalOf_iff.mp hopt).1] at hunion
      cases hunion
    | sequence hseq ht =>
      rw [Elm.Ty.doublesNull]
      exact (helements _ hseq).type _ ht

/-- What is equal to an annotation and single makes it single. -/
theorem IsSingle.of_same (h : IsSingle p node a) (hb : b.Flat) (hsame : a.same b = true) :
    IsSingle p node b where
  bare t notes hnotes := by
    subst hnotes
    obtain ⟨u, others, rfl, -⟩ := Annot.exists_of_same_annotated hsame
    exact h.bare u others rfl
  type ty hty := h.type ty (hty.same_right hb hsame)

theorem IsSingle.same_left (h : IsSingle p node b) (ha : a.Flat) (hsame : a.same b = true) :
    IsSingle p node a where
  bare t notes hnotes := by
    subst hnotes
    obtain ⟨u, others, rfl, -⟩ := Annot.exists_of_annotated_same hsame
    exact h.bare u others rfl
  type ty hty := h.type ty (hty.same_left ha hsame)

/-! ## Annotations with single parts -/

/-- A flat annotation of which all parts are single. -/
structure IsSettled (p : Program) (node : ClassId → Elm.RecordId) (a : Annot) : Prop where
  /-- It is flat. -/
  flat : a.Flat
  /-- Its parts are single. -/
  parts : ∀ u ∈ a.parts, IsSingle p node u

theorem IsSettled.of_single (hflat : a.Flat) (hunion : a.isUnion = false) (h : IsSingle p node a) :
    IsSettled p node a := by
  refine ⟨hflat, ?_⟩
  rw [Annot.parts_of_not_isUnion hunion]
  exact List.forall_mem_singleton.mpr h

/-- Only unions and annotations with notes have nullable types. -/
theorem Translates.isNullable_eq_false {ty : Elm.Ty} (h : Translates p node a ty)
    (hbare : ∀ t notes, a ≠ .annotated t notes) (hunion : a.isUnion = false) :
    ty.isNullable = false := by
  cases h with
  | bool | int | float | str | record | sequence => rfl
  | annotated => exact absurd rfl (hbare _ _)
  | optional hopt =>
    rw [(Annot.optionalOf_iff.mp hopt).1] at hunion
    cases hunion

/-- The member of a flat union that is not empty is no union and has no notes around it, so its
type is not nullable. -/
theorem IsSettled.isSingle (h : IsSettled p node a) : IsSingle p node a := by
  cases hunion : a.isUnion with
  | false => exact h.parts a (Annot.parts_of_not_isUnion hunion ▸ List.mem_singleton_self a)
  | true =>
    refine ⟨fun t notes ha => ?_, fun ty hty => ?_⟩
    · rw [ha] at hunion
      cases hunion
    · cases hty with
      | bool | int | float | str | record | annotated => cases hunion
      | sequence hseq => cases hseq <;> cases hunion
      | optional hopt ht =>
        have hpart := h.parts _ hopt.mem_parts
        have hmember := h.flat.areSeparate_parts.single _ hopt.mem_parts
        rw [Elm.Ty.doublesNull, ht.isNullable_eq_false hpart.bare hmember, hpart.type _ ht]
        rfl

theorem IsSettled.same_left (h : IsSettled p node b) (ha : a.Flat) (hsame : a.same b = true) :
    IsSettled p node a where
  flat := ha
  parts u hu := by
    obtain ⟨v, hv, huv⟩ := Annot.exists_of_same_of_mem_parts hsame hu
    exact (h.parts v hv).same_left (ha.parts u hu) huv

/-! ## Unions of annotations with single parts -/

theorem IsSettled.of_mem_distinct (h : ∀ a ∈ as, IsSettled p node a) :
    ∀ u ∈ distinct (flattened as), IsSettled p node u := by
  intro u hu
  obtain ⟨a, ha, hua⟩ := Annot.mem_flattened.mp (Annot.distinct_subset _ hu)
  have hflat := (h a ha).flat
  exact .of_single (hflat.parts u hua) (hflat.areSeparate_parts.single u hua) ((h a ha).parts u hua)

theorem IsSettled.unionOf (h : ∀ a ∈ as, IsSettled p node a) :
    IsSettled p node (Annot.unionOf as) := by
  have hparts := IsSettled.of_mem_distinct h
  refine Annot.unionOf_induction hparts ⟨?_, fun u hu => (hparts u hu).isSingle⟩
  exact Annot.flat_union_distinct fun a ha => (h a ha).flat

theorem IsSettled.pipeOf (h : ∀ a ∈ as, IsSettled p node a) :
    IsSettled p node (Annot.pipeOf as) := by
  have hparts := IsSettled.of_mem_distinct h
  refine Annot.pipeOf_induction hparts ⟨?_, fun u hu => (hparts u hu).isSingle⟩
  exact Annot.flat_union_distinct fun a ha => (h a ha).flat

/-- What is no sequence, no union and has no notes around it is settled. -/
theorem IsSettled.of_plain (hflat : a.Flat) (hbare : ∀ t notes, a ≠ .annotated t notes)
    (hunion : a.isUnion = false) (hseq : ∀ t, ¬a.SequenceOf t) : IsSettled p node a :=
  .of_single hflat hunion (.of_elements hbare hunion fun t ht => absurd ht (hseq t))

theorem IsSettled.noneType : IsSettled p node Annot.noneType :=
  .of_plain trivial nofun rfl nofun

theorem IsSettled.value (v : Value) : IsSettled p node (.value v) :=
  .of_plain trivial nofun rfl nofun

theorem IsSettled.argument {lenient : Bool} (h : IsSettled p node a)
    (hb : a.argument lenient = .ok b) : IsSettled p node b := by
  rcases Annot.argument_cases hb with rfl | rfl | ⟨s, rfl⟩
  · exact h
  · exact .noneType
  · exact .of_plain trivial nofun rfl nofun

theorem IsSettled.asClass (h : IsSettled p node a) : IsSettled p node a.asClass := by
  rcases a.asClass_cases with heq | heq
  · rwa [heq]
  · rw [heq]
    exact .noneType

namespace Program

theorem union_settles (p : Program) {index : Index} (h : ∀ a ∈ index.items, IsSettled p node a) :
    EvalM.Stays Flat (p.union index) (IsSettled p node) := by
  refine (p.union_stays_of (A := IsSettled p node) (fun a ha => (h a ha).flat) ?_ ?_).imp
    fun _ ha => ha.2
  · intro members hmembers _
    refine .unionOf fun b hb => ?_
    obtain ⟨a, ha, hab⟩ := forall₂_mem_right hmembers hb
    exact (h a ha).argument hab
  · intro earlier fresh hsame hearlier _ hfresh
    exact hfresh.same_left hearlier hsame

theorem join_settles (p : Program) (ha : IsSettled p node a) (hb : IsSettled p node b) :
    EvalM.Stays Flat (p.join a b) (IsSettled p node) := by
  unfold join
  split
  · exact p.union_settles (by simpa [Index.items] using And.intro ha hb)
  · split
    next c hc =>
      rcases Annot.joined?_cases hc with ⟨v, rfl⟩ | rfl
      · exact .pure (.value v)
      · exact .pure (.pipeOf (by simpa using And.intro ha.asClass hb.asClass))
    next => exact .misuse _

/-! ## Removing notes -/

/-- What may stay in the place of single annotations is single. -/
theorem isSingle_of_sameAll {before after : List Annot} (hbefore : ∀ a ∈ before, a.Flat)
    (hafter : ∀ a ∈ after, IsSettled p node a) (h : sameAll after before = true) :
    ∀ a ∈ before, IsSingle p node a := by
  intro b hb
  obtain ⟨a, ha, hsame⟩ := Annot.exists_of_sameAll_of_mem h hb
  exact (hafter a ha).isSingle.of_same (hbefore b hb) hsame

theorem isSingle_changed {before after : List Annot} (hbefore : ∀ a ∈ before, a.Flat)
    (hafter : ∀ a ∈ after, IsSettled p node a) : ∀ a ∈ changed before after, IsSingle p node a := by
  unfold changed
  split
  next h => exact isSingle_of_sameAll hbefore hafter h
  next => exact fun a ha => (hafter a ha).isSingle

theorem flat_changed {before after : List Annot} (hbefore : ∀ a ∈ before, a.Flat)
    (hafter : ∀ a ∈ after, IsSettled p node a) : ∀ a ∈ changed before after, a.Flat :=
  forall_changed hbefore fun a ha => (hafter a ha).flat

theorem isSettled_applied {c : ClassRef} (hflat : ∀ a ∈ as, a.Flat)
    (h : ∀ a ∈ as, IsSingle p node a) : IsSettled p node (.applied c as) := by
  refine .of_single (Annot.allFlat_iff.mpr hflat) rfl (.of_elements nofun rfl fun t ht => ?_)
  cases ht with
  | _ => exact h t List.mem_cons_self

theorem isSettled_special {f : Form} (hflat : ∀ a ∈ as, a.Flat)
    (h : ∀ a ∈ as, IsSingle p node a) : IsSettled p node (.special f as) := by
  refine .of_single (Annot.allFlat_iff.mpr hflat) rfl (.of_elements nofun rfl fun t ht => ?_)
  cases ht with
  | _ => exact h t List.mem_cons_self

theorem isSettled_signatureOf {before after : List Annot} (hbefore : ∀ a ∈ before, a.Flat)
    (hafter : ∀ a ∈ after, IsSettled p node a) :
    IsSettled p node (signatureOf before after) := by
  unfold signatureOf
  split
  · exact .of_plain (Annot.allFlat_iff.mpr hbefore) nofun rfl nofun
  · exact isSettled_applied (fun a ha => (hafter a ha).flat) fun a ha => (hafter a ha).isSingle

mutual

/-- What is left of a flat annotation without notes is settled. -/
theorem withoutNotes_settles (p : Program) (node : ClassId → Elm.RecordId) : (a : Annot) →
    a.Flat → EvalM.Stays Flat (p.withoutNotes a) (IsSettled p node)
  | .annotated t notes, ha => withoutNotes_settles p node t ha
  | .applied c args, ha => by
    unfold withoutNotes
    have hargs := Annot.allFlat_iff.mp ha
    exact .bind (allWithoutNotes_settles p node args hargs) fun bs hbs =>
      .pure (isSettled_applied (flat_changed hargs hbs) (isSingle_changed hargs hbs))
  | .signature args, ha => by
    unfold withoutNotes
    have hargs := Annot.allFlat_iff.mp ha
    exact .bind (allWithoutNotes_settles p node args hargs) fun bs hbs =>
      .pure (isSettled_signatureOf hargs hbs)
  | .special f args, ha => by
    unfold withoutNotes
    have hargs := Annot.allFlat_iff.mp ha
    exact .bind (allWithoutNotes_settles p node args hargs) fun bs hbs =>
      .pure (isSettled_special (flat_changed hargs hbs) (isSingle_changed hargs hbs))
  | .generic c args, ha => by
    unfold withoutNotes
    have hargs := Annot.allFlat_iff.mp ha
    exact .bind (allWithoutNotes_settles p node args hargs) fun bs hbs =>
      .pure (.of_plain (Annot.allFlat_iff.mpr (flat_changed hargs hbs)) nofun rfl nofun)
  | .union members, ha => by
    unfold withoutNotes
    refine .bind (allWithoutNotes_settles p node members ha.parts) fun bs hbs => ?_
    unfold unionAgain
    split
    next h => exact .pure ⟨ha, isSingle_of_sameAll ha.parts hbs h⟩
    next => exact p.union_settles hbs
  | .pipe members, ha => by
    unfold withoutNotes
    refine .bind (allWithoutNotes_settles p node members ha.parts) fun bs hbs => ?_
    unfold pipeAgain
    split
    next h => exact .pure ⟨ha, isSingle_of_sameAll ha.parts hbs h⟩
    next => exact p.joinAll_stays_of (.value _) (fun _ _ => p.join_settles) hbs
  | .cls _, ha | .form _, ha | .value _, ha | .ellipsis, ha | .forward .., ha | .params _, ha
  | .tuple _, ha | .initVar .., ha | .literal _, ha | .typeVar .., ha | .newType .., ha
  | .function .., ha | .routine .., ha | .member .., ha | .object .., ha | .module _, ha =>
    .pure (.of_plain ha nofun rfl nofun)
termination_by structural a => a

theorem allWithoutNotes_settles (p : Program) (node : ClassId → Elm.RecordId) :
    (as : List Annot) → (∀ a ∈ as, a.Flat) →
    EvalM.Stays Flat (p.allWithoutNotes as) fun bs => ∀ b ∈ bs, IsSettled p node b
  | [], _ => .pure (by simp)
  | a :: as, h => by
    obtain ⟨ha, has⟩ := List.forall_mem_cons.mp h
    exact .bind (withoutNotes_settles p node a ha) fun b hb =>
      .bind (allWithoutNotes_settles p node as has) fun bs hbs =>
        .pure (List.forall_mem_cons.mpr ⟨hb, hbs⟩)
termination_by structural as => as

end

/-! ## Hints -/

theorem clearHints_settles (p : Program) (node : ClassId → Elm.RecordId)
    {table : Table String Annot} (h : Throughout Flat table) :
    EvalM.Stays Flat (p.clearHints table) (Throughout (IsSettled p node)) := by
  induction table with
  | nil => exact .pure nofun
  | cons entry table ih =>
    obtain ⟨hentry, htable⟩ := List.forall_mem_cons.mp h
    exact .bind (p.withoutNotes_settles node entry.2 hentry) fun hint hhint =>
      .bind (ih htable) fun hints hhints => .pure (List.forall_mem_cons.mpr ⟨hhint, hhints⟩)

/-- All that hints are made of in a program is flat. -/
structure IsFlat (p : Program) : Prop where
  /-- The annotations of classes are. -/
  annotated : ∀ {c d f}, p.classAt? c = some d → f ∈ d.annotations → Flat f.type
  /-- The bindings of modules are. -/
  bound : ∀ m, Throughout Flat (p.namespaceAt m)
  /-- What evaluation remembers is. -/
  made : p.memory.Holds Flat
  /-- What hints find around the program is. -/
  around : ∀ id, (p.surroundingsOf id).Holds Flat

theorem IsCoherent.isFlat (h : p.IsCoherent Flat) : p.IsFlat where
  annotated := h.annotated
  bound m := (h.bound m).imp fun _ ha => ha.2
  made := h.made.imp fun _ ha => ha.2
  around := h.surroundingsOf

/-- The hints of a class in a program with flat annotations are settled. -/
theorem IsFlat.evalHints_settles (h : p.IsFlat) (node : ClassId → Elm.RecordId) (c : ClassId) :
    EvalM.Stays Flat (p.evalHints c) (Throughout (IsSettled p node)) := by
  have hoffers : p.Offers Flat := ⟨h.bound, fun id => (h.around id).given⟩
  have hgather := gatherHints_stays hoffers h.annotated (nofun : Throughout Flat [])
    (p.lineage c).reverse
  exact hgather.bind fun table htable => p.clearHints_settles node htable

theorem IsFlat.isSettled_hints (h : p.IsFlat) (node : ClassId → Elm.RecordId) {c : ClassId}
    {hints : Table String Annot} (hhints : p.hints c = .ok hints) :
    Throughout (IsSettled p node) hints :=
  (h.evalHints_settles node c _ (h.around c).memory).2 hints hhints

/-- To ask for hints leaves nothing behind that is not flat. -/
theorem IsFlat.asking (h : p.IsFlat) (c : ClassId) : (p.asking c).IsFlat where
  annotated := h.annotated
  bound := h.bound
  made := (h.evalHints_settles (fun _ => 0) c _ h.made).1
  around id := by
    have hmade := (h.evalHints_settles (fun _ => 0) c _ h.made).1
    unfold surroundingsOf
    rw [Program.asking, Table.find?_insert]
    split
    · exact ⟨h.made, (h.around c).given⟩
    · have haround := h.around id
      unfold surroundingsOf at haround
      cases hfind : p.surroundings.find? id with
      | none => exact ⟨hmade, nofun⟩
      | some s => simpa [hfind] using haround

theorem IsFlat.asking_all (h : p.IsFlat) (asked : List ClassId) :
    (asked.foldl Program.asking p).IsFlat := by
  induction asked generalizing p with
  | nil => exact h
  | cons c asked ih => exact ih (h.asking c)

/-! ## Resolutions -/

theorem IsFlat.doublesNull_eq_false (h : p.IsFlat) {style : Style} {c : ClassId}
    {record : Elm.Record} (hrecord : p.RecordFor style node c record) {field : Elm.Field}
    (hfield : field ∈ record.fields) : field.type.doublesNull = false := by
  obtain ⟨hints, decls, hhints, -, hfields⟩ := hrecord.fields
  obtain ⟨f, -, hf⟩ := forall₂_mem_right hfields hfield
  obtain ⟨hint, hhint, htype⟩ := hf.type
  exact ((h.isSettled_hints node hhints).find? hhint).isSingle.type _ htype

/-- In no field type of a resolution a nullable type stands directly inside another one, at any
depth, however the annotations are written.  This also holds after the hints of any classes were
asked for, when evaluation remembers more, and for references that are not read, as long as what
they stand for is flat. -/
theorem resolution_never_doubles_null (hp : p.IsPlainlyLoaded)
    {around : Table ClassId Surroundings} (haround : ∀ entry ∈ around, entry.2.Holds Flat)
    (asked : List ClassId) {style : Style} {r : Elm.Resolution}
    (h : (asked.foldl asking (p.surroundedBy around)).resolution style a = .ok r) :
    ∀ record ∈ r.schema, ∀ field ∈ record.fields, field.type.doublesNull = false := by
  have hflat : (asked.foldl asking (p.surroundedBy around)).IsFlat :=
    (hp.isCoherent.surroundedBy haround).isFlat.asking_all asked
  obtain ⟨root, known, rfl, hroot, hwalk, rfl⟩ := resolution_eq_ok.mp h
  intro record hrecord field hfield
  obtain ⟨c, hc, rfl⟩ := List.mem_map.mp hrecord
  have hconvertible := convertible_of_mem_discovery hroot hwalk hc
  exact hflat.doublesNull_eq_false (recordOf_recordFor hconvertible) hfield

/-- Answers that may be missing in many ways: an optional of an optional, a synonym with an
alternative and behind a reference, unions of either kind with notes between them, in references
too, and a reference that is not read. -/
def survey : List Definition :=
  let text : TypeExpr := .object (.cls (.builtin .str))
  let number : TypeExpr := .object (.cls (.builtin .int))
  let nothing : TypeExpr := .object (.value .nothing)
  let noted (type : TypeExpr) : TypeExpr := .annotated type [.text "note"]
  [⟨"Annotated", .synonym (.object (.form .annotated))⟩,
    ⟨"Optional", .synonym (.object (.form .optional))⟩,
    ⟨"Maybe", .synonym (.optional number)⟩,
    ⟨"Answer", .declare
      { isRecord := true, name := "Answer"
        fields := [⟨"age", .optional (.optional number), none⟩,
          ⟨"score", .either [.name "Maybe", nothing], none⟩,
          ⟨"rank", .optional (.text "Maybe"), none⟩,
          ⟨"lines", .subscript (.object (.cls (.builtin .list)))
            [.optional (noted (.optional text))], none⟩,
          ⟨"reply", .text "Maybe | None", none⟩,
          ⟨"remark", noted (.either [noted (.either [text, nothing]), nothing]), none⟩,
          ⟨"weight", .text "Annotated[Optional[int], 'kg'] | None", none⟩,
          ⟨"size", .text "Optional[Annotated[Maybe, Answer, ('cm', 1)]]", none⟩,
          ⟨"price", .optional (.text "Maybe if True else int"), none⟩,
          ⟨"previous", .union [nothing, noted (.optional (.text "Answer"))], none⟩] }⟩]

/-- What the reference stands for that is not read. -/
def surveyAround : Table ClassId Surroundings :=
  [(0, ⟨{}, [("Maybe if True else int", .union [.cls (.builtin .int), .noneType])]⟩)]

theorem surveyAround_flat : ∀ entry ∈ surveyAround, entry.2.Holds Flat := by
  refine List.forall_mem_singleton.mpr ⟨nofun, List.forall_mem_singleton.mpr ⟨⟨?_, ?_⟩, ?_⟩⟩
  · decide
  · decide
  · exact ⟨trivial, trivial, trivial⟩

/-- All answers are nullable, or lists of nullable ones, but none is so twice. -/
theorem survey_never_doubles_null :
    ∃ p r, (Workspace.after [] [.definitions "survey" survey]).program = p ∧
      ([0].foldl asking (p.surroundedBy surveyAround)).resolution ⟨.standard, []⟩
        (.cls (.declared 0)) = .ok r ∧
      r.schema.map (fun record => record.fields.map Elm.Field.type) =
        [[.nullable (.primitive .int), .nullable (.primitive .int), .nullable (.primitive .int),
          .list (.nullable (.primitive .string)), .nullable (.primitive .int),
          .nullable (.primitive .string), .nullable (.primitive .int), .nullable (.primitive .int),
          .nullable (.primitive .int), .nullable (.record 0)]] ∧
      ∀ record ∈ r.schema, ∀ field ∈ record.fields, field.type.doublesNull = false := by
  have htypes : (([0].foldl asking ((Workspace.after [] [.definitions "survey" survey]).program
      |>.surroundedBy surveyAround)).resolution ⟨.standard, []⟩ (.cls (.declared 0))).toOption.map
      (fun r => r.schema.map fun record => record.fields.map Elm.Field.type) =
      some [[.nullable (.primitive .int), .nullable (.primitive .int), .nullable (.primitive .int),
        .list (.nullable (.primitive .string)), .nullable (.primitive .int),
        .nullable (.primitive .string), .nullable (.primitive .int), .nullable (.primitive .int),
        .nullable (.primitive .int), .nullable (.record 0)]] := by
    decide +kernel
  have hplain : ∀ load ∈ [Load.definitions "survey" survey], ∀ a ∈ load.objects,
      a.isStandard = true := by
    decide +kernel
  cases h : ([0].foldl asking ((Workspace.after [] [.definitions "survey" survey]).program
      |>.surroundedBy surveyAround)).resolution ⟨.standard, []⟩ (.cls (.declared 0)) with
  | error e => rw [h] at htypes; cases htypes
  | ok r =>
    rw [h] at htypes
    exact ⟨_, r, rfl, h, Option.some.inj htypes,
      resolution_never_doubles_null ⟨[], _, hplain, rfl⟩ surveyAround_flat [0] h⟩

end Program

end Source

end ElmCodec
