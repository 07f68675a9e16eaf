import ElmCodec.Resolve.Convert
import Mathlib.Data.List.Basic

/-!
# Spellings

Which annotations have a counterpart in Elm, said by rules and not by the
classification.  There are two ways to wrap an annotation.  A union of either kind
that adds the empty value to one other member makes it optional, and eight
spellings make a sequence of it.  Notes on a type may stand anywhere and change
nothing.

* `Supported` is the grammar of annotations that can be converted.
* `Mentions` says which record class stands innermost in an annotation.
* `Translates` gives the Elm type, for a choice of places of the records.

The classification decides all three.  An annotation is supported if no shape
without counterpart stands innermost in its shape (`supported_iff`).  It mentions
the class that stands there (`mentions_iff`), and its Elm type is computed along
its shape (`translates_iff`).
-/

namespace ElmCodec.Source

open Elm (RecordId)

/-! ## Wrapped annotations -/

namespace Annot

/-- A union that adds the empty value to exactly one other member. -/
inductive OptionalOf : Annot → Annot → Prop where
  | union {members : List Annot} {t : Annot} :
      members.filter (fun m => !m.isNoneType) = [t] → noneType ∈ members →
      OptionalOf (.union members) t
  | pipe {members : List Annot} {t : Annot} :
      members.filter (fun m => !m.isNoneType) = [t] → noneType ∈ members →
      OptionalOf (.pipe members) t

/-- A spelling of the sequences of an element type. -/
inductive SequenceOf : Annot → Annot → Prop where
  | list {t : Annot} : SequenceOf (.applied (.builtin .list) [t]) t
  | abstractSequence {t : Annot} : SequenceOf (.applied (.library .sequence) [t]) t
  | abstractMutable {t : Annot} : SequenceOf (.applied (.library .mutableSequence) [t]) t
  | tuple {t : Annot} : SequenceOf (.applied (.builtin .tuple) [t, .ellipsis]) t
  | listForm {t : Annot} : SequenceOf (.special .list [t]) t
  | sequenceForm {t : Annot} : SequenceOf (.special .sequence [t]) t
  | mutableForm {t : Annot} : SequenceOf (.special .mutableSequence [t]) t
  | tupleForm {t : Annot} : SequenceOf (.special .tuple [t, .ellipsis]) t

theorem isNoneType_iff {a : Annot} : a.isNoneType = true ↔ a = noneType := by
  constructor
  · intro h
    unfold isNoneType at h
    split at h
    · rfl
    · cases h
  · rintro rfl
    rfl

end Annot

/-! ## The three relations -/

/-- The annotations that can be converted. -/
inductive Supported (p : Program) : Annot → Prop where
  | bool : Supported p (.cls (.builtin .bool))
  | int : Supported p (.cls (.builtin .int))
  | float : Supported p (.cls (.builtin .float))
  | str : Supported p (.cls (.builtin .str))
  | record {id : ClassId} : p.isRecordClass id = true → Supported p (.cls (.declared id))
  | annotated {t : Annot} {notes : List Annot} : Supported p t → Supported p (.annotated t notes)
  | optional {a t : Annot} : a.OptionalOf t → Supported p t → Supported p a
  | sequence {a t : Annot} : a.SequenceOf t → Supported p t → Supported p a

/-- The record class that stands in an annotation, looking through optionals,
sequences and notes. -/
inductive Mentions (p : Program) : Annot → ClassId → Prop where
  | record {id : ClassId} : p.isRecordClass id = true → Mentions p (.cls (.declared id)) id
  | annotated {t : Annot} {notes : List Annot} {id : ClassId} :
      Mentions p t id → Mentions p (.annotated t notes) id
  | optional {a t : Annot} {id : ClassId} : a.OptionalOf t → Mentions p t id → Mentions p a id
  | sequence {a t : Annot} {id : ClassId} : a.SequenceOf t → Mentions p t id → Mentions p a id

/-- The Elm type of an annotation, where the record of a class stands at `node`. -/
inductive Translates (p : Program) (node : ClassId → RecordId) : Annot → Elm.Ty → Prop where
  | bool : Translates p node (.cls (.builtin .bool)) (.primitive .bool)
  | int : Translates p node (.cls (.builtin .int)) (.primitive .int)
  | float : Translates p node (.cls (.builtin .float)) (.primitive .float)
  | str : Translates p node (.cls (.builtin .str)) (.primitive .string)
  | record {id : ClassId} : p.isRecordClass id = true →
      Translates p node (.cls (.declared id)) (.record (node id))
  | annotated {t : Annot} {notes : List Annot} {ty : Elm.Ty} :
      Translates p node t ty → Translates p node (.annotated t notes) ty
  | optional {a t : Annot} {ty : Elm.Ty} :
      a.OptionalOf t → Translates p node t ty → Translates p node a (.nullable ty)
  | sequence {a t : Annot} {ty : Elm.Ty} :
      a.SequenceOf t → Translates p node t ty → Translates p node a (.list ty)

/-! ## What stands innermost in a shape -/

namespace Shape

/-- Whether the shape has a counterpart in Elm. -/
def IsSupported : Shape → Prop
  | .scalar _ | .record _ => True
  | .optional _ s | .sequence _ s => s.IsSupported
  | .unsupported _ _ => False

/-- The record class that stands innermost in the shape. -/
def class? : Shape → Option ClassId
  | .record id => some id
  | .optional _ s | .sequence _ s => s.class?
  | .scalar _ | .unsupported _ _ => none

/-- What stands innermost in the shape and has no counterpart. -/
def gap? : Shape → Option (Reason × Annot)
  | .unsupported reason a => some (reason, a)
  | .optional _ s | .sequence _ s => s.gap?
  | .scalar _ | .record _ => none

theorem IsSupported.gap?_eq_none {s : Shape} (h : s.IsSupported) : s.gap? = none := by
  induction s with
  | scalar k => rfl
  | optional a s ih => exact ih h
  | sequence a s ih => exact ih h
  | record id => rfl
  | unsupported reason a => exact absurd h id

/-- The Elm type of a shape, where the record of a class stands at `node`.  A shape
without counterpart gets a type that cannot be written. -/
def elmType (node : ClassId → RecordId) : Shape → Elm.Ty
  | .scalar k => .primitive k.primitive
  | .optional _ s => .nullable (s.elmType node)
  | .sequence _ s => .list (s.elmType node)
  | .record id => .record (node id)
  | .unsupported _ _ => .incomplete .nullable

/-- The type of a shape depends on the place of its innermost class alone. -/
theorem elmType_congr {node node' : ClassId → RecordId} (s : Shape)
    (h : ∀ id, s.class? = some id → node id = node' id) : s.elmType node = s.elmType node' := by
  induction s with
  | scalar k => rfl
  | optional a s ih => rw [elmType, elmType, ih h]
  | sequence a s ih => rw [elmType, elmType, ih h]
  | record id => rw [elmType, elmType, h id rfl]
  | unsupported reason a => rfl

/-- The type of a supported shape can be written. -/
theorem elmType_declared {node : ClassId → RecordId} (schema : Elm.Schema) {s : Shape}
    (h : s.IsSupported) : ∃ text, (s.elmType node).declared schema = .ok text := by
  induction s with
  | scalar k => exact ⟨_, rfl⟩
  | optional a s ih => exact ih h
  | sequence a s ih =>
    obtain ⟨text, htext⟩ := ih h
    exact ⟨"List " ++ Elm.parenthesized text, by rw [elmType, Elm.Ty.declared, htext]; rfl⟩
  | record id => exact ⟨_, rfl⟩
  | unsupported reason a => exact absurd h id

end Shape

/-! ## Shapes of wrapped annotations -/

namespace Program

variable {p : Program} {a t : Annot}

theorem shapes_eq_map (p : Program) (as : List Annot) : p.shapes as = as.map p.shape := by
  induction as with
  | nil => rfl
  | cons a as ih => rw [shapes, ih, List.map_cons]

theorem shape_core (p : Program) (a : Annot) : p.shape (core a) = p.shape a := by
  fun_induction core a with
  | case1 t notes ih => rw [ih, shape]
  | case2 a h => rfl

/-- Pairing members with their shapes commutes with leaving out the empty value. -/
theorem filter_zip_shapes (p : Program) (members : List Annot) :
    (members.zip (p.shapes members)).filter (fun m => !m.1.isNoneType) =
      (members.filter fun m => !m.isNoneType).map fun m => (m, p.shape m) := by
  rw [shapes_eq_map]
  induction members with
  | nil => rfl
  | cons m ms ih =>
    rw [List.map_cons, List.zip_cons_cons]
    cases hm : m.isNoneType with
    | false =>
      rw [List.filter_cons_of_pos (by simp [hm]), List.filter_cons_of_pos (by simp [hm]), ih,
        List.map_cons]
    | true =>
      rw [List.filter_cons_of_neg (by simp [hm]), List.filter_cons_of_neg (by simp [hm]), ih]

/-- If leaving out the empty value leaves one member, the empty value is a member
exactly if there is another one. -/
theorem noneType_mem_iff {members : List Annot}
    (h : members.filter (fun m => !m.isNoneType) = [t]) :
    Annot.noneType ∈ members ↔ 1 < members.length := by
  have hsum := List.length_eq_length_filter_add (l := members) fun m => !m.isNoneType
  rw [h, List.length_singleton] at hsum
  rw [hsum, Nat.lt_add_right_iff_pos, List.length_pos_iff_exists_mem]
  constructor
  · intro hmem
    exact ⟨_, List.mem_filter.mpr ⟨hmem, by simp [Annot.isNoneType_iff]⟩⟩
  · rintro ⟨m, hm⟩
    obtain ⟨hmem, hnone⟩ := List.mem_filter.mp hm
    have : m = Annot.noneType := by simpa [Annot.isNoneType_iff] using hnone
    exact this ▸ hmem

theorem unionShape_of_optional {members : List Annot} (whole : Annot)
    (h : members.filter (fun m => !m.isNoneType) = [t]) (hnone : Annot.noneType ∈ members) :
    unionShape whole members (p.shapes members) = .optional t (p.shape t) := by
  unfold unionShape
  rw [filter_zip_shapes, h]
  simp [(noneType_mem_iff h).mp hnone]

theorem optional_of_unionShape {members : List Annot} {whole : Annot} {s : Shape}
    (h : unionShape whole members (p.shapes members) = .optional t s) :
    members.filter (fun m => !m.isNoneType) = [t] ∧ Annot.noneType ∈ members ∧
      s = p.shape t := by
  unfold unionShape at h
  rw [filter_zip_shapes] at h
  split at h
  next u v heq =>
    split at h
    next hlen =>
      obtain ⟨hu, hv⟩ := Shape.optional.inj h
      subst hu hv
      obtain ⟨m, hm, hmu⟩ := List.map_eq_singleton_iff.mp heq
      obtain ⟨rfl, rfl⟩ := Prod.mk.inj hmu
      exact ⟨hm, (noneType_mem_iff hm).mpr hlen, rfl⟩
    next => cases h
  next => cases h

theorem shape_of_optionalOf (h : a.OptionalOf t) : p.shape a = .optional t (p.shape t) := by
  cases h with
  | union h hnone => rw [shape, unionShape_of_optional _ h hnone]
  | pipe h hnone => rw [shape, unionShape_of_optional _ h hnone]

theorem shape_of_sequenceOf (h : a.SequenceOf t) : p.shape a = .sequence t (p.shape t) := by
  cases h <;> rfl

/-! ## Annotations of a given shape -/

theorem core_ne_annotated (a u : Annot) (notes : List Annot) : core a ≠ .annotated u notes := by
  fun_induction core a with
  | case1 t _ ih => exact ih
  | case2 a h => exact fun ha => h u notes ha

/-- What holds of an annotation without the notes around it holds with them, if notes
keep it. -/
theorem of_core {motive : Annot → Prop}
    (hnotes : ∀ t notes, motive t → motive (.annotated t notes)) {a : Annot}
    (h : motive (core a)) : motive a := by
  fun_induction core a with
  | case1 t notes ih => exact hnotes t notes (ih h)
  | case2 a _ => exact h

/-- The class of a scalar. -/
def scalarClass : Scalar → ClassRef
  | .bool => .builtin .bool
  | .int => .builtin .int
  | .float => .builtin .float
  | .string => .builtin .str

/-- A class by itself is a scalar, a record or nothing of Elm. -/
theorem classShape_cases (p : Program) (c : ClassRef) :
    (∃ k, c = scalarClass k ∧ p.classShape c = .scalar k) ∨
    (∃ id, c = .declared id ∧ p.isRecordClass id = true ∧ p.classShape c = .record id) ∨
    ∃ reason, p.classShape c = .unsupported reason (.cls c) := by
  cases c with
  | builtin b =>
    cases b with
    | bool => exact Or.inl ⟨.bool, rfl, rfl⟩
    | int => exact Or.inl ⟨.int, rfl, rfl⟩
    | float => exact Or.inl ⟨.float, rfl, rfl⟩
    | str => exact Or.inl ⟨.string, rfl, rfl⟩
    | _ => exact Or.inr (Or.inr ⟨_, rfl⟩)
  | library l => exact Or.inr (Or.inr ⟨_, rfl⟩)
  | declared id =>
    cases h : p.isRecordClass id with
    | true => exact Or.inr (Or.inl ⟨id, rfl, h, by simp [classShape, h]⟩)
    | false => exact Or.inr (Or.inr ⟨_, by simp [classShape, h]; rfl⟩)

/-- A class with arguments is a sequence of the first of them or nothing of Elm. -/
theorem appliedShape_cases (p : Program) (whole : Annot) (c : ClassRef) (args : List Annot) :
    (∃ t, (c.isSequence = true ∧ args = [t] ∨ c = .builtin .tuple ∧ args = [t, .ellipsis]) ∧
      p.appliedShape whole c args (p.shapes args) = .sequence t (p.shape t)) ∨
    ∃ reason, p.appliedShape whole c args (p.shapes args) = .unsupported reason whole := by
  rw [shapes_eq_map]
  unfold appliedShape
  split
  next hseq =>
    split
    next t s heq =>
      obtain ⟨rfl, -⟩ := List.cons.inj heq
      exact Or.inl ⟨t, Or.inl ⟨hseq, rfl⟩, rfl⟩
    next => exact Or.inr ⟨_, rfl⟩
  next =>
    split
    next htuple =>
      split
      next t s rest heq =>
        obtain ⟨rfl, -⟩ := List.cons.inj heq
        exact Or.inl ⟨t, Or.inr ⟨htuple, rfl⟩, rfl⟩
      next => exact Or.inr ⟨_, rfl⟩
    next => exact Or.inr ⟨_, rfl⟩

/-- A union is optional or nothing of Elm. -/
theorem unionShape_cases (whole : Annot) (members : List Annot) (shapes : List Shape) :
    (∃ t s, unionShape whole members shapes = .optional t s) ∨
    unionShape whole members shapes = .unsupported .union whole := by
  unfold unionShape
  split
  next t s heq =>
    split
    next => exact Or.inl ⟨t, s, rfl⟩
    next => exact Or.inr rfl
  next => exact Or.inr rfl

/-- A sequence class with one argument, or the class of tuples with dots, is a
spelling of sequences. -/
theorem sequenceOf_applied {c : ClassRef} {args : List Annot}
    (h : c.isSequence = true ∧ args = [t] ∨ c = .builtin .tuple ∧ args = [t, .ellipsis]) :
    (Annot.applied c args).SequenceOf t := by
  obtain ⟨hseq, rfl⟩ | ⟨rfl, rfl⟩ := h
  · simp only [ClassRef.isSequence, Bool.or_eq_true, beq_iff_eq] at hseq
    obtain (rfl | rfl) | rfl := hseq
    · exact .list
    · exact .abstractSequence
    · exact .abstractMutable
  · exact .tuple

/-- A form is a spelling of sequences if the class it stands for is one. -/
theorem sequenceOf_special {f : Form} {c : ClassRef} {args : List Annot}
    (hf : f.origin? = some c)
    (h : c.isSequence = true ∧ args = [t] ∨ c = .builtin .tuple ∧ args = [t, .ellipsis]) :
    (Annot.special f args).SequenceOf t := by
  obtain ⟨hseq, rfl⟩ | ⟨rfl, rfl⟩ := h
  · simp only [ClassRef.isSequence, Bool.or_eq_true, beq_iff_eq] at hseq
    obtain (rfl | rfl) | rfl := hseq
    · cases f <;> first | exact .listForm | cases hf
    · cases f <;> first | exact .sequenceForm | cases hf
    · cases f <;> first | exact .mutableForm | cases hf
  · cases f <;> first | exact .tupleForm | cases hf

/-- What the shape of an annotation without notes says of it. -/
inductive ShapeView (p : Program) (a : Annot) : Prop where
  | scalar (k : Scalar) : a = .cls (scalarClass k) → p.shape a = .scalar k → ShapeView p a
  | record (id : ClassId) : a = .cls (.declared id) → p.isRecordClass id = true →
      p.shape a = .record id → ShapeView p a
  | optional (t : Annot) : a.OptionalOf t → p.shape a = .optional t (p.shape t) → ShapeView p a
  | sequence (t : Annot) : a.SequenceOf t → p.shape a = .sequence t (p.shape t) → ShapeView p a
  | unsupported (reason : Reason) : p.shape a = .unsupported reason a → ShapeView p a

theorem shapeView_union {members : List Annot} (mk : List Annot → Annot)
    (hmk : p.shape (mk members) = unionShape (mk members) members (p.shapes members))
    (hopt : ∀ t, members.filter (fun m => !m.isNoneType) = [t] → Annot.noneType ∈ members →
      (mk members).OptionalOf t) : ShapeView p (mk members) := by
  obtain ⟨t, s, h⟩ | h := unionShape_cases (mk members) members (p.shapes members)
  · obtain ⟨hfilter, hnone, rfl⟩ := optional_of_unionShape h
    exact .optional t (hopt t hfilter hnone) (hmk.trans h)
  · exact .unsupported .union (hmk.trans h)

theorem shapeView_special (p : Program) (f : Form) (args : List Annot) :
    ShapeView p (.special f args) := by
  have hshape : p.shape (.special f args) =
      p.formShape (.special f args) f args (p.shapes args) := rfl
  cases hf : f.origin? with
  | some c =>
    simp only [formShape, hf] at hshape
    obtain ⟨t, ht, h⟩ | ⟨reason, h⟩ := appliedShape_cases p (.special f args) c args
    · exact .sequence t (sequenceOf_special hf ht) (hshape.trans h)
    · exact .unsupported reason (hshape.trans h)
  | none =>
    simp only [formShape, hf] at hshape
    cases args with
    | nil => exact .unsupported _ hshape
    | cons a rest => exact .unsupported _ hshape

/-- Every annotation without notes around it is one of the five kinds. -/
theorem shapeView (p : Program) (a : Annot) (ha : ∀ t notes, a ≠ .annotated t notes) :
    ShapeView p a := by
  cases a with
  | cls c =>
    obtain ⟨k, rfl, h⟩ | ⟨id, rfl, hrec, h⟩ | ⟨reason, h⟩ := classShape_cases p c
    · exact .scalar k rfl h
    · exact .record id rfl hrec h
    · exact .unsupported reason h
  | form f => cases f <;> exact .unsupported _ rfl
  | applied c args =>
    obtain ⟨t, ht, h⟩ | ⟨reason, h⟩ := appliedShape_cases p (.applied c args) c args
    · exact .sequence t (sequenceOf_applied ht) h
    · exact .unsupported reason h
  | special f args => exact shapeView_special p f args
  | union members => exact shapeView_union .union rfl fun _ => .union
  | pipe members => exact shapeView_union .pipe rfl fun _ => .pipe
  | annotated t notes => exact absurd rfl (ha t notes)
  | _ => exact .unsupported _ rfl

/-- Annotations one by one, from the inside out.  What stands innermost is a scalar, a
record or nothing of Elm, and around it are optionals, sequences and notes. -/
theorem shape_induction (p : Program) {motive : Annot → Prop}
    (annotated : ∀ t notes, motive t → motive (.annotated t notes))
    (scalar : ∀ k, motive (.cls (scalarClass k)))
    (record : ∀ id, p.isRecordClass id = true → motive (.cls (.declared id)))
    (optional : ∀ a t, a.OptionalOf t → motive t → motive a)
    (sequence : ∀ a t, a.SequenceOf t → motive t → motive a)
    (unsupported : ∀ a reason, p.shape a = .unsupported reason a → motive a) (a : Annot) :
    motive a := by
  generalize hs : p.shape a = s
  -- The induction is on the shape, which is that of the annotation without notes as well.
  induction s generalizing a with
  | scalar k =>
    refine of_core annotated ?_
    rw [← shape_core] at hs
    cases shapeView p (core a) (core_ne_annotated a) with
    | scalar k' ha _ => exact ha ▸ scalar k'
    | record _ _ _ h | optional _ _ h | sequence _ _ h | unsupported _ h => rw [h] at hs; cases hs
  | record id =>
    refine of_core annotated ?_
    rw [← shape_core] at hs
    cases shapeView p (core a) (core_ne_annotated a) with
    | record id' ha hrec _ => exact ha ▸ record id' hrec
    | scalar _ _ h | optional _ _ h | sequence _ _ h | unsupported _ h => rw [h] at hs; cases hs
  | optional t s ih =>
    refine of_core annotated ?_
    rw [← shape_core] at hs
    cases shapeView p (core a) (core_ne_annotated a) with
    | optional t' hopt h =>
      rw [h] at hs
      exact optional _ t' hopt (ih t' (Shape.optional.inj hs).2)
    | scalar _ _ h | record _ _ _ h | sequence _ _ h | unsupported _ h => rw [h] at hs; cases hs
  | sequence t s ih =>
    refine of_core annotated ?_
    rw [← shape_core] at hs
    cases shapeView p (core a) (core_ne_annotated a) with
    | sequence t' hseq h =>
      rw [h] at hs
      exact sequence _ t' hseq (ih t' (Shape.sequence.inj hs).2)
    | scalar _ _ h | record _ _ _ h | optional _ _ h | unsupported _ h => rw [h] at hs; cases hs
  | unsupported reason b =>
    refine of_core annotated ?_
    rw [← shape_core] at hs
    cases shapeView p (core a) (core_ne_annotated a) with
    | unsupported reason' h => exact unsupported _ reason' h
    | scalar _ _ h | record _ _ _ h | optional _ _ h | sequence _ _ h => rw [h] at hs; cases hs

theorem shape_scalarClass (p : Program) (k : Scalar) :
    p.shape (.cls (scalarClass k)) = .scalar k := by
  cases k <;> rfl

theorem shape_declared {id : ClassId} (h : p.isRecordClass id = true) :
    p.shape (.cls (.declared id)) = .record id := by
  simp [shape, classShape, h]

end Program

/-! ## The relations by shapes -/

section

variable {p : Program} {node : ClassId → RecordId} {a : Annot}

theorem Translates.shape {ty : Elm.Ty} (h : Translates p node a ty) :
    (p.shape a).IsSupported ∧ ty = (p.shape a).elmType node := by
  induction h with
  | bool => exact ⟨trivial, rfl⟩
  | int => exact ⟨trivial, rfl⟩
  | float => exact ⟨trivial, rfl⟩
  | str => exact ⟨trivial, rfl⟩
  | record hrec => rw [Program.shape_declared hrec]; exact ⟨trivial, rfl⟩
  | annotated _ ih => exact ih
  | optional hopt _ ih =>
    rw [Program.shape_of_optionalOf hopt]
    exact ⟨ih.1, congrArg Elm.Ty.nullable ih.2⟩
  | sequence hseq _ ih =>
    rw [Program.shape_of_sequenceOf hseq]
    exact ⟨ih.1, congrArg Elm.Ty.list ih.2⟩

theorem translates_elmType (node : ClassId → RecordId) (hs : (p.shape a).IsSupported) :
    Translates p node a ((p.shape a).elmType node) := by
  induction a using Program.shape_induction p with
  | annotated t notes ih => exact .annotated (ih hs)
  | scalar k => cases k <;> constructor
  | record id hrec => rw [Program.shape_declared hrec]; exact .record hrec
  | optional a t hopt ih =>
    rw [Program.shape_of_optionalOf hopt] at hs ⊢
    exact .optional hopt (ih hs)
  | sequence a t hseq ih =>
    rw [Program.shape_of_sequenceOf hseq] at hs ⊢
    exact .sequence hseq (ih hs)
  | unsupported a reason h => rw [h] at hs; exact absurd hs id

theorem translates_iff {ty : Elm.Ty} :
    Translates p node a ty ↔ (p.shape a).IsSupported ∧ ty = (p.shape a).elmType node :=
  ⟨Translates.shape, fun ⟨hs, h⟩ => h ▸ translates_elmType node hs⟩

theorem supported_iff : Supported p a ↔ (p.shape a).IsSupported := by
  constructor
  · intro h
    induction h with
    | bool => trivial
    | int => trivial
    | float => trivial
    | str => trivial
    | record hrec => rw [Program.shape_declared hrec]; trivial
    | annotated _ ih => exact ih
    | optional hopt _ ih => rw [Program.shape_of_optionalOf hopt]; exact ih
    | sequence hseq _ ih => rw [Program.shape_of_sequenceOf hseq]; exact ih
  · intro hs
    induction a using Program.shape_induction p with
    | annotated t notes ih => exact .annotated (ih hs)
    | scalar k => cases k <;> constructor
    | record id hrec => exact .record hrec
    | optional a t hopt ih =>
      rw [Program.shape_of_optionalOf hopt] at hs
      exact .optional hopt (ih hs)
    | sequence a t hseq ih =>
      rw [Program.shape_of_sequenceOf hseq] at hs
      exact .sequence hseq (ih hs)
    | unsupported a reason h => rw [h] at hs; exact absurd hs id

theorem mentions_iff {id : ClassId} : Mentions p a id ↔ (p.shape a).class? = some id := by
  constructor
  · intro h
    induction h with
    | record hrec => rw [Program.shape_declared hrec]; rfl
    | annotated _ ih => exact ih
    | optional hopt _ ih => rw [Program.shape_of_optionalOf hopt]; exact ih
    | sequence hseq _ ih => rw [Program.shape_of_sequenceOf hseq]; exact ih
  · intro hs
    induction a using Program.shape_induction p with
    | annotated t notes ih => exact .annotated (ih hs)
    | scalar k => rw [Program.shape_scalarClass] at hs; cases hs
    | record id' hrec =>
      rw [Program.shape_declared hrec] at hs
      cases hs
      exact .record hrec
    | optional a t hopt ih =>
      rw [Program.shape_of_optionalOf hopt] at hs
      exact .optional hopt (ih hs)
    | sequence a t hseq ih =>
      rw [Program.shape_of_sequenceOf hseq] at hs
      exact .sequence hseq (ih hs)
    | unsupported a reason h => rw [h] at hs; cases hs

/-- Only record classes are mentioned. -/
theorem Mentions.isRecordClass {id : ClassId} (h : Mentions p a id) :
    p.isRecordClass id = true := by
  induction h with
  | record hrec => exact hrec
  | annotated _ ih => exact ih
  | optional _ _ ih => exact ih
  | sequence _ _ ih => exact ih

theorem Program.isRecordClass_of_class? (p : Program) (a : Annot) (d : ClassId)
    (h : (p.shape a).class? = some d) : p.isRecordClass d = true :=
  (mentions_iff.mpr h).isRecordClass

end

end ElmCodec.Source
