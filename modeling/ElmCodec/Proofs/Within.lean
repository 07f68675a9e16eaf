import ElmCodec.Proofs.Evaluation
import ElmCodec.Proofs.Members

/-!
# Evaluation makes no classes

The declared classes that an annotation mentions are said with a bound on their places
(`Annot.Within`).  Evaluation inherits this, so what it makes mentions only classes that the
bindings and the memory mention.  It does so together with any other property that evaluation
inherits (`Annot.Known`).
-/

namespace ElmCodec.Source

/-! ## The classes that an annotation mentions -/

/-- A class is a standard one or declared before a place. -/
def ClassRef.Within (n : Nat) : ClassRef → Prop
  | .declared id => id < n
  | _ => True

namespace Annot

mutual

/-- The classes that an annotation mentions outside its notes are standard ones or declared before
a place. -/
def Within (n : Nat) : Annot → Prop
  | .cls c => c.Within n
  | .applied c args => c.Within n ∧ AllWithin n args
  | .signature args | .special _ args | .params args | .tuple args => AllWithin n args
  | .generic c args => c < n ∧ AllWithin n args
  | .union members | .pipe members => AllWithin n members
  | .annotated t _ => Within n t
  | .initVar _ t => Within n t
  | _ => True
termination_by structural a => a

/-- The same for all members of a list. -/
def AllWithin (n : Nat) : List Annot → Prop
  | [] => True
  | a :: rest => Within n a ∧ AllWithin n rest
termination_by structural as => as

end

variable {n : Nat} {as : List Annot}

theorem allWithin_iff : AllWithin n as ↔ ∀ a ∈ as, a.Within n := by
  induction as with
  | nil => simp [AllWithin]
  | cons a as ih => rw [AllWithin, ih, List.forall_mem_cons]

mutual

theorem Within.mono {m : Nat} (hm : n ≤ m) : (a : Annot) → a.Within n → a.Within m
  | .cls (.declared _), h => Nat.lt_of_lt_of_le h hm
  | .cls (.builtin _), _ => trivial
  | .cls (.library _), _ => trivial
  | .applied (.declared _) args, h => ⟨Nat.lt_of_lt_of_le h.1 hm, AllWithin.mono hm args h.2⟩
  | .applied (.builtin _) args, h => ⟨trivial, AllWithin.mono hm args h.2⟩
  | .applied (.library _) args, h => ⟨trivial, AllWithin.mono hm args h.2⟩
  | .signature args, h => AllWithin.mono hm args h
  | .special _ args, h => AllWithin.mono hm args h
  | .params args, h => AllWithin.mono hm args h
  | .tuple args, h => AllWithin.mono hm args h
  | .generic _ args, h => ⟨Nat.lt_of_lt_of_le h.1 hm, AllWithin.mono hm args h.2⟩
  | .union members, h => AllWithin.mono hm members h
  | .pipe members, h => AllWithin.mono hm members h
  | .annotated t _, h => Within.mono hm t h
  | .initVar _ t, h => Within.mono hm t h
  | .form _, _ | .value _, _ | .ellipsis, _ | .forward .., _ | .literal _, _ | .typeVar .., _
  | .newType .., _ | .function .., _ | .routine .., _ | .member .., _ | .object .., _
  | .module _, _ => trivial
termination_by structural a => a

theorem AllWithin.mono {m : Nat} (hm : n ≤ m) : (as : List Annot) → AllWithin n as → AllWithin m as
  | [], _ => trivial
  | a :: as, h => ⟨Within.mono hm a h.1, AllWithin.mono hm as h.2⟩
termination_by structural as => as

end

/-- Unions of annotations within a bound are within it. -/
theorem within_distinct_flattened (h : ∀ a ∈ as, a.Within n) :
    ∀ a ∈ distinct (flattened as), a.Within n := by
  intro a ha
  obtain ⟨b, hb, hab⟩ := mem_flattened.mp (distinct_subset _ ha)
  have hwithin := h b hb
  cases b with
  | union | pipe => exact allWithin_iff.mp hwithin a hab
  | _ => exact List.mem_singleton.mp hab ▸ hwithin

instance : Inherited (Within n) where
  atom {a} h := by
    cases a with
    | cls | applied | signature | special | generic | params | tuple | union | pipe | annotated
    | initVar => exact h.elim
    | _ => trivial
  builtin _ := trivial
  library _ := trivial
  applied_iff := and_congr_right fun _ => allWithin_iff
  signature_iff := allWithin_iff
  special_iff := allWithin_iff
  generic_iff := and_congr_right fun _ => allWithin_iff
  params_iff := allWithin_iff
  tuple_iff := allWithin_iff
  annotated_iff := Iff.rfl
  initVar_of h := h
  of_union := allWithin_iff.mp
  of_pipe := allWithin_iff.mp
  unionOf_of h := unionOf_induction (within_distinct_flattened h)
    (allWithin_iff.mpr (within_distinct_flattened h))
  pipeOf_of h := pipeOf_induction (within_distinct_flattened h)
    (allWithin_iff.mpr (within_distinct_flattened h))

/-- An annotation mentions only declared classes before a place, and has a property. -/
def Known (P : Annot → Prop) (n : Nat) (a : Annot) : Prop := a.Within n ∧ P a

instance {P : Annot → Prop} [Inherited P] : Inherited (Known P n) where
  atom h := ⟨Inherited.atom h, Inherited.atom h⟩
  builtin b := ⟨Inherited.builtin b, Inherited.builtin b⟩
  library l := ⟨Inherited.library l, Inherited.library l⟩
  applied_iff := by
    simp only [Known, Inherited.applied_iff, forall_and]
    exact and_and_and_comm
  signature_iff {_} := by simp only [Known, Inherited.signature_iff, forall_and]
  special_iff {_ _} := by simp only [Known, Inherited.special_iff, forall_and]
  generic_iff := by
    simp only [Known, Inherited.generic_iff, forall_and]
    exact and_and_and_comm
  params_iff {_} := by simp only [Known, Inherited.params_iff, forall_and]
  tuple_iff {_} := by simp only [Known, Inherited.tuple_iff, forall_and]
  annotated_iff := and_congr Inherited.annotated_iff Inherited.annotated_iff
  initVar_of h := ⟨Inherited.initVar_of h.1, Inherited.initVar_of h.2⟩
  of_union h a ha := ⟨Inherited.of_union h.1 a ha, Inherited.of_union h.2 a ha⟩
  of_pipe h a ha := ⟨Inherited.of_pipe h.1 a ha, Inherited.of_pipe h.2 a ha⟩
  unionOf_of h :=
    ⟨Inherited.unionOf_of fun a ha => (h a ha).1, Inherited.unionOf_of fun a ha => (h a ha).2⟩
  pipeOf_of h :=
    ⟨Inherited.pipeOf_of fun a ha => (h a ha).1, Inherited.pipeOf_of fun a ha => (h a ha).2⟩

theorem Known.mono {P : Annot → Prop} {m : Nat} {a : Annot} (hm : n ≤ m) (h : a.Known P n) :
    a.Known P m :=
  ⟨Within.mono hm a h.1, h.2⟩

end Annot

namespace TypeExpr

mutual

/-- A type expression takes declared classes from bindings only.  The fixed objects in it are
built from standard classes. -/
def ByName : TypeExpr → Prop
  | .object a => a.Within 0
  | .subscript base args => ByName base ∧ AllByName args
  | .params types | .union types | .either types => AllByName types
  | .optional type | .annotated type _ | .classVar type | .initVar type | .final type => ByName type
  | .name _ | .text _ | .literal _ | .value _ => True
termination_by structural e => e

/-- The same for all members of a list. -/
def AllByName : List TypeExpr → Prop
  | [] => True
  | e :: rest => ByName e ∧ AllByName rest
termination_by structural es => es

end


mutual

theorem within_of_byName : (e : TypeExpr) → e.ByName → ∀ a ∈ e.objects, a.Within 0
  | .object _, h => List.forall_mem_singleton.mpr h
  | .subscript base args, h =>
    List.forall_mem_append.mpr ⟨within_of_byName base h.1, within_of_allByName args h.2⟩
  | .params types, h => within_of_allByName types h
  | .union types, h => within_of_allByName types h
  | .either types, h => within_of_allByName types h
  | .optional type, h => within_of_byName type h
  | .annotated type _, h => within_of_byName type h
  | .classVar type, h => within_of_byName type h
  | .initVar type, h => within_of_byName type h
  | .final type, h => within_of_byName type h
  | .name _, _ | .text _, _ | .literal _, _ | .value _, _ => nofun
termination_by structural e => e

theorem within_of_allByName : (es : List TypeExpr) → AllByName es →
    ∀ a ∈ allObjects es, a.Within 0
  | [], _ => nofun
  | e :: es, h => List.forall_mem_append.mpr ⟨within_of_byName e h.1, within_of_allByName es h.2⟩
termination_by structural es => es

end

end TypeExpr

end ElmCodec.Source
