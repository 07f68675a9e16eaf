import ElmCodec.Proofs.Evaluation
import ElmCodec.Proofs.Members
import ElmCodec.Proofs.Spelling

/-!
# Unions are flat

In a flat annotation no union has a union among its members, nor two members that are equal, at
any depth.  All unions that evaluation makes are flat, so it makes flat annotations from flat ones.
The flat unions that make an annotation optional have two members (`Flat.parts_of_optionalOf`).
-/

namespace ElmCodec.Source.Annot

/-- Members of a union that are no unions and of which no two are equal. -/
structure AreSeparate (members : List Annot) : Prop where
  /-- None is a union. -/
  single : ∀ a ∈ members, a.isUnion = false
  /-- No two are equal. -/
  unequal : members.Pairwise fun a b => a.same b = false

mutual

/-- The members of each union in an annotation, outside its notes, are separate. -/
def Flat : Annot → Prop
  | .applied _ args | .signature args | .special _ args | .generic _ args | .params args
  | .tuple args => AllFlat args
  | .union members | .pipe members => AreSeparate members ∧ AllFlat members
  | .annotated t _ => Flat t
  | .initVar _ t => Flat t
  | _ => True
termination_by structural a => a

/-- The same for all members of a list. -/
def AllFlat : List Annot → Prop
  | [] => True
  | a :: rest => Flat a ∧ AllFlat rest
termination_by structural as => as

end

variable {a t : Annot} {as : List Annot}

theorem allFlat_iff : AllFlat as ↔ ∀ a ∈ as, a.Flat := by
  induction as with
  | nil => simp [AllFlat]
  | cons a as ih => rw [AllFlat, ih, List.forall_mem_cons]

theorem Flat.parts (h : a.Flat) : ∀ b ∈ a.parts, b.Flat := by
  cases a with
  | union members | pipe members => exact allFlat_iff.mp h.2
  | _ => exact List.forall_mem_singleton.mpr h

theorem Flat.areSeparate_parts (h : a.Flat) : AreSeparate a.parts := by
  cases a with
  | union members | pipe members => exact h.1
  | _ => exact ⟨List.forall_mem_singleton.mpr rfl, List.pairwise_singleton _ _⟩

/-- The distinct parts of flat annotations are separate. -/
theorem areSeparate_distinct (h : ∀ a ∈ as, a.Flat) : AreSeparate (distinct (flattened as)) where
  single a ha := by
    obtain ⟨b, hb, ha⟩ := mem_flattened.mp (distinct_subset _ ha)
    exact (h b hb).areSeparate_parts.single a ha
  unequal := pairwise_distinct _

theorem flat_of_mem_distinct (h : ∀ a ∈ as, a.Flat) : ∀ a ∈ distinct (flattened as), a.Flat := by
  intro a ha
  obtain ⟨b, hb, ha⟩ := mem_flattened.mp (distinct_subset _ ha)
  exact (h b hb).parts a ha

theorem flat_union_distinct (h : ∀ a ∈ as, a.Flat) :
    (Annot.union (distinct (flattened as))).Flat :=
  ⟨areSeparate_distinct h, allFlat_iff.mpr (flat_of_mem_distinct h)⟩

instance : Structural Flat where
  atom {a} h := by
    cases a with
    | cls | applied | signature | special | generic | params | tuple | union | pipe | annotated
    | initVar => exact h.elim
    | _ => trivial
  builtin _ := trivial
  library _ := trivial
  cls _ := trivial
  applied_iff := allFlat_iff.trans (iff_of_eq (true_and _)).symm
  signature_iff := allFlat_iff
  special_iff := allFlat_iff
  generic_iff := allFlat_iff.trans (iff_of_eq (true_and _)).symm
  params_iff := allFlat_iff
  tuple_iff := allFlat_iff
  annotated_iff := Iff.rfl
  initVar_of h := h
  of_union h := h.parts
  of_pipe h := h.parts
  unionOf_of h := unionOf_induction (flat_of_mem_distinct h) (flat_union_distinct h)
  pipeOf_of h := pipeOf_induction (flat_of_mem_distinct h) (flat_union_distinct h)

/-! ## Optional annotations -/

theorem isNoneType_eq_false_iff : a.isNoneType = false ↔ a ≠ noneType := by
  rw [← Bool.not_eq_true, isNoneType_iff]

theorem optionalOf_iff : a.OptionalOf t ↔
    a.isUnion = true ∧ a.parts.filter (fun m => !m.isNoneType) = [t] ∧ noneType ∈ a.parts := by
  constructor
  · rintro (⟨h, hnone⟩ | ⟨h, hnone⟩)
    · exact ⟨rfl, h, hnone⟩
    · exact ⟨rfl, h, hnone⟩
  · rintro ⟨hunion, h, hnone⟩
    cases a with
    | union members => exact .union h hnone
    | pipe members => exact .pipe h hnone
    | _ => cases hunion

/-- Separate members hold the empty value at most once. -/
theorem AreSeparate.noneType_notMem (hsep : AreSeparate (noneType :: as)) : noneType ∉ as :=
  fun h => Bool.noConfusion ((List.pairwise_cons.mp hsep.unequal).1 noneType h)

theorem AreSeparate.tail (hsep : AreSeparate (a :: as)) : AreSeparate as where
  single b hb := hsep.single b (List.mem_cons_of_mem a hb)
  unequal := (List.pairwise_cons.mp hsep.unequal).2

/-- If one of some separate members is left without the empty value, there are two. -/
theorem AreSeparate.eq_pair (hsep : AreSeparate as)
    (h : as.filter (fun m => !m.isNoneType) = [t]) (hnone : noneType ∈ as) :
    as = [t, noneType] ∨ as = [noneType, t] := by
  cases as with
  | nil => cases hnone
  | cons first rest =>
    by_cases hfirst : first = noneType
    · subst hfirst
      have hrest : rest.filter (fun m => !m.isNoneType) = rest := by
        refine List.filter_eq_self.mpr fun m hm => ?_
        have hne : m ≠ noneType := fun heq => hsep.noneType_notMem (heq ▸ hm)
        simpa [isNoneType_eq_false_iff] using hne
      rw [List.filter_cons_of_neg (by simp [isNoneType_iff]), hrest] at h
      exact Or.inr (h ▸ rfl)
    · rw [List.filter_cons_of_pos (by simpa [isNoneType_eq_false_iff] using hfirst)] at h
      obtain ⟨rfl, hrest⟩ := List.cons.inj h
      have hall : ∀ m ∈ rest, m = noneType := by
        simpa [List.filter_eq_nil_iff, isNoneType_iff] using hrest
      cases rest with
      | nil => exact absurd (List.mem_singleton.mp hnone).symm hfirst
      | cons second rest =>
        obtain ⟨rfl, hlast⟩ := List.forall_mem_cons.mp hall
        cases rest with
        | nil => exact Or.inl rfl
        | cons third rest =>
          have hthird : third = noneType := hlast third List.mem_cons_self
          exact absurd (hthird ▸ List.mem_cons_self) hsep.tail.noneType_notMem

/-- A flat optional annotation has two members. -/
theorem Flat.parts_of_optionalOf (ha : a.Flat) (h : a.OptionalOf t) :
    a.parts = [t, noneType] ∨ a.parts = [noneType, t] := by
  obtain ⟨-, h, hnone⟩ := optionalOf_iff.mp h
  exact ha.areSeparate_parts.eq_pair h hnone

theorem Flat.length_parts_of_optionalOf (ha : a.Flat) (h : a.OptionalOf t) :
    a.parts.length = 2 := by
  rcases ha.parts_of_optionalOf h with h | h
  · rw [h]; rfl
  · rw [h]; rfl

theorem OptionalOf.mem_parts (h : a.OptionalOf t) : t ∈ a.parts := by
  obtain ⟨-, h, -⟩ := optionalOf_iff.mp h
  exact (List.mem_filter.mp (h ▸ List.mem_singleton_self t)).1

theorem OptionalOf.ne_noneType (h : a.OptionalOf t) : t ≠ noneType := by
  obtain ⟨-, h, -⟩ := optionalOf_iff.mp h
  have ht := (List.mem_filter.mp (h ▸ List.mem_singleton_self t)).2
  simpa [isNoneType_eq_false_iff] using ht

theorem optionalOf_of_parts (hunion : a.isUnion = true) (ht : t ≠ noneType)
    (h : a.parts = [t, noneType] ∨ a.parts = [noneType, t]) : a.OptionalOf t := by
  have hsome : t.isNoneType = false := isNoneType_eq_false_iff.mpr ht
  have hnone : noneType.isNoneType = true := rfl
  rw [optionalOf_iff]
  rcases h with h | h
  · exact ⟨hunion, by simp [h, hsome, hnone], by simp [h]⟩
  · exact ⟨hunion, by simp [h, hsome, hnone], by simp [h]⟩

end ElmCodec.Source.Annot
