import ElmCodec.Elm.Agreement
import Mathlib.Data.List.Perm.Subperm
import Mathlib.Data.List.ProdSigma

/-!
# Bisimilar types

A type unfolds to a tree, which is infinite if the type leads to a cyclic record.  Types of
two schemas are *bisimilar* if they unfold to the same tree.  It is enough to give a relation
between the records of the schemas that is kept by one step of unfolding
(`Schema.IsBisimulation`).

The comparison of types takes a pair of records that it met before as agreeing, so it ends
on cyclic records as well.  It meets no pair twice, and the number of pairs is fuel enough:
types that are bisimilar have the same content for it (`Ty.Bisimilar.sameContent`).
-/

namespace ElmCodec.Elm

/-! ## One step of unfolding -/

/-- Types that are built in the same way from related records. -/
inductive Ty.Related (R : RecordId → RecordId → Prop) : Ty → Ty → Prop where
  | primitive (p : Primitive) : Related R (.primitive p) (.primitive p)
  | list {a b : Ty} : Related R a b → Related R (.list a) (.list b)
  | nullable {a b : Ty} : Related R a b → Related R (.nullable a) (.nullable b)
  | record {i j : RecordId} : R i j → Related R (.record i) (.record j)
  | incomplete (w : Wrapper) : Related R (.incomplete w) (.incomplete w)
  | foreign (kind key name : String) : Related R (.foreign kind key name) (.foreign kind key name)

/-- Fields that differ in the records of their types only. -/
structure Field.Related (R : RecordId → RecordId → Prop) (f g : Field) : Prop where
  key : f.key = g.key
  name : f.name = g.name
  omittable : f.omittable = g.omittable
  type : f.type.Related R g.type

/-- Records with the same name whose fields are related in order. -/
structure Record.Related (R : RecordId → RecordId → Prop) (a b : Record) : Prop where
  name : a.name = b.name
  fields : List.Forall₂ (Field.Related R) a.fields b.fields

/-- A relation between records that one step of unfolding keeps. -/
def Schema.IsBisimulation (s t : Schema) (R : RecordId → RecordId → Prop) : Prop :=
  ∀ i j, R i j → ∃ a b, s[i]? = some a ∧ t[j]? = some b ∧ a.Related R b

/-- Types that unfold to the same tree. -/
def Ty.Bisimilar (s t : Schema) (a b : Ty) : Prop :=
  ∃ R, Schema.IsBisimulation s t R ∧ a.Related R b

/-! ## The comparison meets each pair once -/

variable {s t : Schema} {R : RecordId → RecordId → Prop} {fuel : Nat} {met : Met}

/-- Fuel for the pairs that are not met yet. -/
structure Fuelled (s t : Schema) (fuel : Nat) (met : Met) : Prop where
  nodup : met.Nodup
  defined : ∀ q ∈ met, q.1 < s.length ∧ q.2 < t.length
  enough : pairCount s t ≤ fuel + met.length

theorem fuelled_nil (s t : Schema) : Fuelled s t (pairCount s t) [] where
  nodup := List.nodup_nil
  defined := by simp
  enough := by simp

namespace Fuelled

theorem mono (h : Fuelled s t fuel met) : Fuelled s t (fuel + 1) met where
  nodup := h.nodup
  defined := h.defined
  enough := by
    have := h.enough
    omega

theorem cons {i j : RecordId} (h : Fuelled s t (fuel + 1) met) (hnew : (i, j) ∉ met)
    (hi : i < s.length) (hj : j < t.length) : Fuelled s t fuel ((i, j) :: met) where
  nodup := List.nodup_cons.mpr ⟨hnew, h.nodup⟩
  defined := by
    intro q hq
    cases List.mem_cons.mp hq with
    | inl heq => exact heq ▸ ⟨hi, hj⟩
    | inr hq => exact h.defined q hq
  enough := by
    have := h.enough
    rw [List.length_cons]
    omega

/-- There is fuel for a pair that is not met yet. -/
theorem pos {i j : RecordId} (h : Fuelled s t fuel met) (hnew : (i, j) ∉ met) (hi : i < s.length)
    (hj : j < t.length) : 0 < fuel := by
  have hnodup : ((i, j) :: met).Nodup := List.nodup_cons.mpr ⟨hnew, h.nodup⟩
  have hsub : (i, j) :: met ⊆ List.range s.length ×ˢ List.range t.length := by
    rintro ⟨k, l⟩ hq
    rw [List.mem_product, List.mem_range, List.mem_range]
    cases List.mem_cons.mp hq with
    | inl heq => cases heq; exact ⟨hi, hj⟩
    | inr hq => exact h.defined _ hq
  have hlen := (List.subperm_of_subset hnodup hsub).length_le
  rw [List.length_cons, List.length_product, List.length_range, List.length_range] at hlen
  have henough := h.enough
  unfold pairCount at henough
  omega

end Fuelled

/-! ## Bisimilar types agree -/

/-- A comparison of records that accepts related ones. -/
def Accepts (s t : Schema) (R : RecordId → RecordId → Prop) (fuel : Nat)
    (records : RecordId → RecordId → Met → Option Met) : Prop :=
  ∀ {i j met}, R i j → Fuelled s t fuel met →
    ∃ met', records i j met = some met' ∧ Fuelled s t fuel met'

section

variable {records : RecordId → RecordId → Met → Option Met}

theorem Ty.agree_of_related (hrecords : Accepts s t R fuel records) {a b : Ty}
    (h : a.Related R b) (hmet : Fuelled s t fuel met) :
    ∃ met', Ty.agree records a b met = some met' ∧ Fuelled s t fuel met' := by
  induction h with
  | primitive p => exact ⟨met, if_pos rfl, hmet⟩
  | list _ ih => exact ih
  | nullable _ ih => exact ih
  | record hR => exact hrecords hR hmet
  | incomplete w => exact ⟨met, if_pos rfl, hmet⟩
  | foreign kind key name => exact ⟨met, if_pos ⟨rfl, rfl, rfl⟩, hmet⟩

theorem Field.agree_of_related (hrecords : Accepts s t R fuel records) {f g : Field}
    (h : f.Related R g) (hmet : Fuelled s t fuel met) :
    ∃ met', Field.agree records f g met = some met' ∧ Fuelled s t fuel met' := by
  rw [Field.agree, if_pos ⟨h.key, h.name, h.omittable⟩]
  exact Ty.agree_of_related hrecords h.type hmet

theorem fieldsAgree_of_related (hrecords : Accepts s t R fuel records) {fs gs : List Field}
    (h : List.Forall₂ (Field.Related R) fs gs) (hmet : Fuelled s t fuel met) :
    ∃ met', fieldsAgree records fs gs met = some met' ∧ Fuelled s t fuel met' := by
  induction h generalizing met with
  | nil => exact ⟨met, rfl, hmet⟩
  | cons hfield _ ih =>
    obtain ⟨met₁, hagree, hmet₁⟩ := Field.agree_of_related hrecords hfield hmet
    obtain ⟨met₂, hrest, hmet₂⟩ := ih hmet₁
    refine ⟨met₂, ?_, hmet₂⟩
    rw [fieldsAgree, hagree]
    exact hrest

end

theorem recordsAgree_of_mem {i j : RecordId} (h : (i, j) ∈ met) :
    recordsAgree s t fuel i j met = some met := by
  unfold recordsAgree
  rw [if_pos (List.contains_iff_mem.mpr h)]

theorem recordsAgree_succ {i j : RecordId} {a b : Record} (h : (i, j) ∉ met) (ha : s[i]? = some a)
    (hb : t[j]? = some b) (hname : a.name = b.name) (hlength : a.fields.length = b.fields.length) :
    recordsAgree s t (fuel + 1) i j met =
      fieldsAgree (recordsAgree s t fuel) a.fields b.fields ((i, j) :: met) := by
  rw [recordsAgree.eq_def]
  simp only
  rw [if_neg (mt List.contains_iff_mem.mp h), ha, hb]
  exact if_pos ⟨hname, hlength⟩

/-- The comparison of records accepts what a bisimulation relates. -/
theorem recordsAgree_accepts (hR : Schema.IsBisimulation s t R) (fuel : Nat) :
    Accepts s t R fuel (recordsAgree s t fuel) := by
  induction fuel with
  | zero =>
    intro i j met hij hmet
    obtain ⟨a, b, ha, hb, -⟩ := hR i j hij
    by_cases hin : (i, j) ∈ met
    · exact ⟨met, recordsAgree_of_mem hin, hmet⟩
    · have hpos := hmet.pos hin (List.getElem?_eq_some_iff.mp ha).1
        (List.getElem?_eq_some_iff.mp hb).1
      exact absurd hpos (Nat.lt_irrefl 0)
  | succ fuel ih =>
    intro i j met hij hmet
    obtain ⟨a, b, ha, hb, hab⟩ := hR i j hij
    by_cases hin : (i, j) ∈ met
    · exact ⟨met, recordsAgree_of_mem hin, hmet⟩
    · -- The pair counts as met while its fields are compared.
      have hmet' := hmet.cons hin (List.getElem?_eq_some_iff.mp ha).1
        (List.getElem?_eq_some_iff.mp hb).1
      obtain ⟨met', hagree, hmet'⟩ := fieldsAgree_of_related ih hab.fields hmet'
      rw [recordsAgree_succ hin ha hb hab.name hab.fields.length_eq]
      exact ⟨met', hagree, hmet'.mono⟩

/-- Types that unfold to the same tree have the same content. -/
theorem Ty.Bisimilar.sameContent {a b : Ty} (h : Ty.Bisimilar s t a b) :
    Ty.sameContent s t a b = true := by
  obtain ⟨R, hR, hab⟩ := h
  obtain ⟨met, hagree, -⟩ :=
    Ty.agree_of_related (recordsAgree_accepts hR (pairCount s t)) hab (fuelled_nil s t)
  rw [Ty.sameContent, hagree]
  rfl

end ElmCodec.Elm
