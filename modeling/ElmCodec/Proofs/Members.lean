import ElmCodec.Source.Union
import Mathlib.Data.List.Basic

/-!
# Members of unions

A union of either kind stands for its members, and any other annotation for itself
(`Annot.parts`).  The union of some annotations has their parts as members, each once
(`mem_flattened`, `pairwise_distinct`), unless there is only one.
-/

namespace ElmCodec.Source.Annot

variable {a b : Annot} {as : List Annot}

/-- Whether an annotation is a union of either kind. -/
def isUnion : Annot → Bool
  | .union _ | .pipe _ => true
  | _ => false

/-- The members of a union, and any other annotation by itself. -/
def parts : Annot → List Annot
  | .union members | .pipe members => members
  | a => [a]

theorem parts_of_not_isUnion (h : a.isUnion = false) : a.parts = [a] := by
  cases a with
  | union | pipe => cases h
  | _ => rfl

theorem flattened_eq_flatMap (as : List Annot) : flattened as = as.flatMap parts := by
  fun_induction flattened as with
  | case1 => rfl
  | case2 members rest ih => rw [ih, List.flatMap_cons, parts]
  | case3 members rest ih => rw [ih, List.flatMap_cons, parts]
  | case4 a rest hunion hpipe ih =>
    have ha : a.isUnion = false := by
      cases a with
      | union members => exact absurd rfl (hunion members)
      | pipe members => exact absurd rfl (hpipe members)
      | _ => rfl
    rw [ih, List.flatMap_cons, parts_of_not_isUnion ha, List.singleton_append]

/-- Flattening gives the parts of all annotations. -/
theorem mem_flattened : a ∈ flattened as ↔ ∃ b ∈ as, a ∈ b.parts := by
  rw [flattened_eq_flatMap, List.mem_flatMap]

theorem distinct_subset (as : List Annot) : distinct as ⊆ as := by
  have hafter : ∀ seen, distinctAfter seen as ⊆ as := by
    induction as with
    | nil => exact fun _ => List.Subset.refl _
    | cons a as ih =>
      intro seen
      unfold distinctAfter
      split
      · exact List.subset_cons_of_subset a (ih seen)
      · exact List.cons_subset_cons a (ih _)
  exact hafter []

/-- No two members of a list without repetitions are equal. -/
theorem pairwise_distinct (as : List Annot) :
    (distinct as).Pairwise fun a b => a.same b = false := by
  have hafter : ∀ seen, (distinctAfter seen as).Pairwise (fun a b => a.same b = false) ∧
      ∀ a ∈ seen, ∀ b ∈ distinctAfter seen as, a.same b = false := by
    induction as with
    | nil => exact fun _ => ⟨List.Pairwise.nil, fun _ _ _ hb => nomatch hb⟩
    | cons c as ih =>
      intro seen
      unfold distinctAfter
      split
      next => exact ih seen
      next hnew =>
        have hfresh : ∀ a ∈ seen, a.same c = false := by simpa using hnew
        obtain ⟨hpairs, hseen⟩ := ih (seen ++ [c])
        refine ⟨List.pairwise_cons.mpr ⟨hseen c (by simp), hpairs⟩, fun a ha b hb => ?_⟩
        rcases List.mem_cons.mp hb with rfl | hb
        · exact hfresh a ha
        · exact hseen a (List.mem_append_left _ ha) b hb
  exact (hafter []).1

/-- The union of some annotations is their only distinct part, or has these as members. -/
theorem unionOf_induction {P : Annot → Prop} (hpart : ∀ a ∈ distinct (flattened as), P a)
    (hunion : P (.union (distinct (flattened as)))) : P (unionOf as) := by
  unfold unionOf
  split
  next a heq => exact hpart a (heq ▸ List.mem_singleton_self a)
  next => exact hunion

theorem pipeOf_induction {P : Annot → Prop} (hpart : ∀ a ∈ distinct (flattened as), P a)
    (hpipe : P (.pipe (distinct (flattened as)))) : P (pipeOf as) := by
  unfold pipeOf
  split
  next a heq => exact hpart a (heq ▸ List.mem_singleton_self a)
  next => exact hpipe

end ElmCodec.Source.Annot
