import ElmCodec.Proofs.Bisimilar
import ElmCodec.Proofs.Calls

/-!
# The history of a session does not matter

A session that converted some classes before does not walk over them again.  A fresh session
walks over them, and may meet them in another order.  The two walks are compared side by
side: the classes known to the one are those known to the other, together with the *old*
classes of the session (`Beside`).  An old class is settled among old classes, so the fresh
walk passes through it without a failure and meets old classes only.  All other classes are
met by both walks, and so is the first failure (`walkClass_same`).

The registries that both sessions end with hold the records of the same classes at different
places.  The records of a class on both sides unfold to the same tree
(`Complete.bisimilar`).
-/

namespace ElmCodec

open Source (Program ClassId Shape Annot)

namespace Source.Program

/-! ## Walks side by side -/

/-- The known classes are those of a fresh walk and the old ones. -/
def Beside (old fresh known : List ClassId) : Prop := ∀ c, c ∈ known ↔ c ∈ fresh ∨ c ∈ old

/-- Two walks from classes that lie beside each other end in the same way. -/
inductive SameWalk (old : List ClassId) :
    Except Failure (List ClassId) → Except Failure (List ClassId) → Prop where
  | ok {fresh known : List ClassId} : Beside old fresh known → SameWalk old (.ok fresh) (.ok known)
  | error (e : Failure) : SameWalk old (.error e) (.error e)

variable {p : Program} {style : Style} {visit : Visit} {n : Nat}
  {old fresh known fresh' known' : List ClassId}

theorem Beside.snoc (h : Beside old fresh known) (id : ClassId) :
    Beside old (fresh ++ [id]) (known ++ [id]) := by
  intro c
  rw [List.mem_append, List.mem_append, h c, or_right_comm]

/-- What two visits of a class beside each other have to guarantee. -/
def VisitsSame (p : Program) (old : List ClassId) (visit : Visit) (n : Nat) : Prop :=
  ∀ {id fresh known}, p.isRecordClass id = true → p.Room n fresh → p.Room n known →
    Beside old fresh known → SameWalk old (visit id fresh) (visit id known)

theorem walkShape_same (hvisit : p.VisitsSame old visit n) (hfresh : p.Room n fresh)
    (hknown : p.Room n known) (h : Beside old fresh known) {s : Shape}
    (hs : ∀ d, s.class? = some d → p.isRecordClass d = true) :
    SameWalk old (p.walkShape visit s fresh) (p.walkShape visit s known) := by
  induction s with
  | scalar k => exact .ok h
  | optional a s ih => exact ih hs
  | sequence a s ih => exact ih hs
  | record id => exact hvisit (hs id rfl) hfresh hknown h
  | unsupported reason a => exact .error _

theorem walkFields_same (hexplores : p.Explores visit) (hvisit : p.VisitsSame old visit n)
    (hfresh : p.Room n fresh) (hknown : p.Room n known) (h : Beside old fresh known)
    (owner : String) (es : List ExportedField) :
    SameWalk old ((p.walkFields visit owner es fresh).mapError Prod.fst)
      ((p.walkFields visit owner es known).mapError Prod.fst) := by
  induction es generalizing fresh known with
  | nil => exact .ok h
  | cons f es ih =>
    have hclass := p.isRecordClass_of_class? f.hint
    have hsame := walkShape_same hvisit hfresh hknown h hclass
    rw [walkFields, walkFields]
    generalize hx : p.walkShape visit (p.shape f.hint) fresh = x at hsame
    generalize hy : p.walkShape visit (p.shape f.hint) known = y at hsame
    cases hsame with
    | ok h' =>
      exact ih (hfresh.explored hclass (walkShape_explored hexplores hclass hx).2)
        (hknown.explored hclass (walkShape_explored hexplores hclass hy).2) h'
    | error e => exact .error _

theorem walkNew_same (hexplores : p.Explores visit) (hvisit : p.VisitsSame old visit n)
    {id : ClassId} (hfresh : p.Room n (fresh ++ [id])) (hknown : p.Room n (known ++ [id]))
    (h : Beside old fresh known) :
    SameWalk old (p.walkNew visit id fresh) (p.walkNew visit id known) := by
  unfold walkNew
  split
  next e _ => exact .error e
  next => exact .error _
  next es _ _ => exact walkFields_same hexplores hvisit hfresh hknown (h.snoc id) _ es

/-! ## Old classes -/

theorem Reaches.mem_of_settled (hold : ∀ c ∈ old, p.Settled old c) {c d : ClassId} (hc : c ∈ old)
    (h : p.Reaches c d) : d ∈ old := by
  induction h with
  | refl => exact hc
  | tail _ hrefers ih => exact (hold _ ih).closed _ hrefers

/-- A fresh walk passes through an old class and meets old classes only. -/
theorem walkClass_of_old (hold : ∀ c ∈ old, p.Settled old c) {id : ClassId} (hid : id ∈ old)
    (hrec : p.isRecordClass id = true) (hfresh : p.Room n fresh) (h : Beside old fresh known) :
    ∃ fresh', p.walkClass n id fresh = .ok fresh' ∧ Beside old fresh' known := by
  cases hwalk : p.walkClass n id fresh with
  | error e =>
    obtain ⟨c, hreach, hfails⟩ := walkClass_fails n hrec hfresh hwalk
    exact absurd (hold c (hreach.mem_of_settled hold hid)).convertible hfails.not_convertible
  | ok fresh' =>
    have hexplored := walkClass_explored n hrec hwalk
    refine ⟨fresh', rfl, fun c => ?_⟩
    rw [h c]
    constructor
    · rintro (hc | hc)
      · exact Or.inl (hexplored.grows.subset hc)
      · exact Or.inr hc
    · rintro (hc | hc)
      · rcases hexplored.settled c hc with hc | ⟨-, d, rfl, hreach⟩
        · exact Or.inl hc
        · exact Or.inr (hreach.mem_of_settled hold hid)
      · exact Or.inr hc

/-- Two visits of a class end in the same way, whether old classes are known or not. -/
theorem walkClass_same (hold : ∀ c ∈ old, p.Settled old c) (n : Nat) :
    p.VisitsSame old (p.walkClass n) n := by
  induction n with
  | zero =>
    intro id fresh known hrec hfresh hknown h
    by_cases hin : id ∈ fresh
    · rw [walkClass_of_mem hin, walkClass_of_mem ((h id).mpr (Or.inl hin))]
      exact .ok h
    · exact absurd (hfresh.pos hin hrec) (Nat.lt_irrefl 0)
  | succ n ih =>
    intro id fresh known hrec hfresh hknown h
    by_cases hin : id ∈ fresh
    · rw [walkClass_of_mem hin, walkClass_of_mem ((h id).mpr (Or.inl hin))]
      exact .ok h
    · by_cases hid : id ∈ old
      · obtain ⟨fresh', hwalk, h'⟩ := walkClass_of_old hold hid hrec hfresh h
        rw [hwalk, walkClass_of_mem ((h id).mpr (Or.inr hid))]
        exact .ok h'
      · have hnew : id ∉ known := fun hc => ((h id).mp hc).elim hin hid
        rw [walkClass_succ hin, walkClass_succ hnew]
        exact walkNew_same (walkClass_explored n) ih (hfresh.snoc hin hrec)
          (hknown.snoc hnew hrec) h

/-! ## Registries with the same classes -/

/-- The places of a class on two sides. -/
def SamePlace (known fresh : List ClassId) (i j : Elm.RecordId) : Prop :=
  ∃ c, known[i]? = some c ∧ fresh[j]? = some c

theorem samePlace_idxOf {c : ClassId} (hknown : c ∈ known) (hfresh : c ∈ fresh) :
    SamePlace known fresh (known.idxOf c) (fresh.idxOf c) :=
  ⟨c, List.getElem?_idxOf hknown, List.getElem?_idxOf hfresh⟩

theorem elmType_related {s : Shape}
    (h : ∀ d, s.class? = some d → d ∈ known ∧ d ∈ fresh) :
    (s.elmType known.idxOf).Related (SamePlace known fresh) (s.elmType fresh.idxOf) := by
  induction s with
  | scalar k => exact .primitive _
  | optional a s ih => exact .nullable (ih h)
  | sequence a s ih => exact .list (ih h)
  | record id =>
    obtain ⟨hknown, hfresh⟩ := h id rfl
    exact .record (samePlace_idxOf hknown hfresh)
  | unsupported reason a => exact .incomplete _

theorem recordOf_related {c : ClassId} (hknown : p.Settled known c) (hfresh : p.Settled fresh c) :
    (p.recordOf style known c).Related (SamePlace known fresh) (p.recordOf style fresh c) := by
  obtain ⟨es, hes, -, -⟩ := convertible_iff.mp hknown.convertible
  rw [recordOf_eq hes, recordOf_eq hes]
  refine ⟨rfl, ?_⟩
  rw [List.forall₂_map_left_iff, List.forall₂_map_right_iff, List.forall₂_same]
  intro e he
  refine ⟨rfl, rfl, rfl, elmType_related fun d hd => ?_⟩
  have hrefers : p.RefersTo c d := (refersTo_iff hes).mpr ⟨e, he, hd⟩
  exact ⟨hknown.closed d hrefers, hfresh.closed d hrefers⟩

theorem Complete.isBisimulation {r r' : Registry} (h : p.Complete style r known)
    (h' : p.Complete style r' fresh) :
    Elm.Schema.IsBisimulation r.records r'.records (SamePlace known fresh) := by
  rintro i j ⟨c, hi, hj⟩
  rw [h.records, h'.records, List.getElem?_map, List.getElem?_map, hi, hj]
  exact ⟨_, _, rfl, rfl, recordOf_related (h.settled c (List.mem_of_getElem? hi))
    (h'.settled c (List.mem_of_getElem? hj))⟩

/-- The types of a shape on two registries unfold to the same tree. -/
theorem Complete.bisimilar {r r' : Registry} (h : p.Complete style r known)
    (h' : p.Complete style r' fresh) {s : Shape}
    (hs : ∀ d, s.class? = some d → d ∈ known ∧ d ∈ fresh) :
    Elm.Ty.Bisimilar r.records r'.records (s.elmType known.idxOf) (s.elmType fresh.idxOf) :=
  ⟨_, h.isBisimulation h', elmType_related hs⟩

end Source.Program

/-! ## The main result -/

/-- Two conversions give types with the same unfolding, or the same failure. -/
def SameOutcome : Except Failure Elm.Ty × Session → Except Failure Elm.Ty × Session → Prop
  | (.ok t, s), (.ok t', s') =>
    Elm.Ty.Bisimilar s.registry.records s'.registry.records t t' ∧
      Elm.Ty.sameContent s.registry.records s'.registry.records t t' = true
  | (.error e, _), (.error e', _) => e = e'
  | _, _ => False

/-- A conversion after any calls has the outcome that it has in a fresh session. -/
theorem Source.Program.convert_after_calls (p : Program) (style : Style) (calls : List Call)
    (a : Annot) :
    SameOutcome ((p.convert style a).run (p.sessionAfter style {} calls))
      ((p.convert style a).run {}) := by
  obtain ⟨old, hold⟩ := sessionAfter_complete (s := {}) (complete_empty p style) calls
  have hruns := convert_runs hold a
  have hruns' := convert_runs (complete_empty p style) a
  have hsame : SameWalk old (p.walkAnnot a []) (p.walkAnnot a old) := by
    refine walkShape_same (walkClass_same hold.settled _) (complete_empty p style).room hold.room
      (fun c => by simp) (p.isRecordClass_of_class? a)
  generalize p.walkAnnot a [] = x at hsame hruns'
  generalize p.walkAnnot a old = y at hsame hruns
  cases hsame with
  | ok _ =>
    obtain ⟨hclass, r, hcomplete, -, hrun⟩ := hruns
    obtain ⟨hclass', r', hcomplete', -, hrun'⟩ := hruns'
    have hbisimilar := hcomplete.bisimilar hcomplete' (s := p.shape a)
      fun d hd => ⟨hclass d hd, hclass' d hd⟩
    obtain ⟨events, hrun⟩ := hrun (p.sessionAfter style {} calls).events
    obtain ⟨events', hrun'⟩ := hrun' []
    rw [hrun, hrun']
    exact ⟨hbisimilar, hbisimilar.sameContent⟩
  | error e =>
    obtain ⟨events, hrun⟩ := hruns (p.sessionAfter style {} calls).events
    obtain ⟨events', hrun'⟩ := hruns' []
    rw [hrun, hrun']
    rfl

end ElmCodec
