import ElmCodec.Proofs.Walk

/-!
# A tour of the class graph

The walk over the class graph keeps the classes it has met, and passes over a class that it
meets again.  The *tour* keeps nothing.  It goes through the tree of all ways through the
class graph, depth first, where only a way that comes back to a class on it ends there.  A
class that several ways lead to is toured once for each of them.

At a class the tour looks at the hints first.  Then it takes the exported fields in the order
of their declaration, and in the end it checks that there was one.  It does not stop at a
failure.

The walk does what somebody does who follows the tour, writes down the classes when they come
up for the first time and stops at the first failure (`walkClass_eq_tour`).  A class that the
walk passes over is settled, so that its tour holds no failure, and no class that is not known
unless it leads through a class that is on the way.
-/

namespace ElmCodec

open Source (Program ClassId Shape Annot)

/-- What a tour comes to. -/
inductive Sight where
  /-- It comes to a class. -/
  | arrival (c : ClassId)
  /-- It comes to a failure of a class. -/
  | failure (c : ClassId) (e : Failure)

namespace Sight

/-- The class that the tour comes to. -/
def class? : Sight → Option ClassId
  | .arrival c => some c
  | .failure .. => none

/-- The failure that the tour comes to, with its class. -/
def failure? : Sight → Option (ClassId × Failure)
  | .arrival _ => none
  | .failure c e => some (c, e)

end Sight

namespace Source.Program

/-- Some classes without one of them. -/
def without (c : ClassId) (free : List ClassId) : List ClassId := free.filter (· ≠ c)

theorem mem_without {c d : ClassId} {free : List ClassId} :
    d ∈ without c free ↔ d ∈ free ∧ d ≠ c := by
  simp [without]

theorem length_without_lt {c : ClassId} {free : List ClassId} (h : c ∈ free) :
    (without c free).length < free.length :=
  List.length_filter_lt_length_iff_exists.mpr ⟨c, h, by simp⟩

/-- The tour of an exported field of a class, given the tours of other classes. -/
def fieldTour (p : Program) (below : ClassId → List Sight) (c : ClassId) (f : ExportedField) :
    List Sight :=
  match (p.shape f.hint).gap?, (p.shape f.hint).class? with
  | some (reason, a), _ =>
    [.failure c (.problem ⟨.unsupported reason (p.label a), some (p.className (.declared c)),
      some f.name⟩)]
  | none, some d => below d
  | none, none => []

/-- The tour of a class, where the classes other than `free` are on the way to it. -/
def tour (p : Program) (free : List ClassId) (c : ClassId) : List Sight :=
  if c ∈ free then
    .arrival c ::
      match p.exportedFields c with
      | .error e => [.failure c e]
      | .ok fields =>
        fields.flatMap (p.fieldTour (p.tour (without c free)) c) ++
          if fields.isEmpty then
            [.failure c (.problem ⟨.noField, some (p.className (.declared c)), none⟩)]
          else []
  else []
termination_by free.length
decreasing_by exact length_without_lt ‹_›

/-- The tour that starts at a class. -/
def tourFrom (p : Program) (root : ClassId) : List Sight :=
  p.tour (List.range p.classes.length) root

/-- The classes in the order in which a tour comes to them for the first time. -/
def preorder (p : Program) (root : ClassId) : List ClassId :=
  ((p.tourFrom root).filterMap Sight.class?).eraseDups

/-- The first failure that a tour comes to, with its class. -/
def firstFailure? (p : Program) (root : ClassId) : Option (ClassId × Failure) :=
  (p.tourFrom root).findSome? Sight.failure?

end Source.Program

/-! ## Following a tour -/

/-- Writes a class down if it is new, and stops at a failure. -/
def Sight.note (known : List ClassId) : Sight → Except Failure (List ClassId)
  | .arrival c => .ok (if c ∈ known then known else known ++ [c])
  | .failure _ e => .error e

/-- Follows a tour up to the first failure. -/
def follow (known : List ClassId) (sights : List Sight) : Except Failure (List ClassId) :=
  sights.foldlM Sight.note known

theorem follow_append (known : List ClassId) (xs ys : List Sight) :
    follow known (xs ++ ys) = follow known xs >>= fun known' => follow known' ys :=
  List.foldlM_append

theorem follow_known {known : List ClassId} {xs : List Sight}
    (h : ∀ x ∈ xs, ∃ c ∈ known, x = .arrival c) : follow known xs = .ok known := by
  induction xs with
  | nil => rfl
  | cons x xs ih =>
    obtain ⟨c, hc, rfl⟩ := h x List.mem_cons_self
    have hnote : Sight.note known (.arrival c) = .ok known := by simp [Sight.note, hc]
    rw [follow, List.foldlM_cons, hnote]
    exact ih fun x hx => h x (List.mem_cons_of_mem _ hx)

/-- What is written down along a tour without failure are the new classes, each where it comes
up first. -/
theorem follow_eq (known : List ClassId) (xs : List Sight) :
    follow known xs =
      match xs.findSome? Sight.failure? with
      | some (_, e) => .error e
      | none => .ok (known ++ ((xs.filterMap Sight.class?).removeAll known).eraseDups) := by
  induction xs generalizing known with
  | nil => simp [follow, List.removeAll]; rfl
  | cons x xs ih =>
    cases x with
    | failure c e => rfl
    | arrival c =>
      change follow (if c ∈ known then known else known ++ [c]) xs = _
      rw [ih]
      simp only [List.findSome?_cons, Sight.failure?, List.filterMap_cons, Sight.class?]
      cases xs.findSome? Sight.failure? with
      | some failed => rfl
      | none =>
        by_cases hc : c ∈ known
        · simp [hc, List.removeAll]
        · simp [hc, List.removeAll, List.eraseDups_cons, List.filter_filter, Bool.and_comm,
            beq_eq_decide]

/-! ## What a tour holds -/

namespace Source.Program

variable {p : Program} {visit : Visit} {below : ClassId → List Sight} {n : Nat}
  {free known known' : List ClassId} {c d : ClassId} {x : Sight}

theorem mem_fieldTour {f : ExportedField} (h : x ∈ p.fieldTour below c f) :
    (∃ reason a, (p.shape f.hint).gap? = some (reason, a) ∧
      x = .failure c ((Failure.ofProblem (.unsupported reason (p.label a))).orAt
        (p.className (.declared c)) f.name)) ∨
    ∃ d, (p.shape f.hint).class? = some d ∧ x ∈ below d := by
  unfold fieldTour at h
  split at h
  next _ reason a hgap => exact Or.inl ⟨reason, a, hgap, List.mem_singleton.mp h⟩
  next d _ hclass => exact Or.inr ⟨d, hclass, h⟩
  next => cases h

/-- A tour of a class comes to the class, to its failures, and to what the tours of the classes
come to that it refers to. -/
theorem mem_tour (h : x ∈ p.tour free c) :
    c ∈ free ∧ (x = .arrival c ∨ (∃ e, x = .failure c e ∧ p.FailsAt c e) ∨
      ∃ d, p.RefersTo c d ∧ x ∈ p.tour (without c free) d) := by
  rw [tour] at h
  split at h
  next hc =>
    refine ⟨hc, ?_⟩
    rcases List.mem_cons.mp h with rfl | h
    · exact Or.inl rfl
    · refine Or.inr ?_
      split at h
      next e hes => exact Or.inl ⟨e, List.mem_singleton.mp h, .exported hes⟩
      next es hes =>
        rcases List.mem_append.mp h with h | h
        · obtain ⟨f, hf, hx⟩ := List.mem_flatMap.mp h
          rcases mem_fieldTour hx with ⟨reason, a, hgap, rfl⟩ | ⟨d, hd, hx⟩
          · exact Or.inl ⟨_, rfl, .field hes hf hgap⟩
          · exact Or.inr ⟨d, (refersTo_iff hes).mpr ⟨f, hf, hd⟩, hx⟩
        · split at h
          next hempty =>
            cases List.isEmpty_iff.mp hempty
            exact Or.inl ⟨_, List.mem_singleton.mp h, .noField hes⟩
          next => cases h
  next => cases h

/-- A failure on a tour is one of a class that the tour reaches. -/
theorem failure_mem_tour {e : Failure} (h : .failure c e ∈ p.tour free d) :
    p.Reaches d c ∧ p.FailsAt c e := by
  induction free, d using tour.induct with
  | case1 free d _ ih =>
    rcases (mem_tour h).2 with hx | ⟨e', hx, hfails⟩ | ⟨d', hrefers, hx⟩
    · cases hx
    · cases hx
      exact ⟨.refl, hfails⟩
    · obtain ⟨hreach, hfails⟩ := ih d' hx
      exact ⟨.head hrefers hreach, hfails⟩
  | case2 free d hd => exact absurd (mem_tour h).1 hd

/-- A tour from a known class comes to known classes only, if those that are not on the way are
settled. -/
theorem tour_known (hsettled : ∀ d ∈ known, d ∈ free → p.Settled known d) (hc : c ∈ known)
    (hx : x ∈ p.tour free c) : ∃ d ∈ known, x = .arrival d := by
  induction free, c using tour.induct with
  | case1 free c hfree ih =>
    have hset := hsettled c hc hfree
    rcases (mem_tour hx).2 with hx | ⟨e, -, hfails⟩ | ⟨d, hrefers, hx⟩
    · exact ⟨c, hc, hx⟩
    · exact absurd hset.convertible hfails.not_convertible
    · refine ih d (fun d' hd' hin => ?_) (hset.closed d hrefers) hx
      exact hsettled d' hd' (mem_without.mp hin).1
  | case2 free c hfree => exact absurd (mem_tour hx).1 hfree

/-! ## The walk along the tour -/

/-- A known class is on the way, or it is free and settled.  All others are free. -/
structure OnTour (p : Program) (free known : List ClassId) : Prop where
  new : ∀ d, p.isRecordClass d = true → d ∉ known → d ∈ free
  settled : ∀ d ∈ known, d ∈ free → p.Settled known d

namespace OnTour

theorem enter (h : p.OnTour free known) (c : ClassId) :
    p.OnTour (without c free) (known ++ [c]) where
  new d hrec hd := by
    simp only [List.mem_append, List.mem_singleton, not_or] at hd
    exact mem_without.mpr ⟨h.new d hrec hd.1, hd.2⟩
  settled d hd hin := by
    obtain ⟨hfree, hne⟩ := mem_without.mp hin
    have hold : d ∈ known := by simpa [hne] using hd
    exact (h.settled d hold hfree).mono (List.subset_append_left known [c])

theorem explored {start : ClassId → Prop} (h : p.OnTour free known)
    (hx : p.Explored start known known') : p.OnTour free known' where
  new d hrec hd := h.new d hrec fun hold => hd (hx.grows.subset hold)
  settled d hd hin := by
    rcases hx.settled d hd with hold | ⟨hnew, -⟩
    · exact (h.settled d hold hin).mono hx.grows.subset
    · exact hnew

end OnTour

/-- Visits follow tours. -/
def VisitsTour (p : Program) (visit : Visit) (n : Nat) (free : List ClassId)
    (below : ClassId → List Sight) : Prop :=
  ∀ {id known}, p.isRecordClass id = true → p.Room n known → p.OnTour free known →
    visit id known = follow known (below id)

theorem walkShape_eq (p : Program) (visit : Visit) (s : Shape) (known : List ClassId) :
    p.walkShape visit s known =
      match s.gap?, s.class? with
      | some (reason, a), _ => .error (.ofProblem (.unsupported reason (p.label a)))
      | none, some d => visit d known
      | none, none => .ok known := by
  induction s with
  | optional a s ih => exact ih
  | sequence a s ih => exact ih
  | _ => rfl

/-- The failure at a class that a field leads to is not changed by the field. -/
theorem walkField_eq_tour (hblames : p.Blames visit n) (hvisit : p.VisitsTour visit n free below)
    (hroom : p.Room n known) (h : p.OnTour free known) (f : ExportedField) :
    (p.walkShape visit (p.shape f.hint) known).mapError
        (Failure.orAt (p.className (.declared c)) f.name) =
      follow known (p.fieldTour below c f) := by
  rw [walkShape_eq, fieldTour]
  split
  next => rfl
  next d _ hclass =>
    have hrec := p.isRecordClass_of_class? f.hint d hclass
    rw [← hvisit hrec hroom h]
    cases hwalk : visit d known with
    | ok known' => rfl
    | error e =>
      obtain ⟨c', -, hfails⟩ := hblames hrec hroom hwalk
      exact congrArg Except.error (hfails.orAt _ _)
  next => rfl

theorem walkFields_eq_tour (hexplores : p.Explores visit) (hblames : p.Blames visit n)
    (hvisit : p.VisitsTour visit n free below) (hroom : p.Room n known) (h : p.OnTour free known)
    (es : List ExportedField) :
    (p.walkFields visit (p.className (.declared c)) es known).mapError Prod.fst =
      follow known (es.flatMap (p.fieldTour below c)) := by
  induction es generalizing known with
  | nil => rfl
  | cons f es ih =>
    have hclass := p.isRecordClass_of_class? f.hint
    rw [List.flatMap_cons, follow_append, ← walkField_eq_tour hblames hvisit hroom h f, walkFields]
    cases hwalk : p.walkShape visit (p.shape f.hint) known with
    | error e => rfl
    | ok known' =>
      have hexplored := (walkShape_explored hexplores hclass hwalk).2
      exact ih (hroom.explored hclass hexplored) (h.explored hexplored)

theorem walkNew_eq_tour (hexplores : p.Explores visit) (hblames : p.Blames visit n)
    (hvisit : p.VisitsTour visit n (without c free) (p.tour (without c free)))
    (hroom : p.Room n (known ++ [c])) (h : p.OnTour free known) (hc : c ∉ known)
    (hrec : p.isRecordClass c = true) :
    p.walkNew visit c known = follow known (p.tour free c) := by
  have hnote : ∀ xs, follow known (.arrival c :: xs) = follow (known ++ [c]) xs := by
    intro xs
    change follow (if c ∈ known then known else known ++ [c]) xs = _
    rw [if_neg hc]
  rw [tour, if_pos (h.new c hrec hc), hnote, walkNew]
  split
  next e hes => rw [hes]; rfl
  next hes => rw [hes]; rfl
  next es hne hes =>
    have hnonempty : es.isEmpty = false := by simpa using hne
    rw [hes]
    simp only [hnonempty, Bool.false_eq_true, if_false, List.append_nil]
    exact walkFields_eq_tour hexplores hblames hvisit hroom (h.enter c) es

/-- The walk follows the tour. -/
theorem walkClass_eq_tour (n : Nat) (free : List ClassId) :
    p.VisitsTour (p.walkClass n) n free (p.tour free) := by
  have hknown : ∀ {n free id known}, id ∈ known → p.OnTour free known →
      p.walkClass n id known = follow known (p.tour free id) := by
    intro n free id known hid h
    rw [walkClass_of_mem hid, follow_known fun x hx => tour_known h.settled hid hx]
  induction n generalizing free with
  | zero =>
    intro id known hrec hroom h
    by_cases hid : id ∈ known
    · exact hknown hid h
    · exact absurd (hroom.pos hid hrec) (Nat.lt_irrefl 0)
  | succ n ih =>
    intro id known hrec hroom h
    by_cases hid : id ∈ known
    · exact hknown hid h
    · rw [walkClass_succ hid]
      exact walkNew_eq_tour (walkClass_explored n) (walkClass_fails n) (ih (without id free))
        (hroom.snoc hid hrec) h hid hrec

end Source.Program

end ElmCodec
