import ElmCodec.Proofs.ClassGraph
import ElmCodec.Proofs.Registry
import Mathlib.Data.List.Perm.Subperm

/-!
# The walk over the class graph

The conversion walks over the class graph, depth first, and builds records on its
way.  Here is the walk alone.  Its state is the list of the classes known so far, in
the order in which they were met, and its result is the longer list or the failure at
which it stopped.

A class is *settled* among some classes if it is convertible and refers to these
classes only.  A walk that succeeds only adds classes at the end, and each class that
it adds is settled among the classes known in the end (`walkClass_explored`).  The
class whose fields are being walked is the one that is known and not yet settled.

A walk that fails stopped at a class it reached, and the failure is one of that class
(`walkClass_fails`).  This needs a bound that leaves room for the classes not yet
known.
-/

namespace ElmCodec.Source.Program

/-- A visit of a class takes the known classes to those known after it. -/
abbrev Visit := ClassId → List ClassId → Except Failure (List ClassId)

/-- Visits the class that stands innermost in a shape. -/
def walkShape (p : Program) (visit : Visit) : Shape → List ClassId → Except Failure (List ClassId)
  | .scalar _, known => .ok known
  | .optional _ s, known => p.walkShape visit s known
  | .sequence _ s, known => p.walkShape visit s known
  | .record id, known => visit id known
  | .unsupported reason a, _ => .error (.ofProblem (.unsupported reason (p.label a)))

/-- Visits the classes of exported fields in order.  A failure comes with the classes
known before the field at which it arose. -/
def walkFields (p : Program) (visit : Visit) (owner : String) :
    List ExportedField → List ClassId → Except (Failure × List ClassId) (List ClassId)
  | [], known => .ok known
  | f :: rest, known =>
    match p.walkShape visit (p.shape f.hint) known with
    | .ok known' => p.walkFields visit owner rest known'
    | .error e => .error (e.orAt owner f.name, known)

/-- Visits a class that is not known. -/
def walkNew (p : Program) (visit : Visit) (id : ClassId) (known : List ClassId) :
    Except Failure (List ClassId) :=
  match p.exportedFields id with
  | .error e => .error e
  | .ok [] => .error (.ofRecord .noField (p.className (.declared id)))
  | .ok es => (p.walkFields visit (p.className (.declared id)) es (known ++ [id])).mapError Prod.fst

/-- Visits a class, where at most so many classes are not known. -/
def walkClass (p : Program) : Nat → Visit
  | unknown, id, known =>
    if id ∈ known then .ok known
    else
      match unknown with
      | 0 => .error (.fault (.undeclared id))
      | n + 1 => p.walkNew (p.walkClass n) id known

section

variable {p : Program} {id : ClassId} {known : List ClassId}

theorem walkClass_of_mem {n : Nat} (h : id ∈ known) : p.walkClass n id known = .ok known := by
  unfold walkClass
  rw [if_pos h]

theorem walkClass_zero (h : id ∉ known) :
    p.walkClass 0 id known = .error (.fault (.undeclared id)) := by
  unfold walkClass
  rw [if_neg h]

theorem walkClass_succ {n : Nat} (h : id ∉ known) :
    p.walkClass (n + 1) id known = p.walkNew (p.walkClass n) id known := by
  rw [walkClass.eq_def]
  exact if_neg h

end

/-! ## Settled classes -/

/-- A convertible class that refers to known classes only. -/
structure Settled (p : Program) (known : List ClassId) (c : ClassId) : Prop where
  convertible : p.Convertible c
  closed : ∀ d, p.RefersTo c d → d ∈ known

theorem Settled.mono {p : Program} {known known' : List ClassId} {c : ClassId}
    (h : p.Settled known c) (hsub : known ⊆ known') : p.Settled known' c :=
  ⟨h.convertible, fun d hd => hsub (h.closed d hd)⟩

/-- What a walk from some classes adds to the known classes. -/
structure Explored (p : Program) (start : ClassId → Prop) (known known' : List ClassId) : Prop where
  /-- New classes come after the known ones. -/
  grows : known <+: known'
  /-- No class is added twice. -/
  nodup : known.Nodup → known'.Nodup
  /-- The classes from which the walk starts are known. -/
  covers : ∀ d, start d → d ∈ known'
  /-- New classes are settled and reached from the start. -/
  settled : ∀ c ∈ known', c ∈ known ∨ p.Settled known' c ∧ ∃ d, start d ∧ p.Reaches d c

namespace Explored

variable {p : Program} {start start' : ClassId → Prop} {known known' known'' : List ClassId}

theorem refl (h : ∀ d, start d → d ∈ known) : p.Explored start known known :=
  ⟨List.prefix_refl known, id, h, fun _ hc => Or.inl hc⟩

theorem trans (h : p.Explored start known known') (h' : p.Explored start' known' known'') :
    p.Explored (fun d => start d ∨ start' d) known known'' where
  grows := h.grows.trans h'.grows
  nodup := h'.nodup ∘ h.nodup
  covers := by
    rintro d (hd | hd)
    · exact h'.grows.subset (h.covers d hd)
    · exact h'.covers d hd
  settled := by
    intro c hc
    obtain hold | ⟨hnew, d, hd, hreach⟩ := h'.settled c hc
    · obtain hold | ⟨hnew, d, hd, hreach⟩ := h.settled c hold
      · exact Or.inl hold
      · exact Or.inr ⟨hnew.mono h'.grows.subset, d, Or.inl hd, hreach⟩
    · exact Or.inr ⟨hnew, d, Or.inr hd, hreach⟩

theorem congr (h : p.Explored start known known') (hstart : ∀ d, start d ↔ start' d) :
    p.Explored start' known known' := by
  have : start = start' := funext fun d => propext (hstart d)
  exact this ▸ h

end Explored

/-! ## Walks that succeed -/

section

variable {p : Program} {visit : Visit} {known known' : List ClassId}

/-- What a visit has to guarantee. -/
def Explores (p : Program) (visit : Visit) : Prop :=
  ∀ {id known known'}, p.isRecordClass id = true → visit id known = .ok known' →
    p.Explored (· = id) known known'

theorem walkShape_explored (hvisit : p.Explores visit) {s : Shape}
    (hs : ∀ d, s.class? = some d → p.isRecordClass d = true)
    (h : p.walkShape visit s known = .ok known') :
    s.IsSupported ∧ p.Explored (fun d => s.class? = some d) known known' := by
  induction s with
  | scalar k =>
    cases h
    exact ⟨trivial, .refl fun d hd => by cases hd⟩
  | optional a s ih => exact ih hs h
  | sequence a s ih => exact ih hs h
  | record id =>
    refine ⟨trivial, (hvisit (hs id rfl) h).congr fun d => ?_⟩
    exact ⟨fun hd => hd ▸ rfl, fun hd => (Option.some.inj hd).symm⟩
  | unsupported reason a => cases h

theorem walkFields_explored (hvisit : p.Explores visit) {owner : String}
    {es : List ExportedField} (h : p.walkFields visit owner es known = .ok known') :
    (∀ e ∈ es, (p.shape e.hint).IsSupported) ∧
      p.Explored (fun d => ∃ e ∈ es, (p.shape e.hint).class? = some d) known known' := by
  induction es generalizing known with
  | nil =>
    cases h
    exact ⟨by simp, .refl fun d ⟨e, he, _⟩ => by cases he⟩
  | cons e es ih =>
    simp only [walkFields] at h
    split at h
    next known₁ hshape =>
      obtain ⟨hs, hfirst⟩ := walkShape_explored hvisit (p.isRecordClass_of_class? e.hint) hshape
      obtain ⟨hrest, hothers⟩ := ih h
      refine ⟨?_, (hfirst.trans hothers).congr fun d => ?_⟩
      · intro e' he'
        cases List.mem_cons.mp he' with
        | inl heq => exact heq ▸ hs
        | inr he' => exact hrest e' he'
      · simp
    next e' hshape => cases h

/-- A walk over fields that fails has explored the classes of the fields before. -/
theorem walkFields_explored_of_error (hvisit : p.Explores visit) {owner : String} {e : Failure}
    {es : List ExportedField} (h : p.walkFields visit owner es known = .error (e, known')) :
    ∃ start : ClassId → Prop, (∀ d, start d → p.isRecordClass d = true) ∧
      p.Explored start known known' := by
  induction es generalizing known with
  | nil => cases h
  | cons f es ih =>
    simp only [walkFields] at h
    split at h
    next known₁ hshape =>
      obtain ⟨-, hfirst⟩ := walkShape_explored hvisit (p.isRecordClass_of_class? f.hint) hshape
      obtain ⟨start, hstart, hrest⟩ := ih h
      refine ⟨_, ?_, hfirst.trans hrest⟩
      rintro d (hd | hd)
      · exact p.isRecordClass_of_class? f.hint d hd
      · exact hstart d hd
    next =>
      cases h
      exact ⟨fun _ => False, fun _ hd => hd.elim, .refl fun _ hd => hd.elim⟩

theorem walkNew_eq_ok {id : ClassId} (h : p.walkNew visit id known = .ok known') :
    ∃ es, p.exportedFields id = .ok es ∧ es ≠ [] ∧
      p.walkFields visit (p.className (.declared id)) es (known ++ [id]) = .ok known' := by
  unfold walkNew at h
  split at h
  next => cases h
  next => cases h
  next es hne hes => exact ⟨es, hes, hne, mapError_eq_ok.mp h⟩

/-- A new class comes after the known ones. -/
theorem walkNew_grows (hvisit : p.Explores visit) {id : ClassId}
    (h : p.walkNew visit id known = .ok known') : known ++ [id] <+: known' := by
  obtain ⟨es, -, -, hfields⟩ := walkNew_eq_ok h
  exact (walkFields_explored hvisit hfields).2.grows

theorem walkNew_explored (hvisit : p.Explores visit) {id : ClassId} (hid : id ∉ known)
    (h : p.walkNew visit id known = .ok known') : p.Explored (· = id) known known' := by
  obtain ⟨es, hes, hne, hfields⟩ := walkNew_eq_ok h
  obtain ⟨hsupported, hexplored⟩ := walkFields_explored hvisit hfields
  have hrefers : ∀ d, p.RefersTo id d → ∃ e ∈ es, (p.shape e.hint).class? = some d :=
    fun d => (refersTo_iff hes).mp
  -- The class is settled once its fields are walked.
  have hsettled : p.Settled known' id :=
    ⟨convertible_iff.mpr ⟨es, hes, hne, hsupported⟩,
      fun d hd => hexplored.covers d (hrefers d hd)⟩
  refine ⟨(List.prefix_append known [id]).trans hexplored.grows, ?_, ?_, ?_⟩
  · intro hnodup
    exact hexplored.nodup (nodup_snoc hnodup hid)
  · rintro d rfl
    exact hexplored.grows.subset (by simp)
  · intro c hc
    obtain hold | ⟨hnew, d, ⟨e, he, hd⟩, hreach⟩ := hexplored.settled c hc
    · cases List.mem_append.mp hold with
      | inl hold => exact Or.inl hold
      | inr heq =>
        cases List.mem_singleton.mp heq
        exact Or.inr ⟨hsettled, id, rfl, .refl⟩
    · exact Or.inr ⟨hnew, id, rfl, .head ((refersTo_iff hes).mpr ⟨e, he, hd⟩) hreach⟩

/-- A visit that succeeds adds settled classes that it reached. -/
theorem walkClass_explored (n : Nat) : p.Explores (p.walkClass n) := by
  induction n with
  | zero =>
    intro id known known' hrec h
    by_cases hid : id ∈ known
    · cases (walkClass_of_mem hid).symm.trans h
      exact .refl fun d hd => hd ▸ hid
    · cases (walkClass_zero hid).symm.trans h
  | succ n ih =>
    intro id known known' hrec h
    by_cases hid : id ∈ known
    · cases (walkClass_of_mem hid).symm.trans h
      exact .refl fun d hd => hd ▸ hid
    · exact walkNew_explored ih hid ((walkClass_succ hid).symm.trans h)

end

/-! ## Failures of a class -/

/-- A failure that a class has by itself, with its place. -/
inductive FailsAt (p : Program) (c : ClassId) : Failure → Prop where
  /-- Its hints do not resolve, or one of them is missing. -/
  | exported {e : Failure} : p.exportedFields c = .error e → FailsAt p c e
  /-- It has no exported field. -/
  | noField : p.exportedFields c = .ok [] →
      FailsAt p c (.ofRecord .noField (p.className (.declared c)))
  /-- The hint of an exported field has no counterpart. -/
  | field {es : List ExportedField} {f : ExportedField} {reason : Reason} {a : Annot} :
      p.exportedFields c = .ok es → f ∈ es → (p.shape f.hint).gap? = some (reason, a) →
      FailsAt p c ((Failure.ofProblem (.unsupported reason (p.label a))).orAt
        (p.className (.declared c)) f.name)

theorem FailsAt.not_convertible {p : Program} {c : ClassId} {e : Failure} (h : p.FailsAt c e) :
    ¬ p.Convertible c := by
  intro hc
  obtain ⟨es, hes, hne, hsupported⟩ := convertible_iff.mp hc
  cases h with
  | exported h => cases hes.symm.trans h
  | noField h => cases Except.ok.inj (hes.symm.trans h); exact hne rfl
  | field h hf hgap =>
    cases Except.ok.inj (hes.symm.trans h)
    rw [(hsupported _ hf).gap?_eq_none] at hgap
    cases hgap

/-- The failure to resolve the hints of a named object has a place or needs none. -/
theorem ofHints_orAt (record kind : String) (why : EvalError) (owner field : String) :
    (Failure.ofHints (some record) kind why).orAt owner field =
      Failure.ofHints (some record) kind why := by
  cases why <;> rfl

theorem exportedFields_eq_error {p : Program} {c : ClassId} {e : Failure}
    (h : p.exportedFields c = .error e) :
    (∃ why, p.hints c = .error why ∧ e = Failure.ofHints (some (p.className (.declared c)))
      (p.kindOf (.cls (.declared c))) why) ∨ ∃ f, e = .fault f := by
  cases hhints : p.hints c with
  | error why =>
    rw [exportedFields_of_error hhints] at h
    cases h
    exact Or.inl ⟨why, rfl, rfl⟩
  | ok hints =>
    rw [exportedFields_of_hints hhints] at h
    cases hdecls : p.fields? c with
    | none => rw [hdecls] at h; cases h; exact Or.inr ⟨_, rfl⟩
    | some decls =>
      rw [hdecls] at h
      obtain ⟨f, -, hf⟩ := exists_of_mapM_eq_error h
      unfold exportField at hf
      split at hf
      next => cases hf
      next => cases hf; exact Or.inr ⟨_, rfl⟩

theorem exportedFields_error_orAt {p : Program} {c : ClassId} {e : Failure}
    (h : p.exportedFields c = .error e) (owner field : String) : e.orAt owner field = e := by
  rcases exportedFields_eq_error h with ⟨why, -, rfl⟩ | ⟨f, rfl⟩
  · exact ofHints_orAt _ _ why owner field
  · rfl

/-- The failures of a class have their place, and no class on the way changes it. -/
theorem FailsAt.orAt {p : Program} {c : ClassId} {e : Failure} (h : p.FailsAt c e)
    (owner field : String) : e.orAt owner field = e := by
  cases h with
  | exported h => exact exportedFields_error_orAt h owner field
  | noField h => rfl
  | field h hf hgap => rfl

/-! ## Walks that fail -/

/-- A bound that leaves room for the classes that are not known. -/
structure Room (p : Program) (bound : Nat) (known : List ClassId) : Prop where
  nodup : known.Nodup
  declared : ∀ c ∈ known, c < p.classes.length
  enough : p.classes.length ≤ bound + known.length

namespace Room

variable {p : Program} {n : Nat} {known known' : List ClassId} {id : ClassId}

/-- There is room for another class. -/
theorem pos (h : p.Room n known) (hid : id ∉ known) (hrec : p.isRecordClass id = true) :
    0 < n := by
  have hnodup : (id :: known).Nodup := List.nodup_cons.mpr ⟨hid, h.nodup⟩
  have hsub : id :: known ⊆ List.range p.classes.length := by
    intro c hc
    rw [List.mem_range]
    cases List.mem_cons.mp hc with
    | inl heq => exact heq ▸ lt_of_isRecordClass hrec
    | inr hc => exact h.declared c hc
  have hlen := (List.subperm_of_subset hnodup hsub).length_le
  rw [List.length_cons, List.length_range] at hlen
  have := h.enough
  omega

theorem snoc (h : p.Room (n + 1) known) (hid : id ∉ known) (hrec : p.isRecordClass id = true) :
    p.Room n (known ++ [id]) where
  nodup := nodup_snoc h.nodup hid
  declared := by
    intro c hc
    cases List.mem_append.mp hc with
    | inl hc => exact h.declared c hc
    | inr hc => exact List.mem_singleton.mp hc ▸ lt_of_isRecordClass hrec
  enough := by
    have := h.enough
    rw [List.length_append, List.length_singleton]
    omega

/-- A walk leaves room. -/
theorem explored {start : ClassId → Prop} (h : p.Room n known)
    (hstart : ∀ d, start d → p.isRecordClass d = true) (hx : p.Explored start known known') :
    p.Room n known' where
  nodup := hx.nodup h.nodup
  declared := by
    intro c hc
    obtain hold | ⟨-, d, hd, hreach⟩ := hx.settled c hc
    · exact h.declared c hold
    · exact lt_of_isRecordClass (hreach.isRecordClass (hstart d hd))
  enough := by
    have := h.enough
    have := hx.grows.length_le
    omega

end Room

section

variable {p : Program} {visit : Visit} {n : Nat} {known : List ClassId} {e : Failure}

/-- What a visit that fails has to guarantee: the failure is one of a reached class. -/
def Blames (p : Program) (visit : Visit) (n : Nat) : Prop :=
  ∀ {id known e}, p.isRecordClass id = true → p.Room n known → visit id known = .error e →
    ∃ c, p.Reaches id c ∧ p.FailsAt c e

theorem walkShape_fails (hvisit : p.Blames visit n) (hroom : p.Room n known) {s : Shape}
    (hs : ∀ d, s.class? = some d → p.isRecordClass d = true)
    (h : p.walkShape visit s known = .error e) :
    (∃ reason a, s.gap? = some (reason, a) ∧
      e = .ofProblem (.unsupported reason (p.label a))) ∨
    ∃ d c, s.class? = some d ∧ p.Reaches d c ∧ p.FailsAt c e := by
  induction s with
  | scalar k => cases h
  | optional a s ih => exact ih hs h
  | sequence a s ih => exact ih hs h
  | record id =>
    obtain ⟨c, hreach, hc⟩ := hvisit (hs id rfl) hroom h
    exact Or.inr ⟨id, c, rfl, hreach, hc⟩
  | unsupported reason a =>
    cases h
    exact Or.inl ⟨reason, a, rfl, rfl⟩

theorem walkFields_fails (hexplores : p.Explores visit) (hvisit : p.Blames visit n)
    (hroom : p.Room n known) {owner : String} {es : List ExportedField} {at' : List ClassId}
    (h : p.walkFields visit owner es known = .error (e, at')) :
    ∃ f ∈ es, (∃ reason a, (p.shape f.hint).gap? = some (reason, a) ∧
        e = (Failure.ofProblem (.unsupported reason (p.label a))).orAt owner f.name) ∨
      ∃ d c, (p.shape f.hint).class? = some d ∧ p.Reaches d c ∧ p.FailsAt c e := by
  induction es generalizing known with
  | nil => cases h
  | cons f es ih =>
    simp only [walkFields] at h
    split at h
    next known' hshape =>
      obtain ⟨-, hexplored⟩ := walkShape_explored hexplores (p.isRecordClass_of_class? f.hint) hshape
      obtain ⟨g, hg, hfails⟩ := ih (hroom.explored (p.isRecordClass_of_class? f.hint) hexplored) h
      exact ⟨g, List.mem_cons_of_mem f hg, hfails⟩
    next e' hshape =>
      cases h
      refine ⟨f, List.mem_cons_self, ?_⟩
      obtain ⟨reason, a, hgap, rfl⟩ | ⟨d, c, hd, hreach, hc⟩ :=
        walkShape_fails hvisit hroom (p.isRecordClass_of_class? f.hint) hshape
      · exact Or.inl ⟨reason, a, hgap, rfl⟩
      · exact Or.inr ⟨d, c, hd, hreach, (hc.orAt owner f.name).symm ▸ hc⟩

theorem walkNew_fails (hexplores : p.Explores visit) (hvisit : p.Blames visit n) {id : ClassId}
    (hroom : p.Room n (known ++ [id])) (h : p.walkNew visit id known = .error e) :
    ∃ c, p.Reaches id c ∧ p.FailsAt c e := by
  unfold walkNew at h
  split at h
  next e' hes => cases h; exact ⟨id, .refl, .exported hes⟩
  next hes => cases h; exact ⟨id, .refl, .noField hes⟩
  next es _ hes =>
    cases hw : p.walkFields visit (p.className (.declared id)) es (known ++ [id]) with
    | ok known' => rw [hw] at h; cases h
    | error failed =>
      rw [hw] at h
      cases h
      obtain ⟨f, hf, ⟨reason, a, hgap, he⟩ | ⟨d, c, hd, hreach, hc⟩⟩ :=
        walkFields_fails hexplores hvisit hroom hw
      · exact ⟨id, .refl, he ▸ .field hes hf hgap⟩
      · exact ⟨c, .head ((refersTo_iff hes).mpr ⟨f, hf, hd⟩) hreach, hc⟩

/-- A visit that fails stopped at a class that it reached. -/
theorem walkClass_fails (n : Nat) : p.Blames (p.walkClass n) n := by
  induction n with
  | zero =>
    intro id known e hrec hroom h
    by_cases hid : id ∈ known
    · cases (walkClass_of_mem hid).symm.trans h
    · exact absurd (hroom.pos hid hrec) (Nat.lt_irrefl 0)
  | succ n ih =>
    intro id known e hrec hroom h
    by_cases hid : id ∈ known
    · cases (walkClass_of_mem hid).symm.trans h
    · exact walkNew_fails (walkClass_explored n) ih (hroom.snoc hid hrec)
        ((walkClass_succ hid).symm.trans h)

end

end ElmCodec.Source.Program
