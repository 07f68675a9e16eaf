import ElmCodec.Proofs.Conversion
import ElmCodec.Proofs.Table

/-!
# Recursion without a bound

The conversion of a record class recurses on a number.  Read as the rule it is, the
recursion has none: an annotation is converted by converting what stands in it, and a class
that has no entry is registered and then converted by converting the hints of its fields
(`convertStep`).  Here is why the rule alone says what a conversion does, in every session.

A class is registered before its fields are converted, and a step that succeeds keeps all
entries (`Registry.KeptIn`).  So the classes without an entry (`unregistered`) get fewer on
the way from a class to the classes of its fields, also after other fields have been
converted.  A step that fails may forget entries, but then nothing more is converted.

`RunsAlike` says of two steps in one session that they do the same, and of what they do that
no entry is lost, that a failure is none of running out of a number, and which classes are
entered.  It holds of two conversions of a shape, of fields and of a class as soon as it
holds of the conversions of classes in all sessions with fewer classes left.
-/

namespace ElmCodec

open Source (Program ClassId Shape Annot)

/-! ## Classes without an entry -/

/-- The classes with an entry have one in another registry too. -/
def Registry.KeptIn (r r' : Registry) : Prop :=
  ∀ c, (r.find? c).isSome = true → (r'.find? c).isSome = true

namespace Registry.KeptIn

variable {r r' r'' : Registry}

theorem refl (r : Registry) : r.KeptIn r := fun _ => id

theorem trans (h : r.KeptIn r') (h' : r'.KeptIn r'') : r.KeptIn r'' := fun c hc => h' c (h c hc)

end Registry.KeptIn

theorem Registry.find?_register (r : Registry) (id : ClassId) (name : String) (c : ClassId) :
    (r.register id name).find? c = if c == id then some r.next else r.find? c :=
  Table.find?_insert r.index id r.next c

theorem Registry.keptIn_register (r : Registry) (id : ClassId) (name : String) :
    r.KeptIn (r.register id name) := by
  intro c hc
  rw [find?_register]
  split
  · rfl
  · exact hc

namespace Source.Program

variable {p : Program} {style : Style} {r r' : Registry} {id c : ClassId}

/-- The declared classes without an entry. -/
def unregistered (p : Program) (r : Registry) : List ClassId :=
  (List.range p.classes.length).filter fun c => (r.find? c).isNone

theorem mem_unregistered : c ∈ p.unregistered r ↔ c < p.classes.length ∧ r.find? c = none := by
  simp [unregistered]

theorem unregistered_sublist (h : r.KeptIn r') :
    (p.unregistered r').Sublist (p.unregistered r) := by
  refine List.monotone_filter_right _ fun c hc => ?_
  rw [Option.isNone_iff_eq_none] at hc ⊢
  by_contra hsome
  have := h c (Option.isSome_iff_ne_none.mpr hsome)
  rw [hc] at this
  cases this

/-- A class that gets an entry is one class less without. -/
theorem unregistered_register_lt (hid : r.find? id = none) (hdeclared : id < p.classes.length)
    (name : String) :
    (p.unregistered (r.register id name)).length < (p.unregistered r).length := by
  have hsub := unregistered_sublist (p := p) (r.keptIn_register id name)
  refine Nat.lt_of_le_of_ne hsub.length_le fun hlen => ?_
  have hmem : id ∈ p.unregistered (r.register id name) := by
    rw [hsub.eq_of_length hlen]
    exact mem_unregistered.mpr ⟨hdeclared, hid⟩
  have hnone := (mem_unregistered.mp hmem).2
  rw [Registry.find?_register, if_pos (by simp)] at hnone
  cases hnone

/-- Where at most no class is without an entry, all record classes have one. -/
theorem exists_find?_of_unregistered (hid : p.isRecordClass id = true)
    (h : (p.unregistered r).length ≤ 0) : ∃ place, r.find? id = some place := by
  cases hfind : r.find? id with
  | some place => exact ⟨place, rfl⟩
  | none =>
    have hmem : id ∈ p.unregistered r := mem_unregistered.mpr ⟨lt_of_isRecordClass hid, hfind⟩
    rw [List.eq_nil_of_length_eq_zero (Nat.le_zero.mp h)] at hmem
    cases hmem

/-! ## Failures -/

/-- What a conversion can fail with: a problem, or what keeps a class from exporting its
fields. -/
def IsFailure (p : Program) (e : Failure) : Prop :=
  (∃ problem, e = .problem problem) ∨ ∃ c, p.exportedFields c = .error e

theorem IsFailure.orAt {e : Failure} (h : p.IsFailure e) (owner field : String) :
    p.IsFailure (e.orAt owner field) := by
  cases e with
  | problem problem => exact Or.inl ⟨_, rfl⟩
  | fault f => exact h

theorem fault_of_exportedFields {f : Fault} (h : p.exportedFields c = .error (.fault f)) :
    (∃ why, f = .unevaluated why) ∨ f = .notARecordClass ∨ ∃ name, f = .noHint name := by
  cases hhints : p.hints c with
  | error why =>
    rw [exportedFields_of_error hhints] at h
    cases why <;> cases h <;> exact Or.inl ⟨_, rfl⟩
  | ok hints =>
    rw [exportedFields_of_hints hhints] at h
    cases hdecls : p.fields? c with
    | none => rw [hdecls] at h; cases h; exact Or.inr (Or.inl rfl)
    | some decls =>
      rw [hdecls] at h
      obtain ⟨g, -, hg⟩ := exists_of_mapM_eq_error h
      unfold exportField at hg
      split at hg
      next => cases hg
      next => cases hg; exact Or.inr (Or.inr ⟨_, rfl⟩)

/-- The faults of a conversion are those of hints and fields. -/
theorem IsFailure.fault {f : Fault} (h : p.IsFailure (.fault f)) :
    (∃ why, f = .unevaluated why) ∨ f = .notARecordClass ∨ ∃ name, f = .noHint name := by
  rcases h with ⟨problem, h⟩ | ⟨c, h⟩
  · cases h
  · exact fault_of_exportedFields h

end Source.Program

/-! ## Steps that run alike -/

/-- Whether an event tells of a record that was discovered. -/
def Event.isDiscovery : Event → Bool
  | .discovered .. => true
  | _ => false

namespace Source.Program

/-- What is logged when the fields of a class are about to be built. -/
def discoveryEvent (p : Program) (style : Style) (id : ClassId) : Event :=
  .discovered id (p.fullName (.declared id)) (p.elmName style id)

/-- Two steps do the same in a session, and the fields of some classes are built on the way,
in this order. -/
structure RunsAlike (p : Program) (style : Style) {α : Type} (x y : ResolveM α)
    (result : α → Prop) (s : Session) (entered : List ClassId) : Prop where
  /-- They have one outcome. -/
  same : x.run s = y.run s
  /-- If they succeed, no entry is lost and the classes on the way have one. -/
  ok : ∀ a s', x.run s = (.ok a, s') → s.registry.KeptIn s'.registry ∧ result a ∧
    ∀ c ∈ entered, (s'.registry.find? c).isSome = true
  /-- If they fail, the number on which they recurse has not run out. -/
  error : ∀ e s', x.run s = (.error e, s') → p.IsFailure e
  /-- No class is entered twice. -/
  nodup : entered.Nodup
  /-- The classes on the way had no entry. -/
  fresh : ∀ c ∈ entered, c ∈ p.unregistered s.registry
  /-- The log tells of these classes and of no others. -/
  log : ∃ events, (x.run s).2.events = s.events ++ events ∧
    events.filter Event.isDiscovery = entered.map (p.discoveryEvent style)

/-- The classes on the way of a step that goes on if another one succeeds. -/
def onSuccess {α : Type} (outcome : Except Failure α × Session)
    (entered : α → Session → List ClassId) : List ClassId :=
  match outcome with
  | (.ok a, s) => entered a s
  | (.error _, _) => []

namespace RunsAlike

variable {p : Program} {style : Style} {α β : Type} {x y : ResolveM α} {f g : α → ResolveM β}
  {A : α → Prop} {B : β → Prop} {s : Session} {entered : List ClassId}

theorem pure {a : α} (ha : A a) (s : Session) :
    p.RunsAlike style (Pure.pure a) (Pure.pure a) A s [] where
  same := rfl
  ok := by
    rintro a' s' h
    cases h
    exact ⟨.refl _, ha, by simp⟩
  error := by rintro e s' h; cases h
  nodup := List.nodup_nil
  fresh := by simp
  log := ⟨[], (List.append_nil s.events).symm, rfl⟩

theorem throw {e : Failure} (he : p.IsFailure e) (s : Session) :
    p.RunsAlike style (MonadExcept.throw e) (MonadExcept.throw e) A s [] where
  same := rfl
  ok := by rintro a' s' h; cases h
  error := by
    rintro e' s' h
    cases h
    exact he
  nodup := List.nodup_nil
  fresh := by simp
  log := ⟨[], (List.append_nil _).symm, rfl⟩

/-- One step after another. -/
theorem bind {next : α → Session → List ClassId} (hx : p.RunsAlike style x y A s entered)
    (hf : ∀ a s', x.run s = (.ok a, s') → A a → p.RunsAlike style (f a) (g a) B s' (next a s')) :
    p.RunsAlike style (x >>= f) (y >>= g) B s (entered ++ onSuccess (x.run s) next) := by
  have hrun := run_bind x f s
  have hrun' := run_bind y g s
  rw [← hx.same] at hrun'
  obtain ⟨events, hevents, hfilter⟩ := hx.log
  cases hout : x.run s with
  | mk outcome s' =>
    rw [hout] at hrun hrun' hevents
    cases outcome with
    | error e =>
      dsimp only at hrun hrun'
      rw [onSuccess, List.append_nil]
      exact {
        same := hrun.trans hrun'.symm
        ok := by rintro b s'' h; cases hrun.symm.trans h
        error := by
          rintro e' s'' h
          cases hrun.symm.trans h
          exact hx.error e s' hout
        nodup := hx.nodup
        fresh := hx.fresh
        log := ⟨events, by rw [hrun]; exact hevents, hfilter⟩ }
    | ok a =>
      dsimp only at hrun hrun'
      obtain ⟨hkept, ha, hregistered⟩ := hx.ok a s' hout
      have hnext := hf a s' hout ha
      obtain ⟨events', hevents', hfilter'⟩ := hnext.log
      exact {
        same := by rw [hrun, hrun', hnext.same]
        ok := by
          rintro b s'' h
          obtain ⟨hkept', hb, hregistered'⟩ := hnext.ok b s'' (hrun.symm.trans h)
          refine ⟨hkept.trans hkept', hb, fun c hc => ?_⟩
          cases List.mem_append.mp hc with
          | inl hc => exact hkept' c (hregistered c hc)
          | inr hc => exact hregistered' c hc
        error := fun e s'' h => hnext.error e s'' (hrun.symm.trans h)
        nodup := by
          -- The classes of the first step have an entry when the second one starts.
          refine List.nodup_append.mpr ⟨hx.nodup, hnext.nodup, ?_⟩
          rintro c hc d hd rfl
          have hsome := hregistered c hc
          rw [(mem_unregistered.mp (hnext.fresh c hd)).2] at hsome
          cases hsome
        fresh := by
          intro c hc
          cases List.mem_append.mp hc with
          | inl hc => exact hx.fresh c hc
          | inr hc => exact (unregistered_sublist hkept).subset (hnext.fresh c hc)
        log := by
          refine ⟨events ++ events', ?_, ?_⟩
          · rw [hrun, hevents', hevents, List.append_assoc]
          · rw [List.filter_append, hfilter, hfilter', List.map_append]
            rfl }

/-- A step after which no class is entered. -/
theorem bind_quiet (hx : p.RunsAlike style x y A s entered)
    (hf : ∀ a s', A a → p.RunsAlike style (f a) (g a) B s' []) :
    p.RunsAlike style (x >>= f) (y >>= g) B s entered := by
  have h : p.RunsAlike style (x >>= f) (y >>= g) B s
      (entered ++ onSuccess (x.run s) fun _ _ => []) :=
    hx.bind fun a s' _ ha => hf a s' ha
  have hnone : onSuccess (x.run s) (fun _ _ => []) = [] := by
    unfold onSuccess
    split <;> rfl
  rwa [hnone, List.append_nil] at h

theorem log_quiet {e : Event} (he : e.isDiscovery = false) (s : Session) :
    p.RunsAlike style (ResolveM.log e) (ResolveM.log e) (fun _ => True) s [] where
  same := rfl
  ok := by
    rintro a s' h
    cases h
    exact ⟨.refl _, trivial, by simp⟩
  error := by rintro e s' h; cases h
  nodup := List.nodup_nil
  fresh := by simp
  log := ⟨[e], rfl, by simp [he]⟩

theorem registry (s : Session) :
    p.RunsAlike style ResolveM.registry ResolveM.registry (fun _ => True) s [] where
  same := rfl
  ok := by
    rintro a s' h
    cases h
    exact ⟨.refl _, trivial, by simp⟩
  error := by rintro e s' h; cases h
  nodup := List.nodup_nil
  fresh := by simp
  log := ⟨[], (List.append_nil _).symm, rfl⟩

/-- A failure that gets a place stays one. -/
theorem orAt (hx : p.RunsAlike style x y A s entered) (owner field : String) :
    p.RunsAlike style (tryCatch x fun e => MonadExcept.throw (e.orAt owner field))
      (tryCatch y fun e => MonadExcept.throw (e.orAt owner field)) A s entered := by
  have hrun := run_tryCatch x (fun e => MonadExcept.throw (e.orAt owner field)) s
  have hrun' := run_tryCatch y (fun e => MonadExcept.throw (e.orAt owner field)) s
  rw [← hx.same] at hrun'
  cases hout : x.run s with
  | mk outcome s' =>
    obtain ⟨events, hevents, hfilter⟩ := hx.log
    rw [hout] at hrun hrun' hevents
    cases outcome with
    | ok a =>
      exact {
        same := hrun.trans hrun'.symm
        ok := by
          rintro a' s'' h
          cases hrun.symm.trans h
          exact hx.ok a s' hout
        error := by rintro e s'' h; cases hrun.symm.trans h
        nodup := hx.nodup
        fresh := hx.fresh
        log := ⟨events, by rw [hrun]; exact hevents, hfilter⟩ }
    | error e =>
      exact {
        same := hrun.trans hrun'.symm
        ok := by rintro a' s'' h; cases hrun.symm.trans h
        error := by
          rintro e' s'' h
          cases hrun.symm.trans h
          exact (hx.error e s' hout).orAt owner field
        nodup := hx.nodup
        fresh := hx.fresh
        log := ⟨events, by rw [hrun]; exact hevents, hfilter⟩ }

theorem congr {x' y' : ResolveM α} (h : p.RunsAlike style x y A s entered)
    (hx : x'.run s = x.run s) (hy : y'.run s = y.run s) : p.RunsAlike style x' y' A s entered where
  same := by rw [hx, hy, h.same]
  ok := hx ▸ h.ok
  error := hx ▸ h.error
  nodup := h.nodup
  fresh := h.fresh
  log := hx ▸ h.log

end RunsAlike

/-! ## Classes whose fields are built -/

/-- The classes whose fields are built in the conversion of a shape, given those in the
conversion of a class. -/
def enteredIn (entered : ClassId → Session → List ClassId) (shape : Shape) (s : Session) :
    List ClassId :=
  shape.class?.elim [] fun id => entered id s

/-- The classes whose fields are built in the conversion of fields. -/
def enteredFields (p : Program) (style : Style) (record : ClassId → ResolveM Elm.Ty)
    (entered : ClassId → Session → List ClassId) (owner : String) :
    List ExportedField → Session → List ClassId
  | [], _ => []
  | f :: rest, s =>
    enteredIn entered (p.shape f.hint) s ++
      onSuccess ((p.convertField style record owner f).run s) fun _ =>
        p.enteredFields style record entered owner rest

/-- The session in which the fields of a new class are built. -/
def entering (p : Program) (style : Style) (id : ClassId) (s : Session) : Session :=
  ⟨s.registry.register id (p.elmName style id), s.events ++ [p.discoveryEvent style id]⟩

/-- The classes whose fields are built in the conversion of a class without an entry. -/
def enteredNew (p : Program) (style : Style) (record : ClassId → ResolveM Elm.Ty)
    (entered : ClassId → Session → List ClassId) (id : ClassId) (s : Session) : List ClassId :=
  id :: ((p.exportedFields id).toOption.elim [] fun es =>
    p.enteredFields style record entered (p.className (.declared id)) es (p.entering style id s))

/-- The classes whose fields are built in the conversion of a class, given those in the
conversion of the classes it refers to. -/
def enteredOnce (p : Program) (style : Style) (record : ClassId → ResolveM Elm.Ty)
    (entered : ClassId → Session → List ClassId) (id : ClassId) (s : Session) : List ClassId :=
  if (s.registry.find? id).isSome then [] else p.enteredNew style record entered id s

/-- The classes whose fields are built in the conversion of a class, where at most so many
classes have no entry. -/
def enteredClass (p : Program) (style : Style) : Nat → ClassId → Session → List ClassId
  | 0 => fun _ _ => []
  | n + 1 => p.enteredOnce style (p.convertClass style n) (p.enteredClass style n)

/-- The classes whose fields are built in the conversion of an annotation, in order. -/
def entered (p : Program) (style : Style) (a : Annot) : Session → List ClassId :=
  enteredIn (p.enteredClass style p.classes.length) (p.shape a)

end Source.Program

/-! ## Conversions that run alike -/

/-- A type that can be declared in every schema. -/
def Elm.Ty.IsDeclarable (t : Elm.Ty) : Prop := ∀ schema, ∃ text, t.declared schema = .ok text

namespace Source.Program

/-- Two conversions of record classes do the same where at most so many classes have no
entry. -/
def Alike (p : Program) (style : Style) (n : Nat) (record record' : ClassId → ResolveM Elm.Ty)
    (entered : ClassId → Session → List ClassId) : Prop :=
  ∀ id s, p.isRecordClass id = true → (p.unregistered s.registry).length ≤ n →
    p.RunsAlike style (record id) (record' id) (fun t => ∃ place, t = .record place) s
      (entered id s)

section

variable {p : Program} {style : Style} {n : Nat} {record record' : ClassId → ResolveM Elm.Ty}
  {entered : ClassId → Session → List ClassId} {s : Session} {id : ClassId}

theorem convertShape_alike (h : p.Alike style n record record' entered)
    (hn : (p.unregistered s.registry).length ≤ n) {shape : Shape}
    (hshape : ∀ d, shape.class? = some d → p.isRecordClass d = true) :
    p.RunsAlike style (p.convertShape record shape) (p.convertShape record' shape)
      Elm.Ty.IsDeclarable s (enteredIn entered shape s) := by
  induction shape with
  | scalar k => exact .pure (fun _ => ⟨_, rfl⟩) s
  | optional a shape ih =>
    exact (ih hshape).bind_quiet fun t s' ht => .pure (fun schema => ht schema) s'
  | sequence a shape ih =>
    refine (ih hshape).bind_quiet fun t s' ht => .pure (fun schema => ?_) s'
    obtain ⟨text, htext⟩ := ht schema
    exact ⟨"List " ++ Elm.parenthesized text, by rw [Elm.Ty.declared, htext]; rfl⟩
  | record id =>
    have hid := h id s (hshape id rfl) hn
    exact { hid with
      ok := fun t s' ht => by
        obtain ⟨hkept, ⟨place, rfl⟩, hregistered⟩ := hid.ok t s' ht
        exact ⟨hkept, fun _ => ⟨_, rfl⟩, hregistered⟩ }
  | unsupported reason a => exact .throw (Or.inl ⟨_, rfl⟩) s

theorem convertField_alike (h : p.Alike style n record record' entered)
    (hn : (p.unregistered s.registry).length ≤ n) (owner : String) (f : ExportedField) :
    p.RunsAlike style (p.convertField style record owner f) (p.convertField style record' owner f)
      (fun _ => True) s (enteredIn entered (p.shape f.hint) s) := by
  have hshape := convertShape_alike h hn (p.isRecordClass_of_class? f.hint)
  refine (hshape.orAt owner f.name).bind_quiet fun t s' ht => ?_
  refine (RunsAlike.registry s').bind_quiet fun r s'' _ => ?_
  obtain ⟨text, htext⟩ := ht r.records
  simp only [htext]
  exact (RunsAlike.log_quiet rfl s'').bind_quiet fun _ s''' _ => .pure trivial s'''

theorem convertFields_alike (h : p.Alike style n record record' entered)
    (hn : (p.unregistered s.registry).length ≤ n) (owner : String) (es : List ExportedField) :
    p.RunsAlike style (p.convertFields style record owner es)
      (p.convertFields style record' owner es) (fun _ => True) s
      (p.enteredFields style record entered owner es s) := by
  induction es generalizing s with
  | nil => exact .pure trivial s
  | cons f rest ih =>
    have hfield := convertField_alike h hn owner f
    refine hfield.bind fun field s' hrun _ => ?_
    have hkept := (hfield.ok field s' hrun).1
    have hn' := Nat.le_trans (unregistered_sublist (p := p) hkept).length_le hn
    exact (ih hn').bind_quiet fun fields s'' _ => .pure trivial s''

theorem buildFields_alike (h : p.Alike style n record record' entered)
    (hn : (p.unregistered s.registry).length ≤ n) (id : ClassId) :
    p.RunsAlike style (p.buildFields style record id) (p.buildFields style record' id)
      (fun _ => True) s ((p.exportedFields id).toOption.elim [] fun es =>
        p.enteredFields style record entered (p.className (.declared id)) es s) := by
  unfold buildFields
  cases hes : p.exportedFields id with
  | error e => exact .throw (Or.inr ⟨id, hes⟩) s
  | ok es =>
    have hfields := convertFields_alike h hn (p.className (.declared id)) es
    refine hfields.bind_quiet fun fields s' _ => ?_
    split
    · exact .throw (Or.inl ⟨_, rfl⟩) s'
    · exact .pure trivial s'

theorem run_convertNew (p : Program) (style : Style) (record : ClassId → ResolveM Elm.Ty)
    (id : ClassId) (s : Session) :
    (p.convertNew style record id).run s =
      match (p.buildFields style record id).run (p.entering style id s) with
      | (.ok fields, s') =>
        (.ok (.record s.registry.next), ⟨s'.registry.fill s.registry.next fields, s'.events⟩)
      | (.error e, s') => (.error e, ⟨s'.registry.rollback s.registry.next, s'.events⟩) := by
  unfold convertNew
  change ExceptT.run (tryCatch (p.buildFields style record id) _ >>= _) (p.entering style id s) = _
  rw [run_bind, run_tryCatch]
  rcases (p.buildFields style record id).run (p.entering style id s) with ⟨e | fields, s'⟩
  · rfl
  · rfl

theorem events_convertNew (p : Program) (style : Style) (record : ClassId → ResolveM Elm.Ty)
    (id : ClassId) (s : Session) :
    ((p.convertNew style record id).run s).2.events =
      ((p.buildFields style record id).run (p.entering style id s)).2.events := by
  rw [run_convertNew]
  rcases (p.buildFields style record id).run (p.entering style id s) with ⟨e | fields, s'⟩
  · rfl
  · rfl

/-- A class has an entry when its fields are built. -/
theorem find?_entering (p : Program) (style : Style) (id : ClassId) (s : Session) :
    (p.entering style id s).registry.find? id = some s.registry.next := by
  rw [entering, Registry.find?_register, if_pos (by simp)]

theorem convertNew_alike (h : p.Alike style n record record' entered)
    (hid : p.isRecordClass id = true) (hnone : s.registry.find? id = none)
    (hn : (p.unregistered s.registry).length ≤ n + 1) :
    p.RunsAlike style (p.convertNew style record id) (p.convertNew style record' id)
      (fun t => ∃ place, t = .record place) s (p.enteredNew style record entered id s) := by
  have hlt := unregistered_register_lt hnone (lt_of_isRecordClass hid) (p.elmName style id)
  have hbuild := buildFields_alike h (s := p.entering style id s)
    (Nat.le_of_lt_succ (Nat.lt_of_lt_of_le hlt hn)) id
  have hkept := s.registry.keptIn_register id (p.elmName style id)
  obtain ⟨events, hevents, hfilter⟩ := hbuild.log
  have hrun := p.run_convertNew style record id s
  exact {
    same := by rw [hrun, p.run_convertNew style record' id s, hbuild.same]
    ok := by
      intro t s' ht
      rw [hrun] at ht
      cases hout : (p.buildFields style record id).run (p.entering style id s) with
      | mk outcome s'' =>
        rw [hout] at ht
        cases outcome with
        | error e => cases ht
        | ok fields =>
          cases ht
          obtain ⟨hkept', -, hregistered⟩ := hbuild.ok fields s'' hout
          refine ⟨hkept.trans hkept', ⟨_, rfl⟩, fun c hc => ?_⟩
          cases List.mem_cons.mp hc with
          | inl hc =>
            subst hc
            exact hkept' c (Option.isSome_of_mem (p.find?_entering style c s))
          | inr hc => exact hregistered c hc
    error := by
      intro e s' he
      rw [hrun] at he
      cases hout : (p.buildFields style record id).run (p.entering style id s) with
      | mk outcome s'' =>
        rw [hout] at he
        cases outcome with
        | error e' => cases he; exact hbuild.error e s'' hout
        | ok fields => cases he
    nodup := by
      refine List.nodup_cons.mpr ⟨fun hmem => ?_, hbuild.nodup⟩
      have hfresh := (mem_unregistered.mp (hbuild.fresh id hmem)).2
      rw [find?_entering] at hfresh
      cases hfresh
    fresh := by
      intro c hc
      cases List.mem_cons.mp hc with
      | inl hc => exact mem_unregistered.mpr (hc ▸ ⟨lt_of_isRecordClass hid, hnone⟩)
      | inr hc => exact (unregistered_sublist hkept).subset (hbuild.fresh c hc)
    log := by
      refine ⟨p.discoveryEvent style id :: events, ?_, ?_⟩
      · rw [events_convertNew, hevents, entering, List.append_assoc, List.singleton_append]
      · rw [List.filter_cons_of_pos rfl, hfilter]
        rfl }

end

/-! ## The rule for a class -/

/-- Converts a record class, given the conversion of the classes it refers to. -/
def convertOnce (p : Program) (style : Style) (record : ClassId → ResolveM Elm.Ty)
    (id : ClassId) : ResolveM Elm.Ty := do
  match (← ResolveM.registry).find? id with
  | some place =>
    ResolveM.log (.reused (p.fullName (.declared id)))
    return .record place
  | none => p.convertNew style record id

theorem convertClass_succ (p : Program) (style : Style) (n : Nat) :
    p.convertClass style (n + 1) = p.convertOnce style (p.convertClass style n) := by
  funext id
  unfold convertClass convertOnce
  rfl

/-- A conversion of record classes takes the records of classes that have an entry. -/
def Reuses (p : Program) (record : ClassId → ResolveM Elm.Ty) : Prop :=
  ∀ id s place, p.isRecordClass id = true → s.registry.find? id = some place →
    (record id).run s =
      (.ok (.record place), ⟨s.registry, s.events ++ [.reused (p.fullName (.declared id))]⟩)

/-- A conversion of record classes is one turn of the rule around another one. -/
def Turns (p : Program) (style : Style) (record next : ClassId → ResolveM Elm.Ty) : Prop :=
  ∀ id s, p.isRecordClass id = true →
    (next id).run s = (p.convertOnce style record id).run s

/-- Conversions of record classes, each of which is one turn of the rule around the one
before. -/
structure Chain (p : Program) (style : Style) (records : Nat → ClassId → ResolveM Elm.Ty) :
    Prop where
  zero : p.Reuses (records 0)
  succ : ∀ n, p.Turns style (records n) (records (n + 1))

section

variable {p : Program} {style : Style} {n : Nat}
  {record record' next next' : ClassId → ResolveM Elm.Ty}
  {entered : ClassId → Session → List ClassId} {s : Session} {id : ClassId}
  {records : Nat → ClassId → ResolveM Elm.Ty}

theorem run_convertOnce_of_none (hnone : s.registry.find? id = none) :
    (p.convertOnce style record id).run s = (p.convertNew style record id).run s := by
  unfold convertOnce
  rw [ResolveM.run_registry_bind, hnone]

theorem turns_convertOnce (record : ClassId → ResolveM Elm.Ty) :
    p.Turns style record (p.convertOnce style record) :=
  fun _ _ _ => rfl

theorem Turns.reuses (h : p.Turns style record next) : p.Reuses next := by
  intro id s place hid hfind
  rw [h id s hid, convertOnce, ResolveM.run_registry_bind, hfind]
  rfl

theorem chain_convertClass (p : Program) (style : Style) :
    p.Chain style (p.convertClass style) where
  zero := by
    intro id s place hid hfind
    rw [convertClass, ResolveM.run_registry_bind, hfind]
    rfl
  succ := by
    intro n id s hid
    rw [convertClass_succ]

theorem Chain.reuses (h : p.Chain style records) (n : Nat) : p.Reuses (records n) := by
  cases n with
  | zero => exact h.zero
  | succ n => exact (h.succ n).reuses

/-! ## Conversions of classes that run alike -/

theorem Reuses.runsAlike (h : p.Reuses record) (h' : p.Reuses record')
    (hid : p.isRecordClass id = true) {place : Elm.RecordId}
    (hfind : s.registry.find? id = some place) :
    p.RunsAlike style (record id) (record' id) (fun t => ∃ place, t = .record place) s [] := by
  have hlog : p.RunsAlike style (ResolveM.log (.reused (p.fullName (.declared id))))
      (ResolveM.log (.reused (p.fullName (.declared id)))) (fun _ => True) s [] :=
    .log_quiet rfl s
  have hreturn : ∀ s', p.RunsAlike style (pure (Elm.Ty.record place)) (pure (Elm.Ty.record place))
      (fun t => ∃ place, t = .record place) s' [] := RunsAlike.pure ⟨place, rfl⟩
  exact (hlog.bind_quiet fun _ s' _ => hreturn s').congr (h id s place hid hfind)
    (h' id s place hid hfind)

theorem Alike.turn (h : p.Alike style n record record' entered)
    (hnext : p.Turns style record next) (hnext' : p.Turns style record' next') :
    p.Alike style (n + 1) next next' (p.enteredOnce style record entered) := by
  intro id s hid hn
  unfold enteredOnce
  cases hfind : s.registry.find? id with
  | some place => exact hnext.reuses.runsAlike hnext'.reuses hid hfind
  | none =>
    refine (convertNew_alike h hid hfind hn).congr ?_ ?_
    · rw [hnext id s hid, run_convertOnce_of_none hfind]
    · rw [hnext' id s hid, run_convertOnce_of_none hfind]

theorem enteredClass_of_some {place : Elm.RecordId} (hfind : s.registry.find? id = some place)
    (n : Nat) : p.enteredClass style n id s = [] := by
  cases n with
  | zero => rfl
  | succ n => rw [enteredClass, enteredOnce, hfind]; rfl

/-- The conversion of classes does what every chain of turns does, as far along the chain as
there are classes without an entry. -/
theorem convertClass_alike (h : p.Chain style records) (k : Nat) {n m : Nat} (hn : k ≤ n)
    (hm : k ≤ m) :
    p.Alike style k (p.convertClass style n) (records m) (p.enteredClass style n) := by
  induction k generalizing n m with
  | zero =>
    intro id s hid hnone
    obtain ⟨place, hfind⟩ := exists_find?_of_unregistered hid hnone
    rw [enteredClass_of_some hfind]
    exact ((chain_convertClass p style).reuses n).runsAlike (h.reuses m) hid hfind
  | succ k ih =>
    obtain ⟨n, rfl⟩ := Nat.exists_eq_add_of_le' hn
    obtain ⟨m, rfl⟩ := Nat.exists_eq_add_of_le' hm
    exact (ih (Nat.le_add_left k n) (Nat.le_add_left k m)).turn
      ((chain_convertClass p style).succ (n + k)) (h.succ (m + k))

/-! ## The rule for an annotation -/

/-- Converts an annotation, given the conversion of all annotations. -/
def convertStep (p : Program) (style : Style) (convert : Annot → ResolveM Elm.Ty) (a : Annot) :
    ResolveM Elm.Ty :=
  match p.shape a with
  | .scalar k => pure (.primitive k.primitive)
  | .optional elem _ => do return .nullable (← convert elem)
  | .sequence elem _ => do return .list (← convert elem)
  | .record id => p.convertOnce style (fun d => convert (.cls (.declared d))) id
  | .unsupported reason b => throw (.ofProblem (.unsupported reason (p.label b)))

/-- A conversion of annotations that recurses by the rule, with no bound. -/
def Recurses (p : Program) (style : Style) (convert : Annot → ResolveM Elm.Ty) : Prop :=
  ∀ a s, (convert a).run s = (p.convertStep style convert a).run s

variable {convert : Annot → ResolveM Elm.Ty}

theorem Recurses.turns (h : p.Recurses style convert) :
    p.Turns style (fun d => convert (.cls (.declared d)))
      (fun d => convert (.cls (.declared d))) := by
  intro id s hid
  rw [h, convertStep, shape_declared hid]

/-- A conversion that recurses takes an annotation apart by its shape. -/
theorem Recurses.run_eq_convertShape (h : p.Recurses style convert) (a : Annot) (s : Session) :
    (convert a).run s =
      (p.convertShape (fun d => convert (.cls (.declared d))) (p.shape a)).run s := by
  induction a using shape_induction p with
  | annotated t notes ih =>
    have hshape : p.shape (.annotated t notes) = p.shape t := rfl
    have hsame : (convert (.annotated t notes)).run s = (convert t).run s := by
      rw [h, h t, convertStep, convertStep, hshape]
    rw [hsame, hshape, ih]
  | scalar k => rw [h, convertStep, shape_scalarClass]; rfl
  | record id hrec => rw [shape_declared hrec]; rfl
  | optional a t hopt ih =>
    rw [h, convertStep, shape_of_optionalOf hopt, convertShape, run_bind,
      run_bind, ih]
  | sequence a t hseq ih =>
    rw [h, convertStep, shape_of_sequenceOf hseq, convertShape, run_bind,
      run_bind, ih]
  | unsupported a reason hshape => rw [h, convertStep, hshape]; rfl

/-- A conversion that recurses is a chain of its own turns. -/
theorem Recurses.chain (h : p.Recurses style convert) :
    p.Chain style fun _ d => convert (.cls (.declared d)) :=
  ⟨h.turns.reuses, fun _ => h.turns⟩

theorem unregistered_length_le (p : Program) (r : Registry) :
    (p.unregistered r).length ≤ p.classes.length := by
  have := List.length_filter_le (fun c => (r.find? c).isNone) (List.range p.classes.length)
  rwa [List.length_range] at this

/-- The conversion of an annotation does what the conversion of its shape does with any chain,
as far along the chain as there are classes without an entry. -/
theorem convert_alike (h : p.Chain style records) (a : Annot) {m : Nat}
    (hm : (p.unregistered s.registry).length ≤ m) :
    p.RunsAlike style (p.convert style a) (p.convertShape (records m) (p.shape a))
      Elm.Ty.IsDeclarable s (p.entered style a s) :=
  convertShape_alike (convertClass_alike h _ (p.unregistered_length_le s.registry) hm)
    (Nat.le_refl _) (p.isRecordClass_of_class? a)

theorem convertRecord_turns (p : Program) (style : Style) :
    p.Turns style (fun d => p.convert style (.cls (.declared d))) (p.convertRecord style) := by
  intro id s hid
  have hchain := chain_convertClass p style
  have hconvert : p.Alike style p.classes.length (p.convertRecord style)
      (fun d => p.convert style (.cls (.declared d))) (p.enteredClass style p.classes.length) := by
    intro d s hd hn
    refine (convertClass_alike hchain _ (Nat.le_refl _) (Nat.le_refl _) d s hd hn).congr rfl ?_
    change (p.convertShape (p.convertRecord style) (p.shape (.cls (.declared d)))).run s = _
    rw [shape_declared hd]
    rfl
  have hmore := convertClass_alike hchain p.classes.length (Nat.le_refl _) (Nat.le_succ _) id s hid
    (p.unregistered_length_le s.registry)
  have honce := hconvert.turn (turns_convertOnce _) (turns_convertOnce _) id s hid
    (Nat.le_succ_of_le (p.unregistered_length_le s.registry))
  rw [convertClass_succ] at hmore
  exact hmore.same.trans honce.same

theorem convert_recurses (p : Program) (style : Style) : p.Recurses style (p.convert style) := by
  intro a s
  induction a using shape_induction p with
  | annotated t notes ih => exact ih
  | scalar k => rw [Program.convert, convertStep, shape_scalarClass]; rfl
  | record id hrec =>
    rw [Program.convert, convertStep, shape_declared hrec]
    exact p.convertRecord_turns style id s hrec
  | optional a t hopt _ => rw [Program.convert, convertStep, shape_of_optionalOf hopt]; rfl
  | sequence a t hseq _ => rw [Program.convert, convertStep, shape_of_sequenceOf hseq]; rfl
  | unsupported a reason hshape => rw [Program.convert, convertStep, hshape]; rfl

theorem Recurses.run_eq (h : p.Recurses style convert) (a : Annot) (s : Session) :
    (convert a).run s = (p.convert style a).run s := by
  rw [h.run_eq_convertShape, (convert_alike h.chain a (Nat.le_refl _)).same]

theorem IsFailure.ne_undeclared {e : Failure} (h : p.IsFailure e) (id : ClassId) :
    e ≠ .fault (.undeclared id) := by
  rintro rfl
  rcases h.fault with ⟨why, hwhy⟩ | hclass | ⟨name, hname⟩
  · cases hwhy
  · cases hclass
  · cases hname

end

/-- The conversion of annotations is the one and only conversion that recurses by the rule.  In
every session it does what it does with any number to recurse on that is at least that of the
classes without an entry.  It does not fail because of a number.  On the way it builds the
fields of no class twice, and only of classes without an entry.  The log of the call tells of
each of them once. -/
theorem conversion_needs_no_bound (p : Program) (style : Style) :
    p.Recurses style (p.convert style) ∧
    (∀ convert, p.Recurses style convert → ∀ a s, (convert a).run s = (p.convert style a).run s) ∧
    ∀ a s,
      (∀ n, (p.unregistered s.registry).length ≤ n →
        (p.convertShape (p.convertClass style n) (p.shape a)).run s = (p.convert style a).run s) ∧
      (∀ id, ((p.convert style a).run s).1 ≠ .error (.fault (.undeclared id))) ∧
      (p.entered style a s).Nodup ∧
      (∀ c ∈ p.entered style a s, c ∈ p.unregistered s.registry) ∧
      ∃ events, ((p.convert style a).run s).2.events = s.events ++ events ∧
        events.filter Event.isDiscovery = (p.entered style a s).map (p.discoveryEvent style) := by
  refine ⟨p.convert_recurses style, fun convert h => h.run_eq, fun a s => ?_⟩
  have hchain := chain_convertClass p style
  have halike := convert_alike hchain a (s := s) (Nat.le_refl _)
  refine ⟨fun n hn => (convert_alike hchain a hn).same.symm, fun id hid => ?_, halike.nodup,
    halike.fresh, halike.log⟩
  exact (halike.error _ _ (Prod.ext hid rfl)).ne_undeclared id rfl

/-- A forum: tags, authors with posts, and posts with an author, tags and replies. -/
def forum : Program :=
  .ofModule "forum"
    [.record "Tag" [("label", .ofBuiltin .str)],
      .record "Author" [("posts", .listOf (.text "Post"))],
      .record "Post" [("author", .name "Author"), ("tags", .listOf (.name "Tag")),
        ("replies", .listOf (.text "Post"))]]

/-- A post is converted after a tag.  Two classes are left then, and a number of two will do
where three classes are declared.  The conversion enters the post and its author, once each. -/
theorem forum_needs_no_bound :
    ∃ s, s = ((forum.convert {} (.cls (.declared 0))).run {}).2 ∧
      (forum.unregistered s.registry).length = 2 ∧ forum.classes.length = 3 ∧
      forum.entered {} (.cls (.declared 2)) s = [2, 1] ∧
      (forum.convertShape (forum.convertClass {} 2) (forum.shape (.cls (.declared 2)))).run s =
        (forum.convert {} (.cls (.declared 2))).run s ∧
      ((forum.convert {} (.cls (.declared 2))).run s).1 = .ok (.record 1) ∧
      (forum.convertStep {} (forum.convert {}) (.cls (.declared 2))).run s =
        (forum.convert {} (.cls (.declared 2))).run s := by
  refine ⟨_, rfl, by decide +kernel, by decide +kernel, by decide +kernel, ?_, by decide +kernel,
    ?_⟩
  · exact ((forum.conversion_needs_no_bound {}).2.2 _ _).1 2 (by decide +kernel)
  · exact ((forum.conversion_needs_no_bound {}).1 _ _).symm

end Source.Program

end ElmCodec
