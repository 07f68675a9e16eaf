import ElmCodec.Proofs.Walk

/-!
# Conversion along the walk

The conversion does what the walk does, and the registry after it is a function of the
classes known then.  The record of a class holds one field for each exported field, and
in the types of the fields a class stands for its place among the known classes
(`recordOf`).

When a record is registered it has no fields, and while its fields are converted other
records come after it.  The types of these depend on the known classes only through
the places of the classes they mention.  A settled class mentions known classes only,
and places do not change when classes are added.  So the record of a settled class stays
what it is (`recordOf_mono`), and only the record at the mark is filled in later.

A conversion that fails leaves the registry as it was.
-/

namespace ElmCodec

open Source (Program ClassId Shape Annot)

namespace Source.Program

/-! ## Records of known classes -/

/-- The field of a record for an exported field, among some known classes. -/
def fieldOf (p : Program) (style : Style) (known : List ClassId) (f : ExportedField) : Elm.Field :=
  ⟨f.wire.key, style.naming.valueName f.name, (p.shape f.hint).elmType known.idxOf,
    f.wire.omittable⟩

/-- The Elm name of a class. -/
def elmName (p : Program) (style : Style) (id : ClassId) : String :=
  style.naming.recordName style.renames (p.className (.declared id))

/-- The record of a class among some known classes. -/
def recordOf (p : Program) (style : Style) (known : List ClassId) (id : ClassId) : Elm.Record :=
  ⟨p.elmName style id, ((p.exportedFields id).toOption.getD []).map (p.fieldOf style known)⟩

variable {p : Program} {style : Style} {known known' known'' : List ClassId} {id : ClassId}

theorem recordOf_eq {es : List ExportedField} (h : p.exportedFields id = .ok es) :
    p.recordOf style known id = ⟨p.elmName style id, es.map (p.fieldOf style known)⟩ := by
  rw [recordOf, h]
  rfl

/-- The field for a hint does not change once the class it mentions is known. -/
theorem fieldOf_mono {f : ExportedField} (hgrows : known <+: known')
    (h : ∀ d, (p.shape f.hint).class? = some d → d ∈ known) :
    p.fieldOf style known f = p.fieldOf style known' f := by
  have htype : (p.shape f.hint).elmType known.idxOf = (p.shape f.hint).elmType known'.idxOf :=
    Shape.elmType_congr _ fun d hd => hgrows.idxOf_eq_of_mem (h d hd)
  rw [fieldOf, fieldOf, htype]

/-- The record of a settled class does not change when classes are added. -/
theorem recordOf_mono (hgrows : known <+: known') (h : p.Settled known id) :
    p.recordOf style known id = p.recordOf style known' id := by
  obtain ⟨es, hes, -, -⟩ := convertible_iff.mp h.convertible
  rw [recordOf_eq hes, recordOf_eq hes]
  refine congrArg _ (List.map_congr_left fun f hf => fieldOf_mono hgrows fun d hd => ?_)
  exact h.closed d ((refersTo_iff hes).mpr ⟨f, hf, hd⟩)

/-! ## Registries along a walk -/

/-- A registry with the records of the classes that a walk added. -/
structure Builds (p : Program) (style : Style) (r : Registry) (known' : List ClassId)
    (r' : Registry) : Prop where
  index : r'.index = known'.zipIdx
  records : r'.records =
    r.records ++ (known'.drop r.records.length).map (p.recordOf style known')
  discovered : r'.discovered = List.range known'.length
  root : r'.root = r.root

namespace Builds

variable {r r' r'' : Registry}

theorem refl (h : r.Holds known) : p.Builds style r known r where
  index := h.index
  records := by
    rw [h.length, List.drop_length, List.map_nil, List.append_nil]
  discovered := h.discovered
  root := rfl

theorem holds {start : ClassId → Prop} (h : p.Builds style r known' r') (hr : r.Holds known)
    (hx : p.Explored start known known') : r'.Holds known' where
  index := h.index
  length := by
    have hlen : r.records.length ≤ known'.length := hr.length ▸ hx.grows.length_le
    rw [h.records, List.length_append, List.length_map, List.length_drop]
    omega
  discovered := h.discovered
  nodup := hx.nodup hr.nodup

/-- One walk after another. -/
theorem trans {start : ClassId → Prop} (hr : r.Holds known) (hx : p.Explored start known known')
    (hgrows : known' <+: known'') (h : p.Builds style r known' r')
    (h' : p.Builds style r' known'' r'') : p.Builds style r known'' r'' where
  index := h'.index
  discovered := h'.discovered
  root := h'.root.trans h.root
  records := by
    have hlen' := (h.holds hr hx).length
    obtain ⟨new, rfl⟩ := hx.grows
    obtain ⟨newer, rfl⟩ := hgrows
    -- The records that the first walk added are those of settled classes.
    have hnew : new.map (p.recordOf style (known ++ new)) =
        new.map (p.recordOf style (known ++ new ++ newer)) := by
      refine List.map_congr_left fun c hc => recordOf_mono (List.prefix_append _ _) ?_
      obtain hold | ⟨hsettled, -⟩ := hx.settled c (List.mem_append_right known hc)
      · exact absurd rfl ((List.nodup_append.mp (hx.nodup hr.nodup)).2.2 c hold c hc)
      · exact hsettled
    have hfirst : (known ++ new).drop r.records.length = new := by rw [hr.length, List.drop_left]
    have hsecond : (known ++ new ++ newer).drop r'.records.length = newer := by
      rw [hlen', List.drop_left]
    have hboth : (known ++ new ++ newer).drop r.records.length = new ++ newer := by
      rw [hr.length, List.append_assoc, List.drop_left]
    rw [h'.records, hsecond, h.records, hfirst, hboth, hnew, List.map_append, List.append_assoc]

/-- Forgetting the records from a mark on undoes a walk that started there. -/
theorem rollback (hr : r.Holds known) {name : String}
    (hgrows : known ++ [id] <+: known') (h : p.Builds style (r.register id name) known' r') :
    r'.rollback known.length = r := by
  obtain ⟨new, rfl⟩ := hgrows
  have hindex : r'.index.filter (fun entry => entry.2 < known.length) = r.index := by
    have := filter_zipIdx (known ++ [id] ++ new) 0 known.length
    rw [Nat.zero_add, List.append_assoc, List.take_left] at this
    rw [h.index, hr.index, List.append_assoc]
    exact this
  have hrecords : r'.records.take known.length = r.records := by
    rw [h.records]
    change ((r.records ++ [_]) ++ _).take _ = _
    rw [List.append_assoc, ← hr.length, List.take_left]
  have hdiscovered : r'.discovered.filter (fun place => place < known.length) = r.discovered := by
    rw [h.discovered, hr.discovered, List.append_assoc, List.length_append, filter_range_append]
  rw [Registry.rollback, hindex, hrecords, hdiscovered, h.root]
  rfl

/-- Filling in the record at the mark completes the walk that started there. -/
theorem fill (hr : r.Holds known) {es : List ExportedField} (hes : p.exportedFields id = .ok es)
    (hgrows : known ++ [id] <+: known')
    (h : p.Builds style (r.register id (p.elmName style id)) known' r') :
    p.Builds style r known' (r'.fill known.length (es.map (p.fieldOf style known'))) where
  index := h.index
  discovered := h.discovered
  root := h.root
  records := by
    obtain ⟨new, rfl⟩ := hgrows
    have hlen : (r.register id (p.elmName style id)).records.length = (known ++ [id]).length := by
      change (r.records ++ [_]).length = _
      rw [List.length_append, List.length_append, hr.length]
      rfl
    have hnew : (known ++ [id] ++ new).drop r.records.length = id :: new := by
      rw [hr.length, List.append_assoc, List.drop_left]
      rfl
    change r'.records.modify known.length _ = _
    rw [h.records, hlen, List.drop_left, hnew, List.map_cons, recordOf_eq hes]
    change ((r.records ++ [_]) ++ _).modify _ _ = _
    rw [List.append_assoc, ← hr.length, List.modify_eq_take_cons_drop (by simp)]
    simp

end Builds

/-! ## The conversion of a class follows its visit -/

/-- A conversion of record classes does what a visit does. -/
def Follows (p : Program) (style : Style) (record : ClassId → ResolveM Elm.Ty) (visit : Visit) :
    Prop :=
  ∀ {id known r}, p.isRecordClass id = true → r.Holds known →
    match visit id known with
    | .ok known' => ∃ r', p.Builds style r known' r' ∧
        (record id).Runs r (.ok (.record (known'.idxOf id))) r'
    | .error e => (record id).Runs r (.error e) r

section

variable {record : ClassId → ResolveM Elm.Ty} {visit : Visit} {r : Registry}

theorem convertShape_runs (hrecord : p.Follows style record visit) (hr : r.Holds known) {s : Shape}
    (hs : ∀ d, s.class? = some d → p.isRecordClass d = true) :
    match p.walkShape visit s known with
    | .ok known' => ∃ r', p.Builds style r known' r' ∧
        (p.convertShape record s).Runs r (.ok (s.elmType known'.idxOf)) r'
    | .error e => (p.convertShape record s).Runs r (.error e) r := by
  induction s with
  | scalar k => exact ⟨r, .refl hr, .pure _ _⟩
  | optional a s ih =>
    have ih := ih hs
    simp only [walkShape]
    split at ih
    next known' _ =>
      obtain ⟨r', hbuilds, hrun⟩ := ih
      exact ⟨r', hbuilds, .bind hrun (.pure _ _)⟩
    next => exact .bind_error ih
  | sequence a s ih =>
    have ih := ih hs
    simp only [walkShape]
    split at ih
    next known' _ =>
      obtain ⟨r', hbuilds, hrun⟩ := ih
      exact ⟨r', hbuilds, .bind hrun (.pure _ _)⟩
    next => exact .bind_error ih
  | record id => exact hrecord (hs id rfl) hr
  | unsupported reason a => exact .throw _ _

theorem convertField_runs (hvisit : p.Explores visit) (hrecord : p.Follows style record visit)
    (hr : r.Holds known) (owner : String) (f : ExportedField) :
    match p.walkShape visit (p.shape f.hint) known with
    | .ok known' => ∃ r', p.Builds style r known' r' ∧
        (p.convertField style record owner f).Runs r (.ok (p.fieldOf style known' f)) r'
    | .error e =>
        (p.convertField style record owner f).Runs r (.error (e.orAt owner f.name)) r := by
  have hshape := convertShape_runs hrecord hr (p.isRecordClass_of_class? f.hint)
  split at hshape
  next known' hwalk =>
    obtain ⟨r', hbuilds, hrun⟩ := hshape
    obtain ⟨hsupported, -⟩ := walkShape_explored hvisit (p.isRecordClass_of_class? f.hint) hwalk
    obtain ⟨text, htext⟩ : ∃ text,
        ((p.shape f.hint).elmType known'.idxOf).declared r'.records = .ok text :=
      Shape.elmType_declared r'.records hsupported
    refine ⟨r', hbuilds, .bind (.tryCatch hrun) (.bind (.registry r') ?_)⟩
    simp only [htext]
    exact .bind (.log _ _) (.pure _ _)
  next e hwalk => exact .bind_error (.tryCatch_error hshape (.throw _ _))

theorem convertFields_runs (hvisit : p.Explores visit) (hrecord : p.Follows style record visit)
    (hr : r.Holds known) (owner : String) (es : List ExportedField) :
    match p.walkFields visit owner es known with
    | .ok known' => ∃ r', p.Builds style r known' r' ∧
        (p.convertFields style record owner es).Runs r (.ok (es.map (p.fieldOf style known'))) r'
    | .error (e, known') => known <+: known' ∧ ∃ r', p.Builds style r known' r' ∧
        (p.convertFields style record owner es).Runs r (.error e) r' := by
  induction es generalizing known r with
  | nil => exact ⟨r, .refl hr, .pure _ _⟩
  | cons f rest ih =>
    have hfield := convertField_runs hvisit hrecord hr owner f
    simp only [walkFields]
    cases hwalk : p.walkShape visit (p.shape f.hint) known with
    | error e =>
      rw [hwalk] at hfield
      exact ⟨List.prefix_rfl, r, .refl hr, .bind_error hfield⟩
    | ok known₁ =>
      rw [hwalk] at hfield
      obtain ⟨r₁, hbuilds₁, hrun₁⟩ := hfield
      obtain ⟨-, hexplored₁⟩ := walkShape_explored hvisit (p.isRecordClass_of_class? f.hint) hwalk
      have ih := ih (hbuilds₁.holds hr hexplored₁)
      dsimp only
      cases hrest : p.walkFields visit owner rest known₁ with
      | error e =>
        rw [hrest] at ih
        obtain ⟨hgrows, r₂, hbuilds₂, hrun₂⟩ := ih
        exact ⟨hexplored₁.grows.trans hgrows, r₂, .trans hr hexplored₁ hgrows hbuilds₁ hbuilds₂,
          .bind hrun₁ (.bind_error hrun₂)⟩
      | ok known₂ =>
        rw [hrest] at ih
        obtain ⟨r₂, hbuilds₂, hrun₂⟩ := ih
        have hgrows := (walkFields_explored hvisit hrest).2.grows
        have hfirst : p.fieldOf style known₁ f = p.fieldOf style known₂ f :=
          fieldOf_mono hgrows fun d hd => hexplored₁.covers d hd
        rw [hfirst] at hrun₁
        exact ⟨r₂, .trans hr hexplored₁ hgrows hbuilds₁ hbuilds₂,
          .bind hrun₁ (.bind hrun₂ (.pure _ _))⟩

theorem buildFields_runs (hvisit : p.Explores visit) (hrecord : p.Follows style record visit)
    (hr : r.Holds (known ++ [id])) :
    match p.walkNew visit id known with
    | .ok known' => ∃ es r', p.exportedFields id = .ok es ∧ p.Builds style r known' r' ∧
        (p.buildFields style record id).Runs r (.ok (es.map (p.fieldOf style known'))) r'
    | .error e => ∃ known' r', known ++ [id] <+: known' ∧ p.Builds style r known' r' ∧
        (p.buildFields style record id).Runs r (.error e) r' := by
  have hfields := convertFields_runs hvisit hrecord hr (p.className (.declared id))
  unfold walkNew buildFields
  cases hes : p.exportedFields id with
  | error e => exact ⟨_, r, List.prefix_rfl, .refl hr, .bind_error (.ofExcept _ _)⟩
  | ok es =>
    cases es with
    | nil =>
      exact ⟨_, r, List.prefix_rfl, .refl hr,
        .bind (.ofExcept _ _) (.bind (.pure _ _) (.throw _ _))⟩
    | cons f rest =>
      have hfields := hfields (f :: rest)
      dsimp only
      cases hwalk : p.walkFields visit (p.className (.declared id)) (f :: rest) (known ++ [id]) with
      | error e =>
        rw [hwalk] at hfields
        obtain ⟨hgrows, r', hbuilds, hrun⟩ := hfields
        exact ⟨_, r', hgrows, hbuilds, .bind (.ofExcept _ _) (.bind_error hrun)⟩
      | ok known' =>
        rw [hwalk] at hfields
        obtain ⟨r', hbuilds, hrun⟩ := hfields
        exact ⟨f :: rest, r', rfl, hbuilds, .bind (.ofExcept _ _) (.bind hrun (.pure _ _))⟩

/-- A new class is registered at the end, and filled in once its fields are converted. -/
theorem convertNew_runs (hvisit : p.Explores visit) (hrecord : p.Follows style record visit)
    (hr : r.Holds known) (hid : id ∉ known) :
    match p.walkNew visit id known with
    | .ok known' => ∃ r', p.Builds style r known' r' ∧
        (p.convertNew style record id).Runs r (.ok (.record (known'.idxOf id))) r'
    | .error e => (p.convertNew style record id).Runs r (.error e) r := by
  have hbuild := buildFields_runs hvisit hrecord (hr.register hid (p.elmName style id))
  unfold convertNew
  cases hwalk : p.walkNew visit id known with
  | error e =>
    rw [hwalk] at hbuild
    obtain ⟨known', r', hgrows, hbuilds, hrun⟩ := hbuild
    refine .bind (.registry r) (.bind (.update _ r) (.bind (.log _ _) (.bind_error ?_)))
    refine .tryCatch_error hrun (.bind (.update _ r') ?_)
    rw [hr.next_eq, hbuilds.rollback hr hgrows]
    exact .throw _ _
  | ok known' =>
    rw [hwalk] at hbuild
    obtain ⟨es, r', hes, hbuilds, hrun⟩ := hbuild
    have hgrows := walkNew_grows hvisit hwalk
    have hplace : known'.idxOf id = known.length := by
      rw [← hgrows.idxOf_eq_of_mem (by simp), List.idxOf_append_of_notMem hid]
      simp
    refine ⟨_, hbuilds.fill hr hes hgrows, ?_⟩
    refine .bind (.registry r) (.bind (.update _ r) (.bind (.log _ _) (.bind (.tryCatch hrun) ?_)))
    rw [hr.next_eq, hplace]
    exact .bind (.update _ r') (.pure _ _)

/-- A known class is taken from the registry. -/
theorem convertClass_known (hr : r.Holds known) (hid : id ∈ known) (n : Nat) :
    (p.convertClass style n id).Runs r (.ok (.record (known.idxOf id))) r := by
  unfold convertClass
  refine .bind (.registry r) ?_
  rw [hr.find?_of_mem hid]
  exact .bind (.log _ _) (.pure _ _)

/-- A class that is not known is converted as a new one. -/
theorem convertClass_new (hr : r.Holds known) (hid : id ∉ known) {n : Nat}
    {result : Except Failure Elm.Ty} {r' : Registry}
    (h : (p.convertNew style (p.convertClass style n) id).Runs r result r') :
    (p.convertClass style (n + 1) id).Runs r result r' := by
  unfold convertClass
  refine .bind (.registry r) ?_
  rw [hr.find?_of_not_mem hid]
  exact h

/-- The conversion of a class does what the walk over the classes does. -/
theorem convertClass_runs (n : Nat) : p.Follows style (p.convertClass style n) (p.walkClass n) := by
  induction n with
  | zero =>
    intro id known r _ hr
    by_cases hid : id ∈ known
    · rw [walkClass_of_mem hid]
      exact ⟨r, .refl hr, convertClass_known hr hid 0⟩
    · rw [walkClass_zero hid]
      unfold convertClass
      refine .bind (.registry r) ?_
      rw [hr.find?_of_not_mem hid]
      exact .throw _ _
  | succ n ih =>
    intro id known r _ hr
    by_cases hid : id ∈ known
    · rw [walkClass_of_mem hid]
      exact ⟨r, .refl hr, convertClass_known hr hid (n + 1)⟩
    · have hnew := convertNew_runs (walkClass_explored n) ih hr hid
      rw [walkClass_succ hid]
      cases hwalk : p.walkNew (p.walkClass n) id known with
      | ok known' =>
        rw [hwalk] at hnew
        obtain ⟨r', hbuilds, hrun⟩ := hnew
        exact ⟨r', hbuilds, convertClass_new hr hid hrun⟩
      | error e =>
        rw [hwalk] at hnew
        exact convertClass_new hr hid hnew

/-- A root that cannot be converted is not remembered. -/
theorem convertRoot_runs_of_error {a : Annot} {e : Failure} {r' : Registry}
    (h : (p.convert style a).Runs r (.error e) r') :
    (p.convertRoot style a).Runs r (.error e) r' := by
  unfold convertRoot
  exact .bind_error h

end

end Source.Program

end ElmCodec
