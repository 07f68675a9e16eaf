import ElmCodec.Proofs.Conversion
import Mathlib.Data.Set.Function

/-!
# Calls on one registry

A registry can be used for several calls, one after the other.  A call converts an
annotation, by itself or as the root, or it builds the fields of a class.  Each call may
fail, and the next one goes on with the registry that it left.

Between calls a registry is *complete*.  It holds some classes, the record of each has its
fields, and the classes refer to no others (`Complete`).  This is not so in the middle of a
call.  There the classes that are being converted are held without fields, and they may
refer to classes that are not met yet.  The walk knows which classes are settled, so that
completeness at the end of a call follows from completeness at its start and from what the
walk explored (`Complete.builds`).

Three results follow.

* A conversion that fails leaves the registry as it was.  So after a run of conversions the
  registry is that of the conversions that succeeded.
* After every run of calls the parts of the registry fit together (`Registry.WellFormed`).
* A call only adds records after those that are there.
-/

namespace ElmCodec

open Source (Program ClassId Shape Annot)

/-! ## Well-formed registries -/

namespace Elm

/-- The record that stands innermost in a type. -/
def Ty.record? : Ty → Option RecordId
  | .record i => some i
  | .list t | .nullable t => t.record?
  | .primitive _ | .incomplete _ | .foreign .. => none

/-- A record refers to a record that stands in the type of one of its fields. -/
def Schema.RefersTo (s : Schema) (i j : RecordId) : Prop :=
  ∃ f ∈ s.fieldsOf i, f.type.record? = some j

/-- A record is reached from another one through fields. -/
def Schema.Reaches (s : Schema) : RecordId → RecordId → Prop := Relation.ReflTransGen s.RefersTo

end Elm

/-- The parts of a registry fit together. -/
structure Registry.WellFormed (r : Registry) : Prop where
  /-- The records were discovered in the order in which they stand. -/
  discovered : r.discovered = List.range r.records.length
  /-- No class has two entries. -/
  keys : r.index.keys.Nodup
  /-- The classes with an entry and the places of the records correspond one to one. -/
  places : Set.BijOn r.find? {c | c ∈ r.index.keys} {place | ∃ n < r.records.length, place = some n}
  /-- The root has a record. -/
  root : ∀ place ∈ r.root, place < r.records.length
  /-- All records have fields. -/
  fields : ∀ record ∈ r.records, record.fields ≠ []
  /-- No record leads out of the registry. -/
  closed : ∀ i j, i < r.records.length → r.records.Reaches i j → j < r.records.length

/-! ## Calls -/

/-- A conversion of an annotation, by itself or as the root. -/
inductive Conversion where
  | plain (a : Annot)
  | root (a : Annot)

/-- The conversion as a step of a walk. -/
def Conversion.run (p : Program) (style : Style) : Conversion → ResolveM Elm.Ty
  | .plain a => p.convert style a
  | .root a => p.convertRoot style a

/-- A call: a conversion, or the construction of the fields of a class. -/
inductive Call where
  | conversion (c : Conversion)
  | fields (a : Annot)

/-- The session after a call. -/
def Call.after (p : Program) (style : Style) (s : Session) : Call → Session
  | .conversion c => ((c.run p style).run s).2
  | .fields a => ((p.convertFieldsOf style a).run s).2

theorem Source.Shape.record?_elmType (node : ClassId → Elm.RecordId) (s : Shape) :
    (s.elmType node).record? = s.class?.map node := by
  induction s with
  | scalar k => rfl
  | optional a s ih => exact ih
  | sequence a s ih => exact ih
  | record id => rfl
  | unsupported reason a => rfl

/-- The type of a shape leads to the place of a known class. -/
theorem Source.Shape.lt_of_record? {known : List ClassId} {s : Shape} {i : Elm.RecordId}
    (h : ∀ d, s.class? = some d → d ∈ known) (hi : (s.elmType known.idxOf).record? = some i) :
    i < known.length := by
  rw [record?_elmType, Option.map_eq_some_iff] at hi
  obtain ⟨d, hd, rfl⟩ := hi
  exact List.idxOf_lt_length_of_mem (h d hd)

namespace Source.Program

/-- The session after some calls. -/
def sessionAfter (p : Program) (style : Style) (s : Session) (calls : List Call) : Session :=
  calls.foldl (Call.after p style) s

theorem sessionAfter_cons (p : Program) (style : Style) (s : Session) (call : Call)
    (calls : List Call) : p.sessionAfter style s (call :: calls) =
      p.sessionAfter style (call.after p style s) calls :=
  rfl

/-- The conversions of a run that succeed. -/
def succeeding (p : Program) (style : Style) : Session → List Conversion → List Conversion
  | _, [] => []
  | s, c :: rest =>
    match (c.run p style).run s with
    | (.ok _, s') => c :: p.succeeding style s' rest
    | (.error _, s') => p.succeeding style s' rest

/-! ## Complete registries -/

/-- A registry that holds the records of some classes, which refer to no others. -/
structure Complete (p : Program) (style : Style) (r : Registry) (known : List ClassId) : Prop where
  holds : r.Holds known
  records : r.records = known.map (p.recordOf style known)
  settled : ∀ c ∈ known, p.Settled known c
  classes : ∀ c ∈ known, p.isRecordClass c = true
  root : ∀ place ∈ r.root, place < known.length

variable {p : Program} {style : Style} {r r' : Registry} {known known' : List ClassId}
  {start : ClassId → Prop}

theorem complete_empty (p : Program) (style : Style) : p.Complete style {} [] where
  holds := Registry.holds_empty
  records := rfl
  settled := by simp
  classes := by simp
  root := by simp

namespace Complete

theorem room (h : p.Complete style r known) : p.Room p.classes.length known where
  nodup := h.holds.nodup
  declared c hc := lt_of_isRecordClass (h.classes c hc)
  enough := by omega

/-- A walk from a complete registry leads to a complete one. -/
theorem builds (h : p.Complete style r known) (hstart : ∀ d, start d → p.isRecordClass d = true)
    (hx : p.Explored start known known') (hb : p.Builds style r known' r') :
    p.Complete style r' known' where
  holds := hb.holds h.holds hx
  records := by
    obtain ⟨new, rfl⟩ := hx.grows
    -- The records that were there belong to settled classes.
    have hold : known.map (p.recordOf style known) = known.map (p.recordOf style (known ++ new)) :=
      List.map_congr_left fun c hc => recordOf_mono (List.prefix_append _ _) (h.settled c hc)
    rw [hb.records, h.holds.length, List.drop_left, h.records, hold, List.map_append]
  settled := by
    intro c hc
    rcases hx.settled c hc with hold | ⟨hnew, -⟩
    · exact (h.settled c hold).mono hx.grows.subset
    · exact hnew
  classes := by
    intro c hc
    rcases hx.settled c hc with hold | ⟨-, d, hd, hreach⟩
    · exact h.classes c hold
    · exact hreach.isRecordClass (hstart d hd)
  root := by
    intro place hplace
    rw [hb.root] at hplace
    exact (h.root place hplace).trans_le hx.grows.length_le

theorem setRoot (h : p.Complete style r known) {id : ClassId} (hid : id ∈ known) :
    p.Complete style { r with root := r.find? id } known where
  holds := ⟨h.holds.index, h.holds.length, h.holds.discovered, h.holds.nodup⟩
  records := h.records
  settled := h.settled
  classes := h.classes
  root := by
    intro place hplace
    change place ∈ r.find? id at hplace
    rw [h.holds.find?_of_mem hid] at hplace
    cases hplace
    exact List.idxOf_lt_length_of_mem hid

theorem keys_eq (h : p.Complete style r known) : r.index.keys = known := by
  rw [h.holds.index, Table.keys, List.zipIdx_map_fst]

theorem fieldsOf_eq (h : p.Complete style r known) {place : Elm.RecordId} {c : ClassId}
    (hc : known[place]? = some c) :
    ∃ es, p.exportedFields c = .ok es ∧ es ≠ [] ∧
      r.records.fieldsOf place = es.map (p.fieldOf style known) := by
  obtain ⟨es, hes, hne, -⟩ :=
    convertible_iff.mp (h.settled c (List.mem_of_getElem? hc)).convertible
  refine ⟨es, hes, hne, ?_⟩
  rw [Elm.Schema.fieldsOf, h.records, List.getElem?_map, hc, Option.map_some, recordOf_eq hes]
  rfl

/-- A record refers to the records of the classes that its class refers to. -/
theorem lt_of_refersTo (h : p.Complete style r known) {i j : Elm.RecordId}
    (hi : i < r.records.length) (hrefers : r.records.RefersTo i j) : j < r.records.length := by
  rw [h.holds.length] at hi ⊢
  have hc := List.getElem?_eq_getElem hi
  obtain ⟨es, hes, -, hfields⟩ := h.fieldsOf_eq hc
  obtain ⟨f, hf, hj⟩ := hrefers
  rw [hfields] at hf
  obtain ⟨e, he, rfl⟩ := List.mem_map.mp hf
  refine Shape.lt_of_record? (fun d hd => ?_) hj
  exact (h.settled _ (List.getElem_mem hi)).closed d ((refersTo_iff hes).mpr ⟨e, he, hd⟩)

theorem places_bijOn (h : p.Complete style r known) :
    Set.BijOn r.find? {c | c ∈ r.index.keys} {place | ∃ n < r.records.length, place = some n} := by
  rw [h.keys_eq, h.holds.length]
  refine ⟨fun c hc => ?_, fun c hc d hd hsame => ?_, ?_⟩
  · exact ⟨_, List.idxOf_lt_length_of_mem hc, h.holds.find?_of_mem hc⟩
  · rw [h.holds.find?_of_mem hc, h.holds.find?_of_mem hd] at hsame
    exact (List.idxOf_inj hc).mp (Option.some.inj hsame)
  · rintro _ ⟨n, hn, rfl⟩
    refine ⟨known[n], List.getElem_mem hn, ?_⟩
    rw [h.holds.find?_of_mem (List.getElem_mem hn), h.holds.nodup.idxOf_getElem n hn]

theorem wellFormed (h : p.Complete style r known) : r.WellFormed where
  discovered := by rw [h.holds.discovered, h.holds.length]
  keys := h.keys_eq ▸ h.holds.nodup
  places := h.places_bijOn
  root := h.holds.length ▸ h.root
  fields := by
    intro record hrecord
    rw [h.records] at hrecord
    obtain ⟨c, hc, rfl⟩ := List.mem_map.mp hrecord
    obtain ⟨es, hes, hne, -⟩ := convertible_iff.mp (h.settled c hc).convertible
    rw [recordOf_eq hes]
    simpa using hne
  closed := by
    intro i j hi hreach
    induction hreach with
    | refl => exact hi
    | tail _ hrefers ih => exact h.lt_of_refersTo ih hrefers

end Complete

/-! ## What a call does -/

/-- The classes known after the conversion of an annotation. -/
def walkAnnot (p : Program) (a : Annot) (known : List ClassId) : Except Failure (List ClassId) :=
  p.walkShape (p.walkClass p.classes.length) (p.shape a) known

/-- A conversion adds the classes of its walk, or fails and changes nothing. -/
theorem convert_runs (h : p.Complete style r known) (a : Annot) :
    match p.walkAnnot a known with
    | .ok known' => (∀ d, (p.shape a).class? = some d → d ∈ known') ∧ ∃ r',
        p.Complete style r' known' ∧ r.records <+: r'.records ∧
        (p.convert style a).Runs r (.ok ((p.shape a).elmType known'.idxOf)) r'
    | .error e => (p.convert style a).Runs r (.error e) r := by
  have hruns := convertShape_runs (@convertClass_runs p style p.classes.length) h.holds
    (p.isRecordClass_of_class? a)
  cases hwalk : p.walkAnnot a known with
  | error e =>
    unfold walkAnnot at hwalk
    rw [hwalk] at hruns
    exact hruns
  | ok known' =>
    unfold walkAnnot at hwalk
    rw [hwalk] at hruns
    obtain ⟨r', hbuilds, hrun⟩ := hruns
    obtain ⟨-, hexplored⟩ := walkShape_explored (walkClass_explored p.classes.length)
      (p.isRecordClass_of_class? a) hwalk
    exact ⟨hexplored.covers, r', h.builds (p.isRecordClass_of_class? a) hexplored hbuilds,
      ⟨_, hbuilds.records.symm⟩, hrun⟩

/-- After the conversion of a root only the root changes. -/
theorem convertRoot_runs_of_ok (h : p.Complete style r' known') {a : Annot} {t : Elm.Ty}
    (hclass : ∀ d, (p.shape a).class? = some d → d ∈ known')
    (hrun : (p.convert style a).Runs r (.ok t) r') :
    ∃ r'', p.Complete style r'' known' ∧ r''.records = r'.records ∧
      (p.convertRoot style a).Runs r (.ok t) r'' := by
  unfold convertRoot
  cases hshape : p.shape a with
  | record id =>
    have hid : id ∈ known' := hclass id (by rw [hshape]; rfl)
    exact ⟨_, h.setRoot hid, rfl, .bind hrun (.bind (.update _ r') (.pure _ _))⟩
  | scalar | optional | sequence | unsupported =>
    exact ⟨r', h, rfl, .bind hrun (.bind (.pure _ _) (.pure _ _))⟩

/-- A conversion leads to a complete registry with its type, or fails and changes nothing. -/
theorem conversion_runs (h : p.Complete style r known) (c : Conversion) :
    (∃ t r' known', p.Complete style r' known' ∧ r.records <+: r'.records ∧
      (∀ i, t.record? = some i → i < known'.length) ∧ (c.run p style).Runs r (.ok t) r') ∨
    ∃ e, (c.run p style).Runs r (.error e) r := by
  have hruns := fun a => convert_runs h a
  cases c with
  | plain a =>
    have hruns := hruns a
    split at hruns
    next known' _ =>
      obtain ⟨hclass, r', hcomplete, hrecords, hrun⟩ := hruns
      exact Or.inl ⟨_, r', known', hcomplete, hrecords, fun _ => Shape.lt_of_record? hclass, hrun⟩
    next e _ => exact Or.inr ⟨e, hruns⟩
  | root a =>
    have hruns := hruns a
    split at hruns
    next known' _ =>
      obtain ⟨hclass, r', hcomplete, hrecords, hrun⟩ := hruns
      obtain ⟨r'', hcomplete', hsame, hrun'⟩ := convertRoot_runs_of_ok hcomplete hclass hrun
      exact Or.inl ⟨_, r'', known', hcomplete', hsame ▸ hrecords,
        fun _ => Shape.lt_of_record? hclass, hrun'⟩
    next e _ => exact Or.inr ⟨e, convertRoot_runs_of_error hruns⟩

/-- The fields of a class are built on a complete registry, and it is complete afterwards
whether this succeeds or not.  A failure keeps the records of the fields before it. -/
theorem buildFields_complete (h : p.Complete style r known) (id : ClassId) :
    ∃ result r' known', p.Complete style r' known' ∧ r.records <+: r'.records ∧
      (p.buildFields style (p.convertRecord style) id).Runs r result r' := by
  have hvisit : p.Explores (p.walkClass p.classes.length) := walkClass_explored _
  unfold buildFields
  cases hes : p.exportedFields id with
  | error e => exact ⟨_, r, known, h, List.prefix_rfl, .bind_error (.ofExcept _ _)⟩
  | ok es =>
    have hruns := convertFields_runs hvisit (@convertClass_runs p style p.classes.length)
      h.holds (p.className (.declared id)) es
    cases hwalk : p.walkFields (p.walkClass p.classes.length) (p.className (.declared id)) es
        known with
    | error failed =>
      rw [hwalk] at hruns
      obtain ⟨-, r', hbuilds, hrun⟩ := hruns
      obtain ⟨start, hstart, hexplored⟩ := walkFields_explored_of_error hvisit hwalk
      exact ⟨_, r', _, h.builds hstart hexplored hbuilds, ⟨_, hbuilds.records.symm⟩,
        .bind (.ofExcept _ _) (.bind_error hrun)⟩
    | ok known' =>
      rw [hwalk] at hruns
      obtain ⟨r', hbuilds, hrun⟩ := hruns
      have hcomplete : p.Complete style r' known' := by
        refine h.builds ?_ (walkFields_explored hvisit hwalk).2 hbuilds
        rintro d ⟨e, -, hd⟩
        exact p.isRecordClass_of_class? e.hint d hd
      obtain ⟨result, hchecked⟩ : ∃ result, ResolveM.Runs
          (if (es.map (p.fieldOf style known')).isEmpty then
            throw (.ofRecord .noField (p.className (.declared id)))
          else return es.map (p.fieldOf style known')) r' result r' := by
        split
        · exact ⟨_, .throw _ _⟩
        · exact ⟨_, .pure _ _⟩
      exact ⟨result, r', known', hcomplete, ⟨_, hbuilds.records.symm⟩,
        .bind (.ofExcept _ _) (.bind hrun hchecked)⟩

theorem convertFieldsOf_complete (h : p.Complete style r known) (a : Annot) :
    ∃ result r' known', p.Complete style r' known' ∧ r.records <+: r'.records ∧
      (p.convertFieldsOf style a).Runs r result r' := by
  unfold convertFieldsOf
  split
  next id => exact buildFields_complete h id
  next =>
    generalize p.recordHints _ = hints
    cases hints with
    | error e => exact ⟨_, r, known, h, List.prefix_rfl, .bind_error (.ofExcept _ _)⟩
    | ok hints =>
      exact ⟨_, r, known, h, List.prefix_rfl, .bind (.ofExcept _ _) (.throw _ _)⟩

/-- A call keeps a registry complete and adds records at its end only. -/
theorem after_complete {s : Session} (h : p.Complete style s.registry known) (call : Call) :
    s.registry.records <+: (call.after p style s).registry.records ∧
      ∃ known', p.Complete style (call.after p style s).registry known' := by
  cases call with
  | conversion c =>
    rw [Call.after]
    rcases conversion_runs h c with ⟨t, r', known', hcomplete, hrecords, -, hrun⟩ | ⟨e, hrun⟩
    · rw [hrun.run_eq.2]
      exact ⟨hrecords, known', hcomplete⟩
    · rw [hrun.run_eq.2]
      exact ⟨List.prefix_rfl, known, h⟩
  | fields a =>
    obtain ⟨result, r', known', hcomplete, hrecords, hrun⟩ := convertFieldsOf_complete h a
    rw [Call.after, hrun.run_eq.2]
    exact ⟨hrecords, known', hcomplete⟩

/-- After every run of calls the registry is complete. -/
theorem sessionAfter_complete {s : Session} (h : p.Complete style s.registry known)
    (calls : List Call) :
    ∃ known', p.Complete style (p.sessionAfter style s calls).registry known' := by
  induction calls generalizing s known with
  | nil => exact ⟨known, h⟩
  | cons call calls ih =>
    obtain ⟨-, known₁, h₁⟩ := after_complete h call
    exact ih h₁

/-! ## Failed conversions -/

theorem registry_eq_of_error {s : Session} (h : p.Complete style s.registry known) {c : Conversion}
    {e : Failure} (herror : ((c.run p style).run s).1 = .error e) :
    ((c.run p style).run s).2.registry = s.registry := by
  rcases conversion_runs h c with ⟨t, r', known', -, -, -, hrun⟩ | ⟨e', hrun⟩
  · cases hrun.run_eq.1.symm.trans herror
  · exact hrun.run_eq.2

/-- Sessions with the same registry are told apart by their logs only, and a conversion does
the same on both. -/
theorem run_congr {s s' : Session} (h : p.Complete style s.registry known)
    (hsame : s.registry = s'.registry) (c : Conversion) :
    ((c.run p style).run s).1 = ((c.run p style).run s').1 ∧
      ((c.run p style).run s).2.registry = ((c.run p style).run s').2.registry := by
  have hboth : ∀ {result r'}, (c.run p style).Runs s.registry result r' →
      ((c.run p style).run s).1 = ((c.run p style).run s').1 ∧
        ((c.run p style).run s).2.registry = ((c.run p style).run s').2.registry := by
    intro result r' hrun
    have hrun' := hsame ▸ hrun
    rw [hrun.run_eq.1, hrun.run_eq.2, hrun'.run_eq.1, hrun'.run_eq.2]
    exact ⟨rfl, rfl⟩
  rcases conversion_runs h c with ⟨t, r', known', -, -, -, hrun⟩ | ⟨e, hrun⟩
  · exact hboth hrun
  · exact hboth hrun

/-- The conversions that fail can be left out of a run. -/
theorem sessionAfter_succeeding {s s' : Session} (h : p.Complete style s.registry known)
    (hsame : s.registry = s'.registry) (cs : List Conversion) :
    (p.sessionAfter style s (cs.map .conversion)).registry =
      (p.sessionAfter style s' ((p.succeeding style s cs).map .conversion)).registry := by
  induction cs generalizing s s' known with
  | nil => exact hsame
  | cons c cs ih =>
    obtain ⟨-, known₁, h₁⟩ := after_complete h (.conversion c)
    rw [Call.after] at h₁
    rw [List.map_cons, sessionAfter_cons, Call.after, succeeding]
    split
    next t s₁ hrun =>
      rw [hrun] at h₁ ⊢
      rw [List.map_cons, sessionAfter_cons, Call.after]
      refine ih h₁ ?_
      have hagain := (run_congr h hsame c).2
      rwa [hrun] at hagain
    next e s₁ hrun =>
      have hkept := registry_eq_of_error h (congrArg Prod.fst hrun)
      rw [hrun] at h₁ hkept ⊢
      exact ih h₁ (hkept.trans hsame)

/-! ## The main results -/

/-- A conversion that fails after some calls leaves the registry as it was.  So a run of
conversions leads to the registry to which those that succeed lead. -/
theorem failed_conversion_leaves_no_trace (p : Program) (style : Style) (calls : List Call) :
    (∀ (c : Conversion) (e : Failure),
      ((c.run p style).run (p.sessionAfter style {} calls)).1 = .error e →
        ((c.run p style).run (p.sessionAfter style {} calls)).2.registry =
          (p.sessionAfter style {} calls).registry) ∧
    ∀ cs : List Conversion,
      (p.sessionAfter style (p.sessionAfter style {} calls) (cs.map .conversion)).registry =
        (p.sessionAfter style (p.sessionAfter style {} calls)
          ((p.succeeding style (p.sessionAfter style {} calls) cs).map .conversion)).registry := by
  obtain ⟨known, h⟩ := sessionAfter_complete (s := {}) (complete_empty p style) calls
  exact ⟨fun c e herror => registry_eq_of_error h herror,
    fun cs => sessionAfter_succeeding h rfl cs⟩

/-- A store: items, shelves with items and further shelves, and a store with shelves and a
photograph, which has no counterpart. -/
def store : Program :=
  .ofModule "store"
    [.record "Item" [("label", .ofBuiltin .str)],
      .record "Shelf" [("items", .listOf (.name "Item")), ("others", .listOf (.text "Shelf"))],
      .record "Store" [("shelves", .listOf (.name "Shelf")), ("photograph", .ofBuiltin .bytes)]]

/-- The items are converted.  Then the store fails after its shelves, and the items stay. -/
theorem store_leaves_no_trace :
    ∃ s, s = store.sessionAfter {} {} [.conversion (.plain (.cls (.declared 0)))] ∧
      s.registry.discovered = [0] ∧
      ((Conversion.root (.cls (.declared 2))).run store {} |>.run s).1 =
        .error (.problem ⟨.unsupported .builtin "bytes", some "Store", some "photograph"⟩) ∧
      ((Conversion.root (.cls (.declared 2))).run store {} |>.run s).2.registry = s.registry := by
  have hwalk : store.walkAnnot (.cls (.declared 0)) [] = .ok [0] := by decide +kernel
  have hfail : store.walkAnnot (.cls (.declared 2)) [0] = .error
      (.problem ⟨.unsupported .builtin "bytes", some "Store", some "photograph"⟩) := by
    decide +kernel
  have hitem := convert_runs (complete_empty store {}) (.cls (.declared 0))
  rw [hwalk] at hitem
  obtain ⟨-, r, hr, -, hitem⟩ := hitem
  have hregistry : (store.sessionAfter {} {}
      [.conversion (.plain (.cls (.declared 0)))]).registry = r :=
    (hitem.run_eq (s := {})).2
  have hstore := convert_runs hr (.cls (.declared 2))
  rw [hfail, ← hregistry] at hstore
  have hfails := (convertRoot_runs_of_error hstore).run_eq.1
  refine ⟨_, rfl, ?_, hfails, (failed_conversion_leaves_no_trace store {} _).1 _ _ hfails⟩
  rw [hregistry, hr.holds.discovered]
  rfl

/-- After any calls the registry is well-formed.  One more call keeps the records that are
there, with their names and fields, in their places, and a conversion returns a type whose
record is there. -/
theorem registry_wellFormed_after_calls (p : Program) (style : Style) (calls : List Call) :
    (p.sessionAfter style {} calls).registry.WellFormed ∧
    (∀ call : Call, (p.sessionAfter style {} calls).registry.records <+:
      (p.sessionAfter style {} (calls ++ [call])).registry.records) ∧
    ∀ (c : Conversion) (t : Elm.Ty),
      ((c.run p style).run (p.sessionAfter style {} calls)).1 = .ok t →
        ∀ i, t.record? = some i →
          i < (p.sessionAfter style {} (calls ++ [.conversion c])).registry.records.length := by
  obtain ⟨known, h⟩ := sessionAfter_complete (s := {}) (complete_empty p style) calls
  have hsnoc : ∀ call : Call, p.sessionAfter style {} (calls ++ [call]) =
      call.after p style (p.sessionAfter style {} calls) := by
    intro call
    rw [sessionAfter, List.foldl_append]
    rfl
  refine ⟨h.wellFormed, fun call => ?_, fun c t ht => ?_⟩
  · rw [hsnoc]
    exact (after_complete h call).1
  · rw [hsnoc, Call.after]
    rcases conversion_runs h c with ⟨t', r', known', hcomplete, -, hplace, hrun⟩ | ⟨e, hrun⟩
    · cases hrun.run_eq.1.symm.trans ht
      rw [hrun.run_eq.2, hcomplete.holds.length]
      exact hplace
    · cases hrun.run_eq.1.symm.trans ht

/-- The store fails, and then its shelves are converted. -/
theorem shelves_wellFormed :
    ∃ s, s = store.sessionAfter {} {} [.conversion (.root (.cls (.declared 2)))] ∧
      s.registry.WellFormed ∧
      ((Conversion.plain (.cls (.declared 1))).run store {} |>.run s).1 = .ok (.record 0) ∧
      0 < (store.sessionAfter {} {} [.conversion (.root (.cls (.declared 2))),
        .conversion (.plain (.cls (.declared 1)))]).registry.records.length := by
  have hfail : store.walkAnnot (.cls (.declared 2)) [] = .error
      (.problem ⟨.unsupported .builtin "bytes", some "Store", some "photograph"⟩) := by
    decide +kernel
  have hwalk : store.walkAnnot (.cls (.declared 1)) [] = .ok [1, 0] := by decide +kernel
  have hstore := convert_runs (complete_empty store {}) (.cls (.declared 2))
  rw [hfail] at hstore
  have hregistry : (store.sessionAfter {} {}
      [.conversion (.root (.cls (.declared 2)))]).registry = {} :=
    ((convertRoot_runs_of_error hstore).run_eq (s := {})).2
  have hshelf := convert_runs (complete_empty store {}) (.cls (.declared 1))
  rw [hwalk, ← hregistry] at hshelf
  obtain ⟨-, r, -, -, hshelf⟩ := hshelf
  have htype : (store.shape (.cls (.declared 1))).elmType [1, 0].idxOf = .record 0 := by
    decide +kernel
  have hok := htype ▸ hshelf.run_eq.1
  obtain ⟨hwellFormed, -, hplace⟩ := registry_wellFormed_after_calls store {}
    [.conversion (.root (.cls (.declared 2)))]
  exact ⟨_, rfl, hwellFormed, hok, hplace (.plain _) _ hok 0 rfl⟩

end Source.Program

end ElmCodec
