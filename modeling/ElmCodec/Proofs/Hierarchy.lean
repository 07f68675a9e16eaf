import ElmCodec.Proofs.Lineage

/-!
# Hierarchies of classes

The classes that a program declares form a hierarchy (`IsHierarchy`).  With a declared class a
lineage has all classes of that class's own lineage, and the fields that a record collected are
annotated somewhere in its lineage and have different names.

A new class keeps this if the objects that it names as bases mention declared classes only.  So
the bindings and the memory belong to the invariant (`IsCoherent`), together with a property of
annotations that evaluation keeps, and every statement keeps it (`perform_secures`).
-/

namespace ElmCodec.Source

namespace Program

open Annot (Known Throughout)

/-- A class of a lineage annotates a name. -/
def Annotates (p : Program) (lineage : List ClassRef) (name : String) : Prop :=
  ∃ b d f, .declared b ∈ lineage ∧ p.classAt? b = some d ∧ f ∈ d.annotations ∧ f.name = name

/-- The declared classes of a lineage are there, and it has their lineages. -/
def IsClosed (p : Program) (lineage : List ClassRef) : Prop :=
  ∀ b, .declared b ∈ lineage → ∃ d, p.classAt? b = some d ∧ d.lineage ⊆ lineage

/-- The lineages of classes and the fields of records are the ones of a hierarchy. -/
structure IsHierarchy (p : Program) : Prop where
  /-- A lineage has the lineages of the ancestors. -/
  closed : ∀ {c d}, p.classAt? c = some d → p.IsClosed d.lineage
  /-- A class of the lineage annotates each field. -/
  collected : ∀ {c d f}, p.classAt? c = some d → f ∈ d.collected → p.Annotates d.lineage f.name
  /-- The fields have different names. -/
  distinct : ∀ {c d}, p.classAt? c = some d → (d.collected.map FieldDecl.name).Nodup

variable {p : Program} {c : ClassId} {d e : ClassDecl} {f : FieldDecl} {name : String}
  {lineage tail : List ClassRef}

theorem Annotates.mono (h : p.Annotates lineage name) (hsub : lineage ⊆ tail) :
    p.Annotates tail name := by
  obtain ⟨b, d, f, hb, hd⟩ := h
  exact ⟨b, d, f, hsub hb, hd⟩

theorem lineage_of_classAt? (h : p.classAt? c = some d) : p.lineage c = d.lineage := by
  rw [Program.lineage, h]
  rfl

/-- The first record of a lineage is a class of it. -/
theorem exists_of_firstRecord? (h : p.firstRecord? c = some d) :
    ∃ b, .declared b ∈ p.lineage c ∧ p.classAt? b = some d := by
  obtain ⟨r, hr, hd⟩ := List.mem_filterMap.mp (List.mem_of_find?_eq_some h)
  cases r with
  | declared b => exact ⟨b, hr, hd⟩
  | builtin _ => cases hd
  | library _ => cases hd

/-- The fields that a class has from a record are annotated in its own lineage. -/
theorem IsHierarchy.annotates (h : p.IsHierarchy) (hrecord : p.firstRecord? c = some d)
    (hf : f ∈ d.collected) : p.Annotates (p.lineage c) f.name := by
  obtain ⟨b, hb, hd⟩ := exists_of_firstRecord? hrecord
  cases hc : p.classAt? c with
  | none =>
    rw [Program.lineage, hc] at hb
    cases hb
  | some e =>
    rw [lineage_of_classAt? hc] at hb ⊢
    obtain ⟨d', hd', hsub⟩ := h.closed hc b hb
    cases Option.some.inj (hd.symm.trans hd')
    exact (h.collected hd hf).mono hsub

/-- The fields of a class have different names. -/
theorem IsHierarchy.nodup_fields (h : p.IsHierarchy) {fields : List FieldDecl}
    (hfields : p.fields? c = some fields) : (fields.map FieldDecl.name).Nodup := by
  obtain ⟨d, hrecord, rfl⟩ := Option.map_eq_some_iff.mp hfields
  obtain ⟨b, -, hd⟩ := exists_of_firstRecord? hrecord
  exact (h.distinct hd).sublist (List.filter_sublist.map FieldDecl.name)

/-! ## Collected fields -/

theorem mem_mergeFields {table : Table String FieldDecl} {fields : List FieldDecl}
    {entry : String × FieldDecl} (h : entry ∈ mergeFields table fields) :
    entry ∈ table ∨ entry.2 ∈ fields := by
  refine (Table.mem_insertAll h).imp_right fun h => ?_
  obtain ⟨f, hf, rfl⟩ := List.mem_map.mp h
  exact hf

/-- Each field that a record collects is its own or one of an ancestor. -/
theorem mem_collect {ancestors : List ClassRef} {own : List FieldDecl}
    (h : f ∈ p.collect ancestors own) : f ∈ own ∨ ∃ a ∈ ancestors, f ∈ p.collectedOf a := by
  have hinherited : ∀ (as : List ClassRef) (table : Table String FieldDecl) entry,
      entry ∈ as.foldl (fun table a => mergeFields table (p.collectedOf a)) table →
      entry ∈ table ∨ ∃ a ∈ as, entry.2 ∈ p.collectedOf a := by
    intro as
    induction as with
    | nil => exact fun _ _ => Or.inl
    | cons a as ih =>
      intro table entry hentry
      rcases ih _ entry hentry with h | ⟨b, hb, h⟩
      · exact (mem_mergeFields h).imp_right fun h => ⟨a, List.mem_cons_self, h⟩
      · exact Or.inr ⟨b, List.mem_cons_of_mem a hb, h⟩
  obtain ⟨entry, hentry, rfl⟩ := List.mem_map.mp h
  rcases mem_mergeFields hentry with h | h
  · rcases hinherited _ _ _ h with h | ⟨a, ha, h⟩
    · cases h
    · exact Or.inr ⟨a, List.mem_reverse.mp ha, h⟩
  · exact Or.inl h

/-- Each field stands under its own name, and once. -/
structure IsIndex (table : Table String FieldDecl) : Prop where
  nodup : table.keys.Nodup
  named : ∀ entry ∈ table, entry.2.name = entry.1

theorem IsIndex.mergeFields {table : Table String FieldDecl} (h : IsIndex table)
    (fields : List FieldDecl) : IsIndex (mergeFields table fields) where
  nodup := Table.nodup_keys_insertAll h.nodup _
  named := by
    intro entry hentry
    rcases Table.mem_insertAll hentry with hentry | hentry
    · exact h.named entry hentry
    · obtain ⟨f, -, rfl⟩ := List.mem_map.mp hentry
      rfl

/-- The fields that a record collects have different names. -/
theorem nodup_collect (p : Program) (ancestors : List ClassRef) (own : List FieldDecl) :
    ((p.collect ancestors own).map FieldDecl.name).Nodup := by
  have hinherited : IsIndex (ancestors.reverse.foldl
      (fun table a => Program.mergeFields table (p.collectedOf a)) []) :=
    List.foldlRecOn _ _ ⟨List.nodup_nil, nofun⟩ fun _ h a _ => h.mergeFields (p.collectedOf a)
  have hindex := hinherited.mergeFields own
  have hnames : (p.collect ancestors own).map FieldDecl.name = Table.keys _ :=
    (List.map_map ..).trans (List.map_congr_left hindex.named)
  rw [hnames]
  exact hindex.nodup

/-- What a record collects from ancestors is annotated among them. -/
theorem IsHierarchy.annotates_of_mem_collect (h : p.IsHierarchy) (htail : p.IsClosed tail)
    {own : List FieldDecl} (hf : f ∈ p.collect tail own) : f ∈ own ∨ p.Annotates tail f.name := by
  refine (mem_collect hf).imp_right ?_
  rintro ⟨a, ha, hf⟩
  cases a with
  | builtin _ => cases hf
  | library _ => cases hf
  | declared b =>
    obtain ⟨e, he, hsub⟩ := htail b ha
    change f ∈ (p.firstRecord? b).elim [] ClassDecl.collected at hf
    cases hrecord : p.firstRecord? b with
    | none => rw [hrecord] at hf; cases hf
    | some d =>
      rw [hrecord] at hf
      exact (lineage_of_classAt? he ▸ h.annotates hrecord hf).mono hsub

/-! ## One more class -/

theorem classAt?_addClass (h : p.classAt? c = some e) : (p.addClass d).classAt? c = some e :=
  (List.getElem?_append_left (List.getElem?_eq_some_iff.mp h).1).trans h

theorem classAt?_addClass_nextClass : (p.addClass d).classAt? p.nextClass = some d :=
  List.getElem?_concat_length

theorem eq_of_classAt?_addClass (h : (p.addClass d).classAt? c = some e) :
    p.classAt? c = some e ∨ c = p.nextClass ∧ e = d := by
  have hlt : c < p.classes.length + 1 := by
    simpa [Program.addClass] using (List.getElem?_eq_some_iff.mp h).1
  rcases Nat.lt_succ_iff_lt_or_eq.mp hlt with hlt | rfl
  · exact Or.inl ((List.getElem?_append_left hlt).symm.trans h)
  · exact Or.inr ⟨rfl, Option.some.inj (h.symm.trans classAt?_addClass_nextClass)⟩

theorem Annotates.addClass (h : p.Annotates lineage name) :
    (p.addClass d).Annotates lineage name := by
  obtain ⟨b, e, f, hb, he, hf⟩ := h
  exact ⟨b, e, f, hb, classAt?_addClass he, hf⟩

theorem IsClosed.addClass (h : p.IsClosed lineage) : (p.addClass d).IsClosed lineage := by
  intro b hb
  obtain ⟨e, he, hsub⟩ := h b hb
  exact ⟨e, classAt?_addClass he, hsub⟩

theorem IsHierarchy.addClass (h : p.IsHierarchy)
    (hlineage : d.lineage = .declared p.nextClass :: tail) (htail : p.IsClosed tail)
    (hcollected : ∀ f ∈ d.collected, f ∈ d.annotations ∨ p.Annotates tail f.name)
    (hdistinct : (d.collected.map FieldDecl.name).Nodup) : (p.addClass d).IsHierarchy where
  closed := by
    intro c e he
    rcases eq_of_classAt?_addClass he with he | ⟨rfl, rfl⟩
    · exact (h.closed he).addClass
    · intro b hb
      rw [hlineage] at hb ⊢
      rcases List.mem_cons.mp hb with hb | hb
      · cases hb
        exact ⟨e, classAt?_addClass_nextClass, hlineage ▸ List.Subset.refl _⟩
      · obtain ⟨e', he', hsub⟩ := htail.addClass b hb
        exact ⟨e', he', fun x hx => List.mem_cons_of_mem _ (hsub hx)⟩
  collected := by
    intro c e f he hf
    rcases eq_of_classAt?_addClass he with he | ⟨rfl, rfl⟩
    · exact (h.collected he hf).addClass
    · rw [hlineage]
      rcases hcollected f hf with hf | hf
      · exact ⟨p.nextClass, e, f, List.mem_cons_self, classAt?_addClass_nextClass, hf, rfl⟩
      · exact hf.addClass.mono (List.subset_cons_self _ _)
  distinct := by
    intro c e he
    rcases eq_of_classAt?_addClass he with he | ⟨-, rfl⟩
    · exact h.distinct he
    · exact hdistinct

/-- The lineage of a new class is closed if its bases are declared classes and standard ones. -/
theorem IsHierarchy.isClosed_of_lineageFrom (h : p.IsHierarchy) {bases : List ClassRef}
    (hbases : ∀ b ∈ bases, b.Within p.classes.length)
    (hlineage : p.lineageFrom bases = .ok lineage) :
    ∃ tail, lineage = .declared p.nextClass :: tail ∧ p.IsClosed tail := by
  obtain ⟨tail, rfl, hmem⟩ := mem_lineageFrom hlineage
  refine ⟨tail, rfl, fun b hb => ?_⟩
  rcases (hmem _).mp hb with hbase | ⟨base, hbase, hb⟩
  · obtain ⟨d, hd⟩ : ∃ d, p.classAt? b = some d :=
      ⟨_, List.getElem?_eq_getElem (hbases _ hbase)⟩
    have hlineage : p.lineageOf (.declared b) = d.lineage := lineage_of_classAt? hd
    exact ⟨d, hd, fun x hx => (hmem x).mpr (Or.inr ⟨_, hbase, hlineage ▸ hx⟩)⟩
  · obtain ⟨id, rfl⟩ := exists_of_mem_lineageOf hb
    obtain ⟨e, he⟩ : ∃ e, p.classAt? id = some e :=
      ⟨_, List.getElem?_eq_getElem (hbases _ hbase)⟩
    have hlineage : p.lineageOf (.declared id) = e.lineage := lineage_of_classAt? he
    obtain ⟨d, hd, hsub⟩ := h.closed he b (hlineage ▸ hb)
    exact ⟨d, hd, fun x hx => (hmem x).mpr (Or.inr ⟨_, hbase, hlineage ▸ hsub hx⟩)⟩

/-! ## Coherent programs -/

/-- The classes form a hierarchy, and all that is bound or remembered mentions only them and
standard classes.  It has a property, and so have the annotations of the classes. -/
structure IsCoherent (P : Annot → Prop) (p : Program) : Prop where
  /-- The classes form a hierarchy. -/
  hierarchy : p.IsHierarchy
  /-- The annotations of classes have the property. -/
  annotated : ∀ {c d f}, p.classAt? c = some d → f ∈ d.annotations → P f.type
  /-- The bindings of modules mention declared classes. -/
  bound : ∀ m, Throughout (Known P p.classes.length) (p.namespaceAt m)
  /-- What evaluation remembers does. -/
  made : p.memory.Holds (Known P p.classes.length)
  /-- What hints find around the program has the property. -/
  around : ∀ entry ∈ p.surroundings, entry.2.Holds P

variable {P : Annot → Prop}

theorem IsHierarchy.of_classes_eq {q : Program} (h : p.IsHierarchy) (hq : q.classes = p.classes) :
    q.IsHierarchy := by
  have hat : ∀ c, q.classAt? c = p.classAt? c := fun c => by rw [classAt?, hq, classAt?]
  constructor
  · intro c d hd b hb
    obtain ⟨e, he, hsub⟩ := h.closed (hat c ▸ hd) b hb
    exact ⟨e, (hat b).trans he, hsub⟩
  · intro c d f hd hf
    obtain ⟨b, e, g, hb, he, hg⟩ := h.collected (hat c ▸ hd) hf
    exact ⟨b, e, g, hb, (hat b).trans he, hg⟩
  · exact fun hd => h.distinct (hat _ ▸ hd)

theorem isCoherent_empty : ({} : Program).IsCoherent P where
  hierarchy := ⟨nofun, nofun, nofun⟩
  annotated := nofun
  bound := fun _ _ h => nomatch h
  made := fun _ h => nomatch h
  around := nofun

theorem IsCoherent.surroundingsOf (h : p.IsCoherent P) (id : ClassId) :
    (p.surroundingsOf id).Holds P := by
  unfold Program.surroundingsOf
  cases hfind : p.surroundings.find? id with
  | none => exact ⟨h.made.imp fun _ ha => ha.2, nofun⟩
  | some s => exact h.around _ (Table.mem_of_find? hfind)

/-- The program with other surroundings. -/
def surroundedBy (p : Program) (around : Table ClassId Surroundings) : Program :=
  { p with surroundings := around }

theorem IsCoherent.surroundedBy (h : p.IsCoherent P) {around : Table ClassId Surroundings}
    (haround : ∀ entry ∈ around, entry.2.Holds P) : (p.surroundedBy around).IsCoherent P :=
  ⟨h.hierarchy.of_classes_eq rfl, h.annotated, h.bound, h.made, haround⟩

theorem IsCoherent.addClass (h : p.IsCoherent P) (hd : (p.addClass d).IsHierarchy)
    (hannotated : ∀ f ∈ d.annotations, P f.type) : (p.addClass d).IsCoherent P := by
  have hle : p.classes.length ≤ (p.addClass d).classes.length := by simp [Program.addClass]
  refine ⟨hd, fun he hf => ?_, fun m => (h.bound m).imp fun _ => .mono hle,
    h.made.imp fun _ => .mono hle, h.around⟩
  rcases eq_of_classAt?_addClass he with he | ⟨-, rfl⟩
  · exact h.annotated he hf
  · exact hannotated _ hf

theorem IsCoherent.modifyModule (h : p.IsCoherent P) {m : ModuleId} {change : Module → Module}
    (hchange : ∀ module, Throughout (Known P p.classes.length) module.bindings →
      Throughout (Known P p.classes.length) (change module).bindings) :
    (p.modifyModule m change).IsCoherent P := by
  refine ⟨h.hierarchy.of_classes_eq rfl, h.annotated, fun k => ?_, h.made, h.around⟩
  have hk := h.bound k
  unfold namespaceAt moduleAt Program.modifyModule at *
  rw [List.getElem?_modify]
  cases hmodule : p.modules[k]? with
  | none => exact fun _ hentry => nomatch hentry
  | some module =>
    rw [hmodule] at hk
    by_cases heq : m = k
    · simpa [heq] using hchange module hk
    · simpa [heq] using hk

theorem IsCoherent.bind (h : p.IsCoherent P) {m : ModuleId} {a : Annot}
    (ha : a.Known P p.classes.length) : (p.bind m name a).IsCoherent P := by
  refine h.modifyModule fun module hmodule entry hentry => ?_
  rcases Table.mem_insert hentry with hentry | rfl
  · exact hmodule entry hentry
  · exact ha

theorem IsCoherent.addModule (h : p.IsCoherent P) {module : Module}
    (hmodule : Throughout (Known P p.classes.length) module.bindings) :
    (p.addModule module).1.IsCoherent P := by
  refine ⟨h.hierarchy.of_classes_eq rfl, h.annotated, fun k => ?_, h.made, h.around⟩
  have hk := h.bound k
  unfold namespaceAt moduleAt at *
  change Throughout (Known P p.classes.length)
    ((p.modules ++ [module])[k]?.getD { name := "" }).bindings
  rcases Nat.lt_trichotomy k p.modules.length with hlt | rfl | hgt
  · rwa [List.getElem?_append_left hlt]
  · rwa [List.getElem?_concat_length]
  · rw [List.getElem?_eq_none (by simpa using Nat.succ_le_of_lt hgt)]
    exact fun _ hentry => nomatch hentry

theorem IsCoherent.unload (h : p.IsCoherent P) : (p.unload name).IsCoherent P :=
  ⟨h.hierarchy.of_classes_eq rfl, h.annotated, h.bound, h.made, h.around⟩

end Program

/-! ## Statements -/

/-- A statement takes declared classes from bindings only. -/
def Statement.ByName : Statement → Prop
  | .declare c => ∀ f ∈ c.fields, f.type.ByName
  | .synonym type | .newType _ type => type.ByName
  | _ => True

/-- The objects that are fixed in a statement. -/
def Statement.objects : Statement → List Annot
  | .declare c => c.fields.flatMap fun f => f.type.objects
  | .synonym type | .newType _ type => type.objects
  | _ => []

theorem Statement.within_of_byName (s : Statement) (h : s.ByName) :
    ∀ a ∈ s.objects, a.Within 0 := by
  cases s with
  | declare c =>
    intro a ha
    obtain ⟨f, hf, ha⟩ := List.mem_flatMap.mp ha
    exact f.type.within_of_byName (h f hf) a ha
  | synonym type => exact type.within_of_byName h
  | newType name type => exact type.within_of_byName h
  | _ => exact nofun

/-- The annotations of a class body have what evaluation keeps. -/
theorem classBody_stays (p : Program) {P : Annot → Prop} [Annot.Inherited P] {bindings : Namespace}
    (h : Annot.Throughout P bindings) (fields : List FieldExpr)
    (hfields : ∀ f ∈ fields, ∀ a ∈ f.type.objects, P a) (table : Table String FieldDecl)
    (htable : ∀ entry ∈ table, P entry.2.type) :
    EvalM.Stays P (classBody p bindings table fields) fun own => ∀ f ∈ own, P f.type := by
  induction fields generalizing table with
  | nil =>
    refine .pure fun f hf => ?_
    obtain ⟨entry, hentry, rfl⟩ := List.mem_map.mp hf
    exact htable entry hentry
  | cons f fields ih =>
    unfold classBody
    refine .bind (TypeExpr.eval_stays p h f.type (hfields f List.mem_cons_self)) fun a ha => ?_
    refine ih (fun f hf => hfields f (List.mem_cons_of_mem _ hf)) _ fun entry hentry => ?_
    rcases Table.mem_insert hentry with hentry | rfl
    · exact htable entry hentry
    · exact ha

theorem enumerationBody_types {own own' : List FieldDecl} {members : Table String Nat}
    (h : enumerationBody own = .ok (own', members)) :
    ∀ f' ∈ own', ∃ f ∈ own, f.type = f'.type := by
  obtain ⟨-, -, h⟩ := bind_eq_ok.mp h
  cases h
  intro f' hf'
  obtain ⟨f, hf, rfl⟩ := List.mem_map.mp hf'
  refine ⟨f, hf, ?_⟩
  split
  · rfl
  · rfl

theorem recordBody_types {p : Program} {module name : String} {ancestors : List ClassRef}
    {own own' : List FieldDecl} (h : p.recordBody module name ancestors own = .ok own') :
    ∀ f' ∈ own', ∃ f ∈ own, f.type = f'.type := by
  obtain ⟨roles, hroles, h⟩ := bind_eq_ok.mp h
  have hresult : roles = own' := by
    dsimp only at h
    split at h
    · cases h
    split at h
    · cases h
      rfl
    split at h
    · cases h
    split at h
    · cases h
    · cases h
      rfl
  subst hresult
  intro f' hf'
  obtain ⟨f, hf, hrole⟩ := forall₂_mem_right (mapM_eq_ok.mp hroles) hf'
  obtain ⟨role, -, hrole⟩ := bind_eq_ok.mp hrole
  refine ⟨f, hf, ?_⟩
  split at hrole
  · obtain ⟨_, -, hf'⟩ := bind_eq_ok.mp hrole
    cases hf'
    rfl
  · cases hrole
    rfl

namespace ProgramM

open Program (IsCoherent)
open Annot (Known Throughout)

variable {α : Type} {P : Annot → Prop} {p : Program} {m : ModuleId}

/-- Evaluation keeps the classes. -/
theorem evaluate_secures {step : Program → EvalM α} {A : α → Prop} (h : p.IsCoherent P)
    (hstep : EvalM.Stays (Known P p.classes.length) (step p) A) :
    Secures (IsCoherent P) (evaluate step) p fun a q => A a ∧ q.classes = p.classes := by
  obtain ⟨hmade, hgood⟩ := hstep p.memory h.made
  constructor
  · exact ⟨h.hierarchy.of_classes_eq rfl, h.annotated, h.bound, hmade, h.around⟩
  · intro a ha
    exact ⟨hgood a (mapError_eq_ok.mp ha), rfl⟩

theorem making_secures {r : Except ClassError α} {Q : α → Program → Prop} (h : p.IsCoherent P)
    (hr : ∀ a, r = .ok a → Q a p) : Secures (IsCoherent P) (making r) p Q :=
  .lift h fun a ha => hr a (mapError_eq_ok.mp ha)

variable [Annot.Structural P]

theorem addClass_secures {d : ClassDecl} (h : p.IsCoherent P) (hd : (p.addClass d).IsHierarchy)
    (hannotated : ∀ f ∈ d.annotations, P f.type) :
    Secures (IsCoherent P) (addClass d) p fun a q => a.Known P q.classes.length := by
  refine .get_bind (.set_bind (.pure (h.addClass hd hannotated) ⟨?_, Annot.Structural.cls _⟩))
  change p.classes.length < (p.classes ++ [d]).length
  simp

theorem declare_secures {c : ClassExpr} (h : p.IsCoherent P)
    (hfields : ∀ f ∈ c.fields, ∀ a ∈ f.type.objects, a.Known P 0) :
    Secures (IsCoherent P) (declare m c) p fun a q => a.Known P q.classes.length := by
  -- The three evaluations change what is remembered, and the bases mention the classes that were
  -- there before.
  have hbound := h.bound m
  refine .get_bind (.get_bind ?_)
  refine .bind (evaluate_secures h (classBody_stays p hbound c.fields
    (fun f hf a ha => (hfields f hf a ha).mono (Nat.zero_le _)) [] nofun)) ?_
  rintro own p₁ h₁ ⟨hown, hclasses⟩
  rw [← hclasses] at hbound
  refine .bind (evaluate_secures (A := fun bases => ∀ a ∈ bases, a.Within p₁.classes.length) h₁
    (.ofExcept fun bases hbases => ?_)) ?_
  · intro a ha
    obtain ⟨name, -, hname⟩ := forall₂_mem_right (mapM_eq_ok.mp hbases) ha
    exact (boundTo_throughout hbound hname).1
  rintro bases p₂ h₂ ⟨hbases, hclasses⟩
  refine .bind (evaluate_secures (A := fun _ => True) h₂ (.ofExcept fun _ _ => trivial)) ?_
  rintro typeVars p₃ h₃ ⟨-, hclasses'⟩
  rw [← hclasses, ← hclasses'] at hbases
  -- From here on nothing changes until the class is added.
  refine .get_bind (.bind (making_secures h₃ (Q := fun made q => p₃ = q ∧
    ∃ tail, made.1 = .declared p₃.nextClass :: tail ∧ p₃.IsClosed tail) ?_) ?_)
  · rintro ⟨lineage, parameters⟩ hmade
    obtain ⟨listed, -, hmade⟩ := bind_eq_ok.mp hmade
    obtain ⟨classes, hwithin, hlineage⟩ := Program.ancestry_eq_ok hbases hmade
    exact ⟨rfl, h₃.hierarchy.isClosed_of_lineageFrom hwithin hlineage⟩
  rintro ⟨lineage, parameters⟩ _ - ⟨rfl, tail, rfl, htail⟩
  have hkept : ∀ own' : List FieldDecl, (∀ f' ∈ own', ∃ f ∈ own, f.type = f'.type) →
      ∀ f' ∈ own', P f'.type := by
    intro own' htypes f' hf'
    obtain ⟨f, hf, heq⟩ := htypes f' hf'
    exact heq ▸ (hown f hf).2
  refine .ite_bind (Q := fun made q => p₃ = q ∧ ∀ f ∈ made.1, P f.type)
    (making_secures h₃ fun made hmade => ⟨rfl, hkept _ (enumerationBody_types hmade)⟩)
    (.pure h₃ ⟨rfl, fun f hf => (hown f hf).2⟩) ?_
  rintro ⟨own', members⟩ _ - ⟨rfl, hown'⟩
  refine .ite_bind (Q := fun own q => p₃ = q ∧ ∀ f ∈ own, P f.type)
    (making_secures h₃ fun own'' hmade => ⟨rfl, fun f hf => ?_⟩) (.pure h₃ ⟨rfl, hown'⟩) ?_
  · obtain ⟨f', hf', heq⟩ := recordBody_types hmade f hf
    exact heq ▸ hown' f' hf'
  rintro own'' _ - ⟨rfl, hown''⟩
  refine addClass_secures h₃ (h₃.hierarchy.addClass rfl htail (fun f hf => ?_) ?_) hown''
  · dsimp only at hf
    split at hf
    · exact h₃.hierarchy.annotates_of_mem_collect htail hf
    · cases hf
  · dsimp only
    split
    · exact Program.nodup_collect _ _ _
    · exact List.nodup_nil

theorem declareEmpty_secures {kind : ClassKind} {name : String} {ancestors : List ClassRef}
    {members : Table String Nat} (h : p.IsCoherent P) (hancestors : ∀ b, .declared b ∉ ancestors) :
    Secures (IsCoherent P) (declareEmpty m kind name ancestors members) p
      fun a q => a.Known P q.classes.length :=
  .get_bind (addClass_secures h (h.hierarchy.addClass rfl (fun b hb => absurd hb (hancestors b))
    (fun _ hf => nomatch hf) List.nodup_nil) nofun)

theorem evaluateIn_secures {type : TypeExpr} (h : p.IsCoherent P)
    (htype : ∀ a ∈ type.objects, a.Known P 0) :
    Secures (IsCoherent P) (ExceptT.mk fun p => p.evaluateIn m type : ProgramM Annot) p
      fun a q => a.Known P p.classes.length ∧ q.classes = p.classes := by
  change Secures (IsCoherent P) (evaluate fun p => type.eval p (p.namespaceAt m)) p _
  exact evaluate_secures h (TypeExpr.eval_stays p (h.bound m) type fun a ha =>
    (htype a ha).mono (Nat.zero_le _))

/-- An object that is told apart by a number is an atom. -/
theorem numbered_secures {make : Nat → Program → Annot} (h : p.IsCoherent P)
    (hmake : ∀ serial q, (make serial q).IsAtom) :
    Secures (IsCoherent P)
      (do return make (← evaluate fun _ => EvalM.newSerial) (← get) : ProgramM Annot) p
      fun a q => a.Known P q.classes.length :=
  .bind (evaluate_secures h .newSerial) fun serial q hq _ =>
    .get_bind (.pure hq (Annot.Inherited.atom (hmake serial q)))

/-- A statement keeps a program coherent, and what it makes mentions declared classes only. -/
theorem perform_secures (h : p.IsCoherent P) (s : Statement)
    (hs : ∀ a ∈ s.objects, a.Known P 0) :
    Secures (IsCoherent P) (perform m s) p fun a q => a.Known P q.classes.length := by
  cases s with
  | declare c =>
    exact declare_secures h fun f hf a ha => hs a (List.mem_flatMap.mpr ⟨f, hf, ha⟩)
  | enumeration name members =>
    refine .bind (Q := fun _ q => p = q) (making_secures h fun _ _ => rfl) ?_
    rintro _ _ - rfl
    exact declareEmpty_secures h (by simp [ClassRef.object])
  | protocol name =>
    refine .get_bind (declareEmpty_secures h fun b hb => ?_)
    obtain ⟨id, hid⟩ := Program.exists_of_mem_lineageOf hb
    cases hid
  | function name => exact numbered_secures h fun _ _ => trivial
  | object cls fields => exact numbered_secures h fun _ _ => trivial
  | value v => exact .pure h (Annot.Inherited.atom trivial)
  | synonym type =>
    refine (evaluateIn_secures h hs).imp ?_
    rintro a q - ⟨ha, hq⟩
    rwa [hq]
  | typeVar name => exact numbered_secures h fun _ _ => trivial
  | newType name type =>
    exact .bind (evaluateIn_secures h hs) fun _ _ hq _ => numbered_secures hq fun _ _ => trivial
  | importFrom source name => exact .throw h
  | raise kind message => exact .throw h

end ProgramM

end ElmCodec.Source
