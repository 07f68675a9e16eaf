import ElmCodec.Load.Workspace
import ElmCodec.Proofs.Results
import ElmCodec.Proofs.Spelling
import Mathlib.Logic.Relation

/-!
# The class graph

The record classes of a program form a graph.  A class refers to the classes that
the hints of its exported fields mention.  The graph may have cycles, and a class may
refer to itself.

A class is *convertible* if its hints resolve, it has an exported field, and each of
its exported fields has a supported hint.  These three conditions are local.  They
are said by the declarations and hints of the class, and
`exportedFields` computes what they speak of (`exportedFields_eq_ok`).
-/

namespace ElmCodec.Source.Program

/-! ## Exported fields by declarations and hints -/

/-- A class has a field that is exported. -/
def Exports (p : Program) (c : ClassId) (f : FieldDecl) : Prop :=
  ∃ decls, p.fields? c = some decls ∧ f ∈ decls ∧ isExported f.name = true

/-- A class has a hint for a name. -/
def HintOf (p : Program) (c : ClassId) (name : String) (hint : Annot) : Prop :=
  ∃ hints, p.hints c = .ok hints ∧ hints.find? name = some hint

/-- A class refers to a class that the hint of an exported field mentions. -/
def RefersTo (p : Program) (c d : ClassId) : Prop :=
  ∃ f hint, p.Exports c f ∧ p.HintOf c f.name hint ∧ Mentions p hint d

/-- A class is reached from another one by any number of references. -/
def Reaches (p : Program) : ClassId → ClassId → Prop := Relation.ReflTransGen p.RefersTo

/-- A class that can be converted once the classes it refers to can. -/
structure Convertible (p : Program) (c : ClassId) : Prop where
  /-- All its hints resolve, also those of private fields and of ancestors. -/
  hintsResolve : ∃ hints, p.hints c = .ok hints
  /-- It has an exported field. -/
  hasField : ∃ f, p.Exports c f
  /-- Its exported fields have hints with a counterpart in Elm. -/
  fieldsSupported : ∀ f, p.Exports c f → ∃ hint, p.HintOf c f.name hint ∧ Supported p hint

/-- An exported field is the one of a declaration, with its hint. -/
structure ExportOf (hints : Table String Annot) (f : FieldDecl) (e : ExportedField) : Prop where
  name : e.name = f.name
  wire : e.wire = Wire.of f.name f.tag
  hint : hints.find? f.name = some e.hint

/-! ## What is exported -/

theorem exportField_eq_ok {hints : Table String Annot} {f : FieldDecl} {e : ExportedField} :
    exportField hints f = .ok e ↔ ExportOf hints f e := by
  unfold exportField
  cases h : hints.find? f.name with
  | none =>
    constructor
    · intro he; cases he
    · intro he; cases h.symm.trans he.hint
  | some hint =>
    constructor
    · intro he
      cases he
      exact ⟨rfl, rfl, h⟩
    · rintro ⟨hname, hwire, hhint⟩
      cases Option.some.inj (h.symm.trans hhint)
      cases e
      cases hname
      cases hwire
      rfl

variable {p : Program} {c d : ClassId}

theorem exportedFields_of_hints {hints : Table String Annot} (h : p.hints c = .ok hints) :
    p.exportedFields c =
      match p.fields? c with
      | none => .error (.fault .notARecordClass)
      | some decls => (decls.filter fun f => isExported f.name).mapM (exportField hints) := by
  have hrecord : p.recordHints (.cls (.declared c)) = .ok hints := by
    rw [recordHints, hintsOf, h]; rfl
  rw [exportedFields, hrecord]
  rfl

theorem exportedFields_of_error {why : EvalError} (h : p.hints c = .error why) :
    p.exportedFields c = .error (Failure.ofHints (some (p.className (.declared c)))
      (p.kindOf (.cls (.declared c))) why) := by
  have hrecord : p.recordHints (.cls (.declared c)) =
      .error (Failure.ofHints (some (p.className (.declared c)))
        (p.kindOf (.cls (.declared c))) why) := by
    rw [recordHints, hintsOf, h]; rfl
  rw [exportedFields, hrecord]
  rfl

/-- The exported fields of a class are those of its exported declarations, in order. -/
theorem exportedFields_eq_ok {es : List ExportedField} :
    p.exportedFields c = .ok es ↔
      ∃ hints decls, p.hints c = .ok hints ∧ p.fields? c = some decls ∧
        List.Forall₂ (ExportOf hints) (decls.filter fun f => isExported f.name) es := by
  constructor
  · intro h
    cases hhints : p.hints c with
    | error why => rw [exportedFields_of_error hhints] at h; cases h
    | ok hints =>
      rw [exportedFields_of_hints hhints] at h
      cases hdecls : p.fields? c with
      | none => rw [hdecls] at h; cases h
      | some decls =>
        rw [hdecls] at h
        exact ⟨hints, decls, rfl, rfl, (mapM_eq_ok.mp h).imp fun _ _ => exportField_eq_ok.mp⟩
  · rintro ⟨hints, decls, hhints, hdecls, h⟩
    rw [exportedFields_of_hints hhints, hdecls]
    exact mapM_eq_ok.mpr (h.imp fun _ _ => exportField_eq_ok.mpr)

theorem exports_iff {decls : List FieldDecl} (h : p.fields? c = some decls) {f : FieldDecl} :
    p.Exports c f ↔ f ∈ decls.filter fun f => isExported f.name := by
  rw [List.mem_filter]
  constructor
  · rintro ⟨decls', h', hf⟩
    cases Option.some.inj (h.symm.trans h')
    exact hf
  · intro hf
    exact ⟨decls, h, hf⟩

theorem hintOf_iff {hints : Table String Annot} (h : p.hints c = .ok hints) {name : String}
    {hint : Annot} : p.HintOf c name hint ↔ hints.find? name = some hint := by
  constructor
  · rintro ⟨hints', h', hfind⟩
    cases Except.ok.inj (h.symm.trans h')
    exact hfind
  · intro hfind
    exact ⟨hints, h, hfind⟩

/-- A class refers to the classes that stand innermost in the hints it exports. -/
theorem refersTo_iff {es : List ExportedField} (h : p.exportedFields c = .ok es) :
    p.RefersTo c d ↔ ∃ e ∈ es, (p.shape e.hint).class? = some d := by
  obtain ⟨hints, decls, hhints, hdecls, hes⟩ := exportedFields_eq_ok.mp h
  constructor
  · rintro ⟨f, hint, hf, hhint, hd⟩
    obtain ⟨e, he, hfe⟩ := forall₂_mem_left hes ((exports_iff hdecls).mp hf)
    have : hint = e.hint :=
      Option.some.inj (((hintOf_iff hhints).mp hhint).symm.trans hfe.hint)
    exact ⟨e, he, mentions_iff.mp (this ▸ hd)⟩
  · rintro ⟨e, he, hd⟩
    obtain ⟨f, hf, hfe⟩ := forall₂_mem_right hes he
    exact ⟨f, e.hint, (exports_iff hdecls).mpr hf, (hintOf_iff hhints).mpr hfe.hint,
      mentions_iff.mpr hd⟩

/-- A class is convertible if it exports at least one field and supported hints only. -/
theorem convertible_iff :
    p.Convertible c ↔ ∃ es, p.exportedFields c = .ok es ∧ es ≠ [] ∧
      ∀ e ∈ es, (p.shape e.hint).IsSupported := by
  constructor
  · rintro ⟨⟨hints, hhints⟩, ⟨f, hf⟩, hsupported⟩
    obtain ⟨decls, hdecls, -⟩ := id hf
    obtain ⟨es, hes⟩ : ∃ es, List.Forall₂ (ExportOf hints)
        (decls.filter fun f => isExported f.name) es := by
      refine exists_forall₂ fun g hg => ?_
      obtain ⟨hint, hhint, -⟩ := hsupported g ((exports_iff hdecls).mpr hg)
      exact ⟨⟨g.name, Wire.of g.name g.tag, hint⟩, rfl, rfl, (hintOf_iff hhints).mp hhint⟩
    refine ⟨es, exportedFields_eq_ok.mpr ⟨hints, decls, hhints, hdecls, hes⟩, ?_, ?_⟩
    · obtain ⟨e, he, -⟩ := forall₂_mem_left hes ((exports_iff hdecls).mp hf)
      exact List.ne_nil_of_mem he
    · intro e he
      obtain ⟨g, hg, hge⟩ := forall₂_mem_right hes he
      obtain ⟨hint, hhint, hs⟩ := hsupported g ((exports_iff hdecls).mpr hg)
      have : hint = e.hint :=
        Option.some.inj (((hintOf_iff hhints).mp hhint).symm.trans hge.hint)
      exact supported_iff.mp (this ▸ hs)
  · rintro ⟨es, h, hne, hsupported⟩
    obtain ⟨hints, decls, hhints, hdecls, hes⟩ := exportedFields_eq_ok.mp h
    refine ⟨⟨hints, hhints⟩, ?_, ?_⟩
    · obtain ⟨e, he⟩ := List.exists_mem_of_ne_nil es hne
      obtain ⟨f, hf, -⟩ := forall₂_mem_right hes he
      exact ⟨f, (exports_iff hdecls).mpr hf⟩
    · intro f hf
      obtain ⟨e, he, hfe⟩ := forall₂_mem_left hes ((exports_iff hdecls).mp hf)
      exact ⟨e.hint, (hintOf_iff hhints).mpr hfe.hint, supported_iff.mpr (hsupported e he)⟩

/-! ## Reached classes -/

theorem RefersTo.isRecordClass (h : p.RefersTo c d) : p.isRecordClass d = true := by
  obtain ⟨_, _, _, _, hd⟩ := h
  exact hd.isRecordClass

theorem Reaches.isRecordClass (hc : p.isRecordClass c = true) (h : p.Reaches c d) :
    p.isRecordClass d = true := by
  cases h with
  | refl => exact hc
  | tail _ h => exact h.isRecordClass

/-- A record class was declared. -/
theorem lt_of_isRecordClass (h : p.isRecordClass c = true) : c < p.classes.length := by
  rw [isRecordClass, Option.isSome_iff_exists] at h
  obtain ⟨d, hd⟩ := h
  cases hc : p.classes[c]? with
  | none => simp [firstRecord?, declaredLineage, lineage, classAt?, hc] at hd
  | some _ => exact (List.getElem?_eq_some_iff.mp hc).1

/-! ## Programs of one module -/

/-- The program after a module was run.  What such a program does is computed by the kernel
alone. -/
@[irreducible]
def ofModule (name : String) (content : List Definition) : Program :=
  ((runModule name content).run {}).2.program

end ElmCodec.Source.Program

namespace ElmCodec.Source

/-- The expression for a builtin class. -/
def TypeExpr.ofBuiltin (c : Builtin) : TypeExpr := .object (.cls (.builtin c))

/-- The expression for lists of a type. -/
def TypeExpr.listOf (type : TypeExpr) : TypeExpr := .subscript (.ofBuiltin .list) [type]

/-- The expression for a type or the empty value. -/
def TypeExpr.orNone (type : TypeExpr) : TypeExpr := .either [type, .object (.value .nothing)]

/-- The definition of a record, by its fields and the names of its bases. -/
def Definition.record (name : String) (fields : List (String × TypeExpr))
    (bases : List String := []) : Definition :=
  ⟨name, .declare
    { isRecord := true, name := name, bases := bases
      fields := fields.map fun field => ⟨field.1, field.2, none⟩ }⟩

end ElmCodec.Source
