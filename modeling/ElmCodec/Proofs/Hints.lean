import ElmCodec.Proofs.Loading
import ElmCodec.Proofs.Recursion

/-!
# Every field has a hint

The fields of a record and its hints are gathered by two walks over its lineage.  The fields come
from classes declared as records only, and a plain class has those of its first record.  The hints
come from all classes of the lineage.  In a hierarchy the classes that annotate the fields are
among these (`IsHierarchy.annotates`), so the table of hints has a key for each field.
-/

namespace ElmCodec.Source.Program

variable {p : Program} {c : ClassId}

/-! ## The keys of hints -/

theorem addHints_keys (p : Program) (s : Scope) (fields : List FieldDecl)
    (table : Table String Annot) (m : Memory) :
    Secures (fun _ => True) (p.addHints s table fields) m fun hints _ =>
      table.keys ⊆ hints.keys ∧ ∀ f ∈ fields, f.name ∈ hints.keys := by
  induction fields generalizing table m with
  | nil => exact .pure trivial ⟨List.Subset.refl _, fun _ hf => nomatch hf⟩
  | cons f fields ih =>
    refine .bind (Q := fun _ _ => True) ⟨trivial, fun _ _ => trivial⟩ fun hint m' _ _ => ?_
    refine (ih (table.insert f.name hint) m').imp fun hints _ _ ⟨htable, hfields⟩ => ?_
    refine ⟨fun name hname => htable (Table.mem_keys_insert.mpr (Or.inr hname)), fun g hg => ?_⟩
    rcases List.mem_cons.mp hg with rfl | hg
    · exact htable (Table.mem_keys_insert.mpr (Or.inl rfl))
    · exact hfields g hg

theorem gatherHints_keys (p : Program) (lineage : List ClassRef) (table : Table String Annot)
    (m : Memory) :
    Secures (fun _ => True) (p.gatherHints table lineage) m fun hints _ =>
      table.keys ⊆ hints.keys ∧ ∀ name, p.Annotates lineage name → name ∈ hints.keys := by
  induction lineage generalizing table m with
  | nil => exact .pure trivial ⟨List.Subset.refl _, fun _ ⟨_, _, _, hb, _⟩ => nomatch hb⟩
  | cons r lineage ih =>
    have hskip : (∀ b, r ≠ .declared b) → ∀ name, p.Annotates (r :: lineage) name →
        p.Annotates lineage name := by
      rintro hr name ⟨b, d, f, hb, hd⟩
      exact ⟨b, d, f, (List.mem_cons.mp hb).resolve_left fun h => hr b h.symm, hd⟩
    cases r with
    | declared id =>
      refine .bind (addHints_keys p _ _ table m) fun table' m' _ ⟨htable, hfields⟩ => ?_
      refine (ih table' m').imp fun hints _ _ ⟨hmore, hnames⟩ =>
        ⟨List.Subset.trans htable hmore, ?_⟩
      rintro name ⟨b, d, f, hb, hd, hf, rfl⟩
      rcases List.mem_cons.mp hb with hb | hb
      · cases hb
        rw [hd] at hfields
        exact hmore (hfields f hf)
      · exact hnames f.name ⟨b, d, f, hb, hd, hf, rfl⟩
    | builtin _ | library _ =>
      exact (ih table m).imp fun hints _ _ ⟨hmore, hnames⟩ =>
        ⟨hmore, fun name hname => hnames name (hskip (by simp) name hname)⟩

theorem clearHints_keys (p : Program) (table : Table String Annot) (m : Memory) :
    Secures (fun _ => True) (p.clearHints table) m fun hints _ => hints.keys = table.keys := by
  induction table generalizing m with
  | nil => exact .pure trivial rfl
  | cons entry table ih =>
    refine .bind (Q := fun _ _ => True) ⟨trivial, fun _ _ => trivial⟩ fun hint m' _ _ => ?_
    refine .bind (ih m') fun hints m'' _ hkeys => .pure trivial ?_
    exact congrArg (entry.1 :: ·) hkeys

/-- The hints of a class have a key for each name that a class of its lineage annotates. -/
theorem mem_keys_hints {hints : Table String Annot} (h : p.hints c = .ok hints) {name : String}
    (hname : p.Annotates (p.lineage c) name) : name ∈ hints.keys := by
  have hrun := (gatherHints_keys p (p.lineage c).reverse [] (p.surroundingsOf c).memory).bind
    fun table m _ htable => (clearHints_keys p table m).imp fun hints _ _ hkeys =>
      (show ∀ name, p.Annotates (p.lineage c).reverse name → name ∈ hints.keys from
        fun name hname => hkeys ▸ htable.2 name hname)
  obtain ⟨b, d, f, hb, hd⟩ := hname
  exact hrun.2 hints h name ⟨b, d, f, List.mem_reverse.mpr hb, hd⟩

/-! ## Fields of records -/

/-- The hints of a record class have a key for each of its fields. -/
theorem IsHierarchy.mem_keys_hints (h : p.IsHierarchy) {fields : List FieldDecl}
    {hints : Table String Annot} (hfields : p.fields? c = some fields)
    (hhints : p.hints c = .ok hints) {f : FieldDecl} (hf : f ∈ fields) : f.name ∈ hints.keys := by
  obtain ⟨d, hrecord, rfl⟩ := Option.map_eq_some_iff.mp hfields
  exact Program.mem_keys_hints hhints (h.annotates hrecord (List.mem_filter.mp hf).1)

theorem IsHierarchy.exportedFields_ne_noHint (h : p.IsHierarchy) (c : ClassId) (name : String) :
    p.exportedFields c ≠ .error (.fault (.noHint name)) := by
  intro herror
  cases hhints : p.hints c with
  | error why =>
    rw [exportedFields_of_error hhints] at herror
    cases why <;> cases herror
  | ok hints =>
    rw [exportedFields_of_hints hhints] at herror
    cases hfields : p.fields? c with
    | none => rw [hfields] at herror; cases herror
    | some fields =>
      rw [hfields] at herror
      obtain ⟨f, hf, hexport⟩ := exists_of_mapM_eq_error herror
      have hkey := h.mem_keys_hints hfields hhints (List.mem_filter.mp hf).1
      obtain ⟨hint, hhint⟩ := Option.isSome_iff_exists.mp (Table.isSome_find?_iff.mpr hkey)
      rw [exportField, hhint] at hexport
      cases hexport

theorem IsHierarchy.isFailure_ne_noHint (h : p.IsHierarchy) {e : Failure} (he : p.IsFailure e)
    (name : String) : e ≠ .fault (.noHint name) := by
  rintro rfl
  rcases he with ⟨problem, he⟩ | ⟨c, he⟩
  · cases he
  · exact h.exportedFields_ne_noHint c name he

theorem recordHints_ne_noHint (p : Program) (a : Annot) (name : String) :
    p.recordHints a ≠ .error (.fault (.noHint name)) := by
  unfold recordHints
  cases p.hintsOf a with
  | ok hints => exact nofun
  | error why =>
    change Except.error (Failure.ofHints _ _ why) ≠ _
    unfold Failure.ofHints
    split
    all_goals exact nofun

/-- No conversion of fields misses a hint. -/
theorem IsHierarchy.convertFieldsOf_ne_noHint (h : p.IsHierarchy) (style : Style) (a : Annot)
    (s : Session) (name : String) :
    ((p.convertFieldsOf style a).run s).1 ≠ .error (.fault (.noHint name)) := by
  unfold convertFieldsOf
  split
  next id =>
    have halike := buildFields_alike (s := s) (convertClass_alike (chain_convertClass p style)
      p.classes.length (Nat.le_refl _) (Nat.le_refl _)) (p.unregistered_length_le _) id
    exact fun herror => h.isFailure_ne_noHint (halike.error _ _ (Prod.ext herror rfl)) name rfl
  next =>
    intro herror
    cases hhints : p.recordHints a with
    | error e =>
      rw [hhints] at herror
      cases (herror : (.error e : Except Failure (List Elm.Field)) = _)
      exact p.recordHints_ne_noHint a name hhints
    | ok hints =>
      rw [hhints] at herror
      change Except.error (Failure.fault (if _ then _ else _)) = _ at herror
      split at herror
      · cases herror
      · cases herror

/-- In a program that loads made, also failed ones, every field of a record class is a key of its
hints, if these resolve.  This holds for classes declared as records and for plain classes with
such an ancestor.  So no conversion of fields or annotations misses a hint. -/
theorem hints_cover_fields (h : p.IsLoaded) :
    (∀ c hints, p.isRecordClass c = true → p.hints c = .ok hints →
      ∃ fields, p.fields? c = some fields ∧ fields.map FieldDecl.name ⊆ hints.keys) ∧
    ∀ style a s name,
      ((p.convertFieldsOf style a).run s).1 ≠ .error (.fault (.noHint name)) ∧
      ((p.convert style a).run s).1 ≠ .error (.fault (.noHint name)) := by
  have hhierarchy := h.isCoherent.hierarchy
  refine ⟨fun c hints hc hhints => ?_, fun style a s name =>
    ⟨hhierarchy.convertFieldsOf_ne_noHint style a s name, fun herror => ?_⟩⟩
  · obtain ⟨d, hd⟩ := Option.isSome_iff_exists.mp hc
    have hfields : p.fields? c = some (d.collected.filter fun f => f.role == .field) := by
      rw [fields?, hd]
      rfl
    refine ⟨_, hfields, fun name hname => ?_⟩
    obtain ⟨f, hf, rfl⟩ := List.mem_map.mp hname
    exact hhierarchy.mem_keys_hints hfields hhints hf
  · have halike := convert_alike (s := s) (chain_convertClass p style) a (Nat.le_refl _)
    exact hhierarchy.isFailure_ne_noHint (halike.error _ _ (Prod.ext herror rfl)) name rfl

/-- A hierarchy with a diamond.  An asset has a class variable and an argument of the
initialisation, both sides of the diamond declare one of its names again, one of them is no
record and is generic, and a plain class stands at the bottom. -/
def gallery : List Definition :=
  [⟨"T", .typeVar "T"⟩,
    ⟨"Asset", .declare
      { isRecord := true, name := "Asset"
        fields := [⟨"key", .object (.cls (.builtin .int)), none⟩,
          ⟨"kind", .classVar (.object (.cls (.builtin .str))), none⟩,
          ⟨"seed", .initVar (.object (.cls (.builtin .int))), none⟩] }⟩,
    ⟨"Image", .declare
      { isRecord := true, name := "Image", bases := ["Asset"]
        fields := [⟨"kind", .object (.cls (.builtin .str)), none⟩,
          ⟨"thumbnail", .text "Image", none⟩] }⟩,
    ⟨"Tagged", .declare
      { isRecord := false, name := "Tagged", bases := ["Asset"], typeVars := ["T"]
        fields := [⟨"key", .object (.cls (.builtin .str)), none⟩,
          ⟨"tag", .name "T", none⟩] }⟩,
    ⟨"Poster", .declare
      { isRecord := true, name := "Poster", bases := ["Image", "Tagged"]
        fields := [⟨"width", .object (.cls (.builtin .int)), none⟩] }⟩,
    ⟨"Print", .declare
      { isRecord := false, name := "Print", bases := ["Poster"]
        fields := [⟨"copies", .object (.cls (.builtin .int)), none⟩] }⟩]

/-- A module that fails after its first class, and then the gallery as a source file. -/
def galleryLoads : List Load :=
  [.definitions "draft"
      [⟨"Draft", .declare { isRecord := true, name := "Draft" }⟩, ⟨"", .raise "ValueError" "late"⟩],
    .source ⟨["work"], [(["work", "gallery.py"], .file gallery)]⟩ "gallery.py"]

theorem galleryLoads_byName : ∀ load ∈ galleryLoads, load.ByName := by
  have hgallery : ∀ d ∈ gallery, d.statement.ByName := by
    simp [gallery, Statement.ByName, TypeExpr.ByName, Annot.Within, ClassRef.Within]
  refine List.forall_mem_cons.mpr ⟨?_, List.forall_mem_singleton.mpr ?_⟩
  · simp [Load.ByName, Statement.ByName]
  · intro place content hmem
    cases List.mem_singleton.mp hmem
    exact hgallery

/-- A print is a plain class, at the sixth place after that of the failed module.  It has the
fields of a poster, and among its hints there are some for names that are no fields. -/
theorem gallery_hints_cover_fields :
    ∃ p, (Workspace.after [] galleryLoads).program = p ∧
      (p.classAt? 5).map ClassDecl.kind = some .plain ∧
      (p.fields? 5).map (List.map FieldDecl.name) = some ["key", "kind", "thumbnail", "width"] ∧
      (p.hints 5).toOption.map Table.keys =
        some ["key", "kind", "seed", "tag", "thumbnail", "width", "copies"] ∧
      ∃ fields hints, p.fields? 5 = some fields ∧ p.hints 5 = .ok hints ∧
        fields.map FieldDecl.name ⊆ hints.keys := by
  have hkeys : ((Workspace.after [] galleryLoads).program.hints 5).toOption.map Table.keys =
      some ["key", "kind", "seed", "tag", "thumbnail", "width", "copies"] := by
    decide +kernel
  refine ⟨_, rfl, by decide +kernel, by decide +kernel, hkeys, ?_⟩
  cases hhints : (Workspace.after [] galleryLoads).program.hints 5 with
  | error why => rw [hhints] at hkeys; cases hkeys
  | ok hints =>
    obtain ⟨fields, hfields, hsub⟩ :=
      (hints_cover_fields ⟨[], galleryLoads, galleryLoads_byName, rfl⟩).1 5 hints
        (by decide +kernel) hhints
    exact ⟨fields, hints, hfields, rfl, hsub⟩

end ElmCodec.Source.Program
