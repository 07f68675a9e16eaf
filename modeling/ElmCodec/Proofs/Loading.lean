import ElmCodec.Load.Source
import ElmCodec.Proofs.Hierarchy

/-!
# Loading keeps programs coherent

New modules bind atoms only, and all else that a load binds is made by statements or taken from
another module.  So every step of loading keeps the program coherent, whether it fails or
not, and by induction on the depth of imports so does every import (`importModule_keeps`).

A program is loaded by any number of loads from nothing, and some of them may fail
(`IsLoaded.isCoherent`).
-/

namespace ElmCodec

open Source (Annot Program Definition Module ModuleId Namespace Statement Raised)
open Source.Annot (Inherited Structural IsAtom Known Throughout)

variable {P : Annot → Prop}

/-- The program of a workspace is coherent. -/
def Workspace.IsCoherent (P : Annot → Prop) (w : Workspace) : Prop := w.program.IsCoherent P

/-! ## Steps that keep a program coherent -/

/-- A step leaves a coherent program if it starts with one. -/
def LoadM.Keeps {α : Type} (P : Annot → Prop) (x : LoadM α) : Prop :=
  ∀ w : Workspace, w.IsCoherent P → Secures (Workspace.IsCoherent P) x w fun _ _ => True

theorem LoadM.program_bind {β : Type} {inv : Workspace → Prop} {f : Program → LoadM β}
    {R : β → Workspace → Prop} {w : Workspace} (h : Secures inv (f w.program) w R) :
    Secures inv (LoadM.program >>= f) w R :=
  h

namespace LoadM.Keeps

variable {α β : Type} {x : LoadM α} {f : α → LoadM β}

theorem pure (a : α) : Keeps P (Pure.pure a : LoadM α) := fun _ hw => .pure hw trivial

theorem throw (e : Raised) : Keeps P (MonadExcept.throw e : LoadM α) := fun _ hw => .throw hw

theorem bind (hx : Keeps P x) (hf : ∀ a, Keeps P (f a)) : Keeps P (x >>= f) :=
  fun w hw => (hx w hw).bind fun a w' hw' _ => hf a w' hw'

theorem guard {c : Prop} [Decidable c] {e : Raised} (hx : Keeps P x) :
    Keeps P (if c then (MonadExcept.throw e : LoadM PUnit) >>= fun _ => x else x) :=
  fun w hw => .guard hw (hx w hw)

theorem get : Keeps P (MonadState.get : LoadM Workspace) := fun _ hw => ⟨hw, fun _ _ => trivial⟩

theorem update {change : Program → Program}
    (h : ∀ p : Program, p.IsCoherent P → (change p).IsCoherent P) :
    Keeps P (LoadM.update change) :=
  fun w hw => .modify (h w.program hw) trivial

theorem program : Keeps P LoadM.program := get.bind fun _ => .pure _

theorem loaded? (name : String) : Keeps P (LoadM.loaded? name) := program.bind fun _ => .pure _

theorem add [Inherited P] {m : Module} (hm : Throughout IsAtom m.bindings) :
    Keeps P (LoadM.add m) := by
  intro w hw
  have hbindings : Throughout (Known P w.program.classes.length) m.bindings :=
    hm.imp fun _ ha => Inherited.atom ha
  exact LoadM.program_bind (.modify_bind (.pure (hw.addModule hbindings) trivial))

end LoadM.Keeps

/-! ## Carrying out definitions -/

theorem LoadM.ofProgram_secures {α : Type} {step : Source.ProgramM α} {w : Workspace}
    {Q : α → Program → Prop} (h : Secures (Program.IsCoherent P) step w.program Q) :
    Secures (Workspace.IsCoherent P) (LoadM.ofProgram step) w fun a w' => Q a w'.program :=
  h

theorem inherits_moduleAttribute? {Q : Annot → Prop} [Inherited Q] {p : Program}
    (h : ∀ m, Throughout Q (p.namespaceAt m)) {m : ModuleId} {name : String} {a : Annot}
    (ha : p.moduleAttribute? m name = some a) : Q a := by
  unfold Program.moduleAttribute? at ha
  cases hfind : (p.namespaceAt m).find? name with
  | some b =>
    rw [hfind] at ha
    cases ha
    exact (h m).find? hfind
  | none =>
    rw [hfind, Option.none_or] at ha
    split at ha
    · cases ha
      exact Inherited.builtin .module
    · split at ha
      · cases ha
        exact Inherited.atom trivial
      · cases ha

variable [Structural P] {importModule : Importer} {m : ModuleId}

theorem execute_secures (himport : ∀ name, (importModule name).Keeps P) {w : Workspace}
    (hw : w.IsCoherent P) (s : Statement) (hs : ∀ a ∈ s.objects, a.Known P 0) :
    Secures (Workspace.IsCoherent P) (s.execute importModule m) w
      fun a w' => a.Known P w'.program.classes.length := by
  cases s
  case importFrom source name =>
    refine .bind (himport source w hw) fun found w' hw' _ => LoadM.program_bind ?_
    split
    next a ha => exact .pure hw' (inherits_moduleAttribute? hw'.bound ha)
    next => exact .throw hw'
  all_goals exact LoadM.ofProgram_secures (Source.ProgramM.perform_secures (m := m) hw _ hs)

theorem executeAll_keeps (himport : ∀ name, (importModule name).Keeps P)
    (content : List Definition) (hcontent : ∀ d ∈ content, ∀ a ∈ d.statement.objects, a.Known P 0) :
    (executeAll importModule m content).Keeps P := by
  induction content with
  | nil => exact .pure _
  | cons d content ih =>
    intro w hw
    have hrest := ih fun d hd => hcontent d (List.mem_cons_of_mem _ hd)
    refine .bind (execute_secures himport hw d.statement (hcontent d List.mem_cons_self)) ?_
    intro a w' hw' ha
    exact .modify_bind (hrest _ (hw'.bind ha))

theorem enterModule_keeps (himport : ∀ name, (importModule name).Keeps P) {stays : Raised → Bool}
    {module : Module} (hmodule : Throughout IsAtom module.bindings) {content : List Definition}
    (hcontent : ∀ d ∈ content, ∀ a ∈ d.statement.objects, a.Known P 0) :
    (enterModule importModule stays module content).Keeps P := by
  refine .bind (.add hmodule) fun id => .bind (fun w hw => ?_) fun _ => .pure id
  refine .tryCatch (executeAll_keeps himport content hcontent w hw) fun e w' hw' => ?_
  refine LoadM.Keeps.bind (.update fun p hp => ?_) (fun _ => .throw e) w' hw'
  split
  · exact hp
  · exact hp.unload

/-! ## New modules -/

theorem newBindings_isAtom {name : String} {package : Option String} {more : Namespace}
    (hmore : Throughout IsAtom more) : Throughout IsAtom (newBindings name package more) := by
  intro entry hentry
  rcases List.mem_append.mp hentry with hentry | hentry
  · simp only [List.mem_cons, List.not_mem_nil, or_false] at hentry
    rcases hentry with rfl | rfl | rfl
    · trivial
    · trivial
    · cases package <;> trivial
  · exact hmore entry hentry

theorem fileModule_isAtom (name : String) (place : Place) (dir : Option Place) :
    Throughout IsAtom (fileModule name place dir).bindings := by
  refine newBindings_isAtom fun entry hentry => ?_
  rcases List.mem_append.mp hentry with hentry | hentry
  · cases dir with
    | none => cases hentry
    | some dir =>
      rw [List.mem_singleton.mp hentry]
      trivial
  · simp only [List.mem_cons, List.not_mem_nil, or_false] at hentry
    rcases hentry with rfl | rfl
    · trivial
    · trivial

theorem directoryModule_isAtom (name : String) (dirs within : List Place) :
    Throughout IsAtom (directoryModule name dirs within).bindings := by
  refine newBindings_isAtom fun entry hentry => ?_
  simp only [List.mem_cons, List.not_mem_nil, or_false] at hentry
  rcases hentry with rfl | rfl
  · trivial
  · trivial

/-! ## Imports -/

/-- The files of a tree take declared classes from bindings only. -/
def FileTree.ByName (t : FileTree) : Prop :=
  ∀ place content, (place, Entry.file content) ∈ t.entries → ∀ d ∈ content, d.statement.ByName

/-- The objects that are fixed in the files of a tree. -/
def FileTree.objects (t : FileTree) : List Annot :=
  t.entries.flatMap fun entry =>
    match entry.2 with
    | .file content => content.flatMap fun d => d.statement.objects
    | .directory => []

variable {t : FileTree}

theorem FileTree.mem_objects {place : Place} {content : List Definition}
    (hfile : (place, Entry.file content) ∈ t.entries) {d : Definition} (hd : d ∈ content)
    {a : Annot} (ha : a ∈ d.statement.objects) : a ∈ t.objects :=
  List.mem_flatMap.mpr ⟨_, hfile, List.mem_flatMap.mpr ⟨d, hd, ha⟩⟩

theorem FileTree.within_of_byName (ht : t.ByName) : ∀ a ∈ t.objects, a.Within 0 := by
  rintro a ha
  obtain ⟨⟨place, content | _⟩, hentry, ha⟩ := List.mem_flatMap.mp ha
  · obtain ⟨d, hd, ha⟩ := List.mem_flatMap.mp ha
    exact d.statement.within_of_byName (ht place content hentry d hd) a ha
  · cases ha

theorem FileTree.forall_content? {Q : Annot → Prop} (ht : ∀ a ∈ t.objects, Q a) {place : Place}
    {content : List Definition} (h : t.content? place = some content) :
    ∀ d ∈ content, ∀ a ∈ d.statement.objects, Q a := by
  unfold FileTree.content? at h
  split at h
  next hlookup =>
    cases h
    exact fun d hd a ha => ht a (mem_objects (Table.mem_of_find? hlookup) hd ha)
  next => cases h

/-- Naming the directories of a package binds no class. -/
theorem gather_keeps (id : ModuleId) (g : Source.Gathered) :
    (LoadM.update (·.modifyModule id fun m => { m with
      gathered := some g
      bindings := m.bindings.insert "__path__" (directoryList g.dirs) })).Keeps P := by
  refine .update fun p hp => hp.modifyModule fun module hmodule entry hentry => ?_
  rcases Table.mem_insert hentry with hentry | rfl
  · exact hmodule entry hentry
  · exact Inherited.atom trivial

theorem partDirectories?_keeps (depth : Nat) (name : String) :
    (partDirectories? t depth name).Keeps P := by
  induction depth generalizing name with
  | zero => exact .pure _
  | succ depth ih =>
    unfold partDirectories?
    refine .bind (.loaded? name) fun found => ?_
    split
    next => exact .pure _
    next id =>
      refine .bind .program fun p => ?_
      dsimp only
      split
      next => exact .pure _
      next g =>
        split
        · exact .bind .get fun w => .bind (.pure _) fun _ => .bind (gather_keeps id _) fun _ =>
            .pure _
        · exact .bind (ih _) fun _ => .bind (gather_keeps id _) fun _ => .pure _

theorem searchDirectories_keeps (s : DottedStep) : (searchDirectories t s).Keeps P := by
  unfold searchDirectories
  split
  · exact .bind .get fun _ => .pure _
  · refine .bind (partDirectories?_keeps _ _) fun found => ?_
    split
    · exact .pure _
    · exact .throw _

theorem enterFound_keeps (ht : ∀ a ∈ t.objects, a.Known P 0)
    (himport : ∀ name, (importModule name).Keeps P) (name : String) (within : List Place)
    (found : Found) : (enterFound t importModule name within found).Keeps P := by
  have hcontent : ∀ place, ∀ d ∈ (t.content? place).getD [], ∀ a ∈ d.statement.objects,
      a.Known P 0 := by
    intro place
    cases h : t.content? place with
    | none => exact fun _ hd => nomatch hd
    | some content => exact FileTree.forall_content? ht h
  cases found with
  | package dir => exact enterModule_keeps himport (fileModule_isAtom _ _ _) (hcontent _)
  | file place => exact enterModule_keeps himport (fileModule_isAtom _ _ _) (hcontent _)
  | directories dirs => exact .add (directoryModule_isAtom _ _ _)

theorem bindInParent_keeps (s : DottedStep) (id : ModuleId) : (bindInParent s id).Keeps P := by
  unfold bindInParent
  split
  · exact .pure _
  · refine .bind (.loaded? _) fun owner => ?_
    split
    · exact .update fun p hp => hp.bind (Inherited.atom trivial)
    · exact .pure _

theorem importStep_keeps (ht : ∀ a ∈ t.objects, a.Known P 0)
    (himport : ∀ name, (importModule name).Keeps P) (s : DottedStep) :
    (importStep t importModule s).Keeps P := by
  unfold importStep
  refine .bind (.loaded? _) fun id => ?_
  split
  · exact .pure _
  · refine .bind (searchDirectories_keeps s) fun dirs => ?_
    split
    · exact .throw _
    · exact .bind (enterFound_keeps ht himport _ _ _) fun id =>
        .bind (bindInParent_keeps s id) fun _ => .pure _

theorem importSteps_keeps (ht : ∀ a ∈ t.objects, a.Known P 0)
    (himport : ∀ name, (importModule name).Keeps P) (steps : List DottedStep) (last : ModuleId) :
    (importSteps t importModule last steps).Keeps P := by
  induction steps generalizing last with
  | nil => exact .pure _
  | cons s steps ih => exact .bind (importStep_keeps ht himport s) ih

theorem importWithin_keeps (ht : ∀ a ∈ t.objects, a.Known P 0) (depth : Nat) (name : String) :
    (importWithin t depth name).Keeps P := by
  induction depth generalizing name with
  | zero =>
    unfold importWithin
    refine .guard (.guard (.bind (.loaded? name) fun id => ?_))
    split
    · exact .pure _
    · exact .throw _
  | succ depth ih =>
    unfold importWithin
    refine .guard (.guard (.bind (.loaded? name) fun id => ?_))
    split
    · exact .pure _
    · exact .bind .program fun p => importSteps_keeps ht ih _ _

theorem importModule_keeps (ht : ∀ a ∈ t.objects, a.Known P 0) (name : String) :
    (ElmCodec.importModule t name).Keeps P :=
  importWithin_keeps ht _ name

theorem runModule_keeps (name : String) {content : List Definition}
    (hcontent : ∀ d ∈ content, ∀ a ∈ d.statement.objects, a.Known P 0) :
    (runModule name content).Keeps P := by
  refine enterModule_keeps (importModule_keeps fun _ ha => (List.not_mem_nil ha).elim)
    (newBindings_isAtom fun entry hentry => ?_) hcontent
  simp only [List.mem_cons, List.not_mem_nil, or_false] at hentry
  rcases hentry with rfl | rfl
  · trivial
  · trivial

/-! ## Loads -/

theorem SourceM.ofLoad_run {α : Type} (step : LoadM α) (problem : Raised → Problem)
    (w : Workspace) :
    (SourceM.ofLoad step problem).run w =
      match step.run w with
      | (.ok a, w') => (.ok a, w')
      | (.error e, w') =>
        (.error (if e.endsRun then .fault (.raised e) else .ofProblem (problem e)), w') := by
  change (step.run >>= _ : StateM Workspace _) w = _
  rcases hrun : step.run w with ⟨e | a, w'⟩
  · simp only [bind, StateT.bind, hrun]
    rfl
  · simp only [bind, StateT.bind, hrun]
    rfl

theorem SourceM.ofLoad_secures {P : Annot → Prop} {α : Type} {step : LoadM α}
    {problem : Raised → Problem} (h : step.Keeps P) {w : Workspace} (hw : w.IsCoherent P) :
    Secures (Workspace.IsCoherent P) (SourceM.ofLoad step problem) w fun _ _ => True := by
  have hstate : ((SourceM.ofLoad step problem).run w).2 = (step.run w).2 := by
    rw [SourceM.ofLoad_run]
    rcases step.run w with ⟨e | a, w'⟩
    · rfl
    · rfl
  refine ⟨?_, fun _ _ => trivial⟩
  rw [hstate]
  exact (h w hw).1

theorem Workspace.IsCoherent.withDirectory {P : Annot → Prop} {w : Workspace}
    (hw : w.IsCoherent P) (dir : Place) : (w.withDirectory dir).IsCoherent P := by
  unfold Workspace.withDirectory
  split
  · exact hw
  · exact hw

theorem loadFile_secures (ht : ∀ a ∈ t.objects, a.Known P 0) (source : String) {w : Workspace}
    (hw : w.IsCoherent P) :
    Secures (Workspace.IsCoherent P) (loadFile t source) w fun _ _ => True := by
  unfold loadFile
  dsimp only
  split
  next => exact .throw hw
  next content hcontent =>
    have henter : ∀ name dir, (enterModule (ElmCodec.importModule t) Raised.endsRun
        (fileModule name (t.place source) dir) content).Keeps P := fun name dir =>
      enterModule_keeps (importModule_keeps ht) (fileModule_isAtom name _ dir)
        (FileTree.forall_content? ht hcontent)
    refine .get_bind (.modify_bind (.guard (hw.withDirectory _) ?_))
    refine .bind (SourceM.ofLoad_secures (henter _ _) (hw.withDirectory _)) fun id w' hw' _ => ?_
    exact .modify_bind (.pure hw' trivial)

theorem loadModule_secures (ht : ∀ a ∈ t.objects, a.Known P 0) (source : String) {w : Workspace}
    (hw : w.IsCoherent P) :
    Secures (Workspace.IsCoherent P) (loadModule t source) w fun _ _ => True := by
  unfold loadModule
  split
  · exact loadFile_secures ht source hw
  · exact SourceM.ofLoad_secures (importModule_keeps ht source) hw

/-- A load of a source from the files that are there, or of a module by its definitions. -/
inductive Load where
  /-- Of a source. -/
  | source (t : FileTree) (name : String)
  /-- Of definitions. -/
  | definitions (name : String) (content : List Definition)

namespace Load

/-- The workspace after a load, which may have failed. -/
def run (w : Workspace) : Load → Workspace
  | .source t name => ((loadModule t name).run w).2
  | .definitions name content => ((runModule name content).run w).2

/-- A load takes declared classes from bindings only. -/
def ByName : Load → Prop
  | .source t _ => t.ByName
  | .definitions _ content => ∀ d ∈ content, d.statement.ByName

/-- The objects that are fixed in what a load reads. -/
def objects : Load → List Annot
  | .source t _ => t.objects
  | .definitions _ content => content.flatMap fun d => d.statement.objects

theorem within_of_byName {load : Load} (h : load.ByName) : ∀ a ∈ load.objects, a.Within 0 := by
  cases load with
  | source t name => exact FileTree.within_of_byName h
  | definitions name content =>
    intro a ha
    obtain ⟨d, hd, ha⟩ := List.mem_flatMap.mp ha
    exact d.statement.within_of_byName (h d hd) a ha

theorem isCoherent_run {w : Workspace} (hw : w.IsCoherent P) {load : Load}
    (hload : ∀ a ∈ load.objects, a.Known P 0) : (load.run w).IsCoherent P := by
  cases load with
  | source t name => exact (loadModule_secures hload name hw).1
  | definitions name content =>
    refine (runModule_keeps name (fun d hd a ha => ?_) w hw).1
    exact hload a (List.mem_flatMap.mpr ⟨d, hd, ha⟩)

end Load

/-- The workspace after some loads from nothing, with directories to seek modules in. -/
def Workspace.after (path : List Place) (loads : List Load) : Workspace :=
  loads.foldl Load.run { path := path }

/-- A program that loads made, some of which may have failed. -/
def Source.Program.IsLoaded (p : Program) : Prop :=
  ∃ path loads, (∀ load ∈ loads, load.ByName) ∧ (Workspace.after path loads).program = p

/-- Loads make coherent programs. -/
theorem Workspace.isCoherent_after (path : List Place) {loads : List Load}
    (hloads : ∀ load ∈ loads, ∀ a ∈ load.objects, a.Known P 0) :
    (Workspace.after path loads).IsCoherent P := by
  have hrun : ∀ w : Workspace, w.IsCoherent P → (loads.foldl Load.run w).IsCoherent P := by
    induction loads with
    | nil => exact fun _ hw => hw
    | cons load loads ih =>
      intro w hw
      refine ih (fun l hl => hloads l (List.mem_cons_of_mem _ hl)) _ ?_
      exact Load.isCoherent_run hw (hloads load List.mem_cons_self)
  exact hrun _ Program.isCoherent_empty

theorem Source.Program.IsLoaded.isCoherent {p : Program} (h : p.IsLoaded) :
    p.IsCoherent fun _ => True := by
  obtain ⟨path, loads, hloads, rfl⟩ := h
  exact Workspace.isCoherent_after path fun load hload a ha =>
    ⟨Load.within_of_byName (hloads load hload) a ha, trivial⟩

/-- A program that loads made, some of which may have failed, from definitions in which all fixed
objects are standard ones.  All else is written there as type expressions. -/
def Source.Program.IsPlainlyLoaded (p : Program) : Prop :=
  ∃ path loads, (∀ load ∈ loads, ∀ a ∈ load.objects, a.isStandard = true) ∧
    (Workspace.after path loads).program = p

theorem Source.Program.IsPlainlyLoaded.isCoherent {p : Program} (h : p.IsPlainlyLoaded) :
    p.IsCoherent P := by
  obtain ⟨path, loads, hloads, rfl⟩ := h
  exact Workspace.isCoherent_after path fun load hload a ha =>
    Annot.inherits_of_isStandard (hloads load hload a ha)

end ElmCodec
