import ElmCodec.Proofs.Cut
import ElmCodec.Proofs.Loading
import Mathlib.Data.List.Infix

/-!
# Imports leave private modules alone

A file that is loaded as a source becomes a private module, under a name with a beginning of its
own.  What is known of the private modules of a workspace is which of their names are loaded and
as what, and how some of them look (`PrivateModules`).

An import adds modules, binds names in them, gathers directories and takes out what fails, but
only under the names on the way to what is imported.  These are beginnings of the imported name,
so no import of another name touches a private module (`importModule_spares`).
-/

namespace ElmCodec

open Source (Annot Program Definition Module ModuleId Statement Raised)

/-- The name begins as those of private modules do. -/
def IsPrivate (name : String) : Prop := privateStem.toList <+: name.toList

instance : DecidablePred IsPrivate := fun name =>
  inferInstanceAs (Decidable (privateStem.toList <+: name.toList))

/-! ## Names on the way to a dotted name -/

/-- The names on the way are beginnings of the whole name. -/
theorem prefix_of_mem_dottedSteps {parent : Option String} {last : String} {rest : List String}
    {s : DottedStep} (hs : s ∈ dottedSteps parent (last :: rest)) :
    ∀ name, name = s.full ∨ s.parent = some name →
      name.toList <+: (parent.elim last (· ++ "." ++ last)).toList ++
        rest.flatMap fun part => '.' :: part.toList := by
  induction rest generalizing parent last with
  | nil =>
    obtain rfl := List.mem_singleton.mp hs
    rintro name (rfl | hparent)
    · exact List.prefix_append _ _
    · cases hparent
      simp
  | cons next rest ih =>
    rcases List.mem_cons.mp hs with rfl | hs
    · rintro name (rfl | hparent)
      · exact List.prefix_append _ _
      · cases hparent
        simp
    · simpa using ih hs

theorem dottedSteps_not_isPrivate {name : String} (hname : ¬ IsPrivate name) {s : DottedStep}
    (hs : s ∈ dottedSteps none (dottedParts name)) :
    ¬ IsPrivate s.full ∧ ∀ parent, s.parent = some parent → ¬ IsPrivate parent := by
  have hstart : ∀ other, other = s.full ∨ s.parent = some other →
      other.toList <+: name.toList := by
    rw [dottedParts] at hs
    cases hpieces : Text.pieces '.' name.toList with
    | nil =>
      rw [hpieces] at hs
      cases hs
    | cons first later =>
      rw [hpieces, List.map_cons] at hs
      rw [Text.eq_of_pieces hpieces]
      simpa [List.flatMap_map] using prefix_of_mem_dottedSteps hs
  refine ⟨fun h => hname (h.trans (hstart _ (Or.inl rfl))), fun parent hparent h => ?_⟩
  exact hname (h.trans (hstart parent (Or.inr hparent)))

theorem parentName_not_isPrivate {name : String} (hname : ¬ IsPrivate name) :
    ¬ IsPrivate (parentName name) := by
  have hdot : ".".toList = ['.'] := rfl
  have hstart : (parentName name).toList <+: name.toList := by
    rw [parentName]
    cases hpieces : Text.pieces '.' name.toList with
    | nil => simp [Text.joinWith]
    | cons first later =>
      rw [Text.eq_of_pieces hpieces]
      rcases List.eq_nil_or_concat later with rfl | ⟨before, last, rfl⟩
      · simp [Text.joinWith]
      · rw [List.concat_eq_append, ← List.cons_append, List.map_append, List.map_singleton,
          List.dropLast_concat, List.map_cons, Text.toList_joinWith_cons hdot]
        simp [List.flatMap_map]
  exact fun h => hname (h.trans hstart)

/-! ## What is known of private modules -/

/-- What is known of the private modules of a workspace. -/
structure PrivateModules where
  /-- The names that are loaded, and their modules. -/
  loaded : String → ModuleId → Prop
  /-- Modules, with their places, that look as they are given. -/
  kept : List (ModuleId × Module)

namespace PrivateModules

variable (k : PrivateModules)

/-- The modules after a name was loaded as a module. -/
def insert (name : String) (id : ModuleId) : PrivateModules :=
  { k with
    loaded := fun other otherId => if other = name then otherId = id else k.loaded other otherId }

/-- The modules after a name was taken out. -/
def erase (name : String) : PrivateModules :=
  { k with loaded := fun other id => other ≠ name ∧ k.loaded other id }

/-- The place is not one of the modules that are given. -/
def IsFree (id : ModuleId) : Prop := ∀ entry ∈ k.kept, entry.1 ≠ id

end PrivateModules

/-- The private modules of a program are as they are given, and each name is loaded as a module
of this name. -/
structure Source.Program.Holds (k : PrivateModules) (p : Program) : Prop where
  /-- A name is loaded as a module of this name. -/
  named : ∀ name id, p.loaded.find? name = some id →
    ∃ m, p.modules[id]? = some m ∧ m.name = name
  /-- The private names that are loaded are the given ones. -/
  loaded : ∀ name id, IsPrivate name → (p.loaded.find? name = some id ↔ k.loaded name id)
  /-- The given modules are private and look as given. -/
  kept : ∀ entry ∈ k.kept, IsPrivate entry.2.name ∧ p.modules[entry.1]? = some entry.2

namespace Source.Program.Holds

variable {k k' : PrivateModules} {p : Program} {m : Module} {name : String} {id : ModuleId}

theorem congr (h : p.Holds k) (hkept : k'.kept ⊆ k.kept)
    (hloaded : ∀ name id, IsPrivate name → (k.loaded name id ↔ k'.loaded name id)) :
    p.Holds k' where
  named := h.named
  loaded name id hname := (h.loaded name id hname).trans (hloaded name id hname)
  kept entry hentry := h.kept entry (hkept hentry)

theorem of_eq {q : Program} (h : p.Holds k) (hloaded : q.loaded = p.loaded)
    (hmodules : q.modules = p.modules) : q.Holds k where
  named := by
    rw [hloaded, hmodules]
    exact h.named
  loaded := by
    rw [hloaded]
    exact h.loaded
  kept := by
    rw [hmodules]
    exact h.kept

/-- A name that is not private is loaded as none of the given modules. -/
theorem isFree (h : p.Holds k) (hname : ¬ IsPrivate name) (hid : p.loaded.find? name = some id) :
    k.IsFree id := by
  rintro entry hentry rfl
  obtain ⟨m, hm, rfl⟩ := h.named name _ hid
  obtain ⟨hprivate, hkept⟩ := h.kept entry hentry
  cases hm.symm.trans hkept
  exact hname hprivate

/-- A new module has a place of its own. -/
theorem isFree_length (h : p.Holds k) : k.IsFree p.modules.length := by
  intro entry hentry heq
  obtain ⟨hlt, -⟩ := List.getElem?_eq_some_iff.mp (h.kept entry hentry).2
  exact absurd heq (Nat.ne_of_lt hlt)

theorem addModule (h : p.Holds k) (m : Module) :
    (p.addModule m).1.Holds (k.insert m.name p.modules.length) := by
  have hold : ∀ {id old}, p.modules[id]? = some old → (p.modules ++ [m])[id]? = some old :=
    fun hold => (List.getElem?_append_left (List.getElem?_eq_some_iff.mp hold).1).trans hold
  refine ⟨fun name id hid => ?_, fun name id hname => ?_, fun entry hentry => ?_⟩
  · change (p.loaded.insert m.name p.modules.length).find? name = some id at hid
    rw [Table.find?_insert] at hid
    split at hid
    next heq =>
      cases hid
      exact ⟨m, List.getElem?_concat_length, (eq_of_beq heq).symm⟩
    next =>
      obtain ⟨old, hmodule, hname⟩ := h.named name id hid
      exact ⟨old, hold hmodule, hname⟩
  · change (p.loaded.insert m.name p.modules.length).find? name = some id ↔
      if name = m.name then id = p.modules.length else k.loaded name id
    rw [Table.find?_insert]
    by_cases heq : name = m.name
    · simp [heq, eq_comm]
    · simpa [heq] using h.loaded name id hname
  · exact ⟨(h.kept entry hentry).1, hold (h.kept entry hentry).2⟩

theorem unload (h : p.Holds k) (name : String) : (p.unload name).Holds (k.erase name) := by
  refine ⟨fun other id hid => ?_, fun other id hother => ?_, h.kept⟩
  · change (p.loaded.erase name).find? other = some id at hid
    rw [Table.find?_erase] at hid
    split at hid
    · cases hid
    · exact h.named other id hid
  · change (p.loaded.erase name).find? other = some id ↔ other ≠ name ∧ k.loaded other id
    rw [Table.find?_erase]
    by_cases heq : other = name
    · simp [heq]
    · simpa [heq] using h.loaded other id hother

theorem modifyModule (h : p.Holds k) (hid : k.IsFree id) {change : Module → Module}
    (hchange : ∀ m, (change m).name = m.name) : (p.modifyModule id change).Holds k := by
  refine ⟨fun name other hother => ?_, h.loaded, fun entry hentry => ?_⟩
  · obtain ⟨m, hm, hname⟩ := h.named name other hother
    change ∃ m, (p.modules.modify id change)[other]? = some m ∧ m.name = name
    rw [List.getElem?_modify, hm]
    by_cases heq : id = other
    · exact ⟨change m, by simp [heq], (hchange m).trans hname⟩
    · exact ⟨m, by simp [heq], hname⟩
  · refine ⟨(h.kept entry hentry).1, ?_⟩
    change (p.modules.modify id change)[entry.1]? = some entry.2
    rw [List.getElem?_modify, (h.kept entry hentry).2]
    simp [Ne.symm (hid entry hentry)]

theorem bind (h : p.Holds k) (hid : k.IsFree id) (name : String) (a : Annot) :
    (p.bind id name a).Holds k :=
  h.modifyModule hid fun _ => rfl

/-- Under a name that is not private a new module changes nothing. -/
theorem addModule_of_not_isPrivate (h : p.Holds k) (hm : ¬ IsPrivate m.name) :
    (p.addModule m).1.Holds k := by
  refine (h.addModule m).congr (List.Subset.refl _) fun name id hname => ?_
  have hne : name ≠ m.name := fun heq => hm (heq ▸ hname)
  simp [PrivateModules.insert, hne]

theorem unload_of_not_isPrivate (h : p.Holds k) (hname : ¬ IsPrivate name) :
    (p.unload name).Holds k := by
  refine (h.unload name).congr (List.Subset.refl _) fun other id hother => ?_
  have hne : other ≠ name := fun heq => hname (heq ▸ hother)
  simp [PrivateModules.erase, hne]

end Source.Program.Holds

/-! ## Statements -/

namespace Source.ProgramM

/-- Two programs have the same modules, loaded under the same names. -/
def SameModules (p q : Program) : Prop := q.loaded = p.loaded ∧ q.modules = p.modules

variable {p q : Program} {α : Type}

theorem evaluate_same (h : SameModules p q) (step : Program → EvalM α) :
    Secures (SameModules p) (evaluate step) q fun _ _ => True :=
  ⟨h, fun _ _ => trivial⟩

theorem making_same (h : SameModules p q) (r : Except ClassError α) :
    Secures (SameModules p) (making r) q fun _ _ => True :=
  .lift h fun _ _ => trivial

theorem addClass_same (h : SameModules p q) (d : ClassDecl) :
    Secures (SameModules p) (addClass d) q fun _ _ => True :=
  .get_bind (.set_bind (.pure h trivial))

theorem declare_same (h : SameModules p q) (m : ModuleId) (c : ClassExpr) :
    Secures (SameModules p) (declare m c) q fun _ _ => True := by
  refine .get_bind (.get_bind (.bind (evaluate_same h _) fun own _ h _ => ?_))
  refine .bind (evaluate_same h _) fun bases _ h _ => ?_
  refine .bind (evaluate_same h _) fun typeVars q h _ => .get_bind ?_
  refine .bind (making_same h _) fun made _ h _ => ?_
  refine .ite_bind (making_same h _) (.pure h trivial) fun body _ h _ => ?_
  exact .ite_bind (making_same h _) (.pure h trivial) fun _ _ h _ => addClass_same h _

theorem declareEmpty_same (h : SameModules p q) (m : ModuleId) (kind : ClassKind) (name : String)
    (ancestors : List ClassRef) (members : Table String Nat) :
    Secures (SameModules p) (declareEmpty m kind name ancestors members) q fun _ _ => True :=
  .get_bind (addClass_same h _)

/-- A statement that imports nothing makes classes and remembers forms, and leaves the modules as
they are. -/
theorem perform_same (h : SameModules p q) (m : ModuleId) (s : Statement) :
    Secures (SameModules p) (perform m s) q fun _ _ => True := by
  have hnumbered : ∀ {q} (make : Nat → Program → Annot), SameModules p q →
      Secures (SameModules p)
        (do return make (← evaluate fun _ => EvalM.newSerial) (← get) : ProgramM Annot) q
        fun _ _ => True :=
    fun make h => .bind (evaluate_same h _) fun _ _ h _ => .get_bind (.pure h trivial)
  cases s with
  | declare c => exact declare_same h m c
  | enumeration name members =>
    exact .bind (making_same h _) fun _ _ h _ => declareEmpty_same h _ _ _ _ _
  | protocol name => exact .get_bind (declareEmpty_same h _ _ _ _ _)
  | function name => exact hnumbered (fun serial q => .function serial (q.moduleName m) name) h
  | object cls fields =>
    exact hnumbered (fun serial _ => .object serial cls (objectText cls fields) false) h
  | value v => exact .pure h trivial
  | synonym type => exact evaluate_same h fun p => type.eval p (p.namespaceAt m)
  | typeVar name => exact hnumbered (fun serial _ => .typeVar serial name) h
  | newType name type =>
    exact .bind (evaluate_same h fun p => type.eval p (p.namespaceAt m)) fun _ _ h _ =>
      hnumbered (fun serial q => .newType serial (q.moduleName m) name) h
  | importFrom source name => exact .throw h
  | raise kind message => exact .throw h

end Source.ProgramM

/-! ## Steps that leave private modules alone -/

/-- The private modules of a workspace are as they are given, and so is the number of the next
load. -/
structure Workspace.Holds (k : PrivateModules) (number : Nat) (w : Workspace) : Prop where
  /-- The private modules are the given ones. -/
  program : w.program.Holds k
  /-- The number is the given one. -/
  number : w.nextLoad = number

/-- A step leaves the private modules as they are given, and the number of the next load. -/
def LoadM.Spares {α : Type} (k : PrivateModules) (number : Nat) (x : LoadM α) : Prop :=
  ∀ w : Workspace, w.Holds k number → Secures (Workspace.Holds k number) x w fun _ _ => True

section Spares

variable {k : PrivateModules} {number : Nat}

namespace LoadM.Spares

variable {α β : Type} {x : LoadM α} {f : α → LoadM β}

theorem pure (a : α) : Spares k number (Pure.pure a : LoadM α) := fun _ hw => .pure hw trivial

theorem throw (e : Raised) : Spares k number (MonadExcept.throw e : LoadM α) :=
  fun _ hw => .throw hw

theorem bind (hx : Spares k number x) (hf : ∀ a, Spares k number (f a)) :
    Spares k number (x >>= f) :=
  fun w hw => (hx w hw).bind fun a w' hw' _ => hf a w' hw'

theorem guard {c : Prop} [Decidable c] {e : Raised} (hx : Spares k number x) :
    Spares k number (if c then (MonadExcept.throw e : LoadM PUnit) >>= fun _ => x else x) :=
  fun w hw => .guard hw (hx w hw)

theorem get : Spares k number (MonadState.get : LoadM Workspace) :=
  fun _ hw => ⟨hw, fun _ _ => trivial⟩

theorem update {change : Program → Program}
    (h : ∀ p : Program, p.Holds k → (change p).Holds k) : Spares k number (LoadM.update change) :=
  fun _ hw => .modify ⟨h _ hw.program, hw.number⟩ trivial

theorem program : Spares k number LoadM.program := get.bind fun _ => .pure _

/-- What is loaded under a name that is not private is a module of this name, and none of the
given ones. -/
theorem loaded?_bind {name : String} (hname : ¬ IsPrivate name)
    {f : Option ModuleId → LoadM α} (hnone : Spares k number (f none))
    (hsome : ∀ id, k.IsFree id → ∀ w : Workspace, w.Holds k number →
      (w.program.moduleAt id).name = name →
      Secures (Workspace.Holds k number) (f (some id)) w fun _ _ => True) :
    Spares k number (LoadM.loaded? name >>= f) := by
  intro w hw
  have hlook : Secures (Workspace.Holds k number) (f (w.program.loaded.find? name)) w
      fun _ _ => True := by
    cases hfound : w.program.loaded.find? name with
    | none => exact hnone w hw
    | some id =>
      obtain ⟨m, hm, hmname⟩ := hw.program.named name id hfound
      refine hsome id (hw.program.isFree hname hfound) w hw ?_
      rw [Program.moduleAt, hm]
      exact hmname
  exact hlook

end LoadM.Spares

/-! ## Carrying out definitions -/

variable {importModule : Importer} {m : ModuleId}

/-- The definitions import no private module. -/
def ImportsNoPrivate (content : List Definition) : Prop :=
  ∀ d ∈ content, ∀ source name, d.statement = .importFrom source name → ¬ IsPrivate source

theorem perform_spares (s : Statement) :
    (LoadM.ofProgram (Source.ProgramM.perform m s)).Spares k number := by
  intro w hw
  obtain ⟨hloaded, hmodules⟩ :=
    (Source.ProgramM.perform_same (p := w.program) ⟨rfl, rfl⟩ m s).1
  exact ⟨⟨hw.program.of_eq hloaded hmodules, hw.number⟩, fun _ _ => trivial⟩

theorem execute_spares (himport : ∀ name, ¬ IsPrivate name → (importModule name).Spares k number)
    (s : Statement) (hs : ∀ source name, s = .importFrom source name → ¬ IsPrivate source) :
    (s.execute importModule m).Spares k number := by
  cases s
  case importFrom source name =>
    refine .bind (himport source (hs source name rfl)) fun found => .bind .program fun p => ?_
    split
    · exact .pure _
    · exact .throw _
  all_goals exact perform_spares _

theorem executeAll_spares
    (himport : ∀ name, ¬ IsPrivate name → (importModule name).Spares k number) (hm : k.IsFree m)
    {content : List Definition} (hcontent : ImportsNoPrivate content) :
    (executeAll importModule m content).Spares k number := by
  induction content with
  | nil => exact .pure _
  | cons d content ih =>
    have hrest := ih fun d hd => hcontent d (List.mem_cons_of_mem _ hd)
    refine .bind (execute_spares himport d.statement (hcontent d List.mem_cons_self)) fun a => ?_
    exact .bind (.update fun p hp => hp.bind hm _ _) fun _ => hrest

theorem add_bind_spares {module : Module} (hmodule : ¬ IsPrivate module.name) {α : Type}
    {f : ModuleId → LoadM α} (hf : ∀ id, k.IsFree id → (f id).Spares k number) :
    (LoadM.add module >>= f).Spares k number := by
  intro w hw
  have hadded : (w.program.addModule module).1.Holds k :=
    hw.program.addModule_of_not_isPrivate hmodule
  exact hf _ hw.program.isFree_length _ ⟨hadded, hw.number⟩

theorem enterModule_spares
    (himport : ∀ name, ¬ IsPrivate name → (importModule name).Spares k number)
    {stays : Raised → Bool} {module : Module} (hmodule : ¬ IsPrivate module.name)
    {content : List Definition} (hcontent : ImportsNoPrivate content) :
    (enterModule importModule stays module content).Spares k number := by
  refine add_bind_spares hmodule fun id hid => .bind (fun w hw => ?_) fun _ => .pure id
  refine .tryCatch (executeAll_spares himport hid hcontent w hw) fun e w' hw' => ?_
  refine LoadM.Spares.bind (.update fun p hp => ?_) (fun _ => .throw e) w' hw'
  split
  · exact hp
  · exact hp.unload_of_not_isPrivate hmodule

/-! ## Imports -/

/-- The files of a tree import no private module. -/
def FileTree.SparesPrivate (t : FileTree) : Prop := ∀ name ∈ t.importedNames, ¬ IsPrivate name

instance (t : FileTree) : Decidable t.SparesPrivate :=
  inferInstanceAs (Decidable (∀ name ∈ t.importedNames, ¬ IsPrivate name))

variable {t : FileTree}

theorem FileTree.SparesPrivate.importsNoPrivate (ht : t.SparesPrivate) {place : Place}
    {content : List Definition} (h : t.content? place = some content) :
    ImportsNoPrivate content := by
  unfold FileTree.content? at h
  split at h
  next hlookup =>
    cases h
    intro d hd source name hstatement
    refine ht source (List.mem_flatMap.mpr ⟨_, Table.mem_of_find? hlookup, ?_⟩)
    exact List.mem_filterMap.mpr ⟨d, hd, by rw [hstatement]⟩
  next => cases h

theorem partDirectories?_spares (depth : Nat) {name : String} (hname : ¬ IsPrivate name) :
    (partDirectories? t depth name).Spares k number := by
  induction depth generalizing name with
  | zero => exact .pure _
  | succ depth ih =>
    unfold partDirectories?
    refine .loaded?_bind hname (.pure _) fun id hid w hw hmodule => LoadM.program_bind ?_
    have hgather : ∀ g : Source.Gathered, (LoadM.update (·.modifyModule id fun m => { m with
        gathered := some g
        bindings := m.bindings.insert "__path__" (directoryList g.dirs) })).Spares k number :=
      fun g => .update fun p hp => hp.modifyModule hid fun _ => rfl
    dsimp only
    split
    next => exact .pure hw trivial
    next g =>
      rw [hmodule]
      split
      · exact LoadM.Spares.bind .get (fun _ => .bind (.pure _) fun _ => .bind (hgather _) fun _ =>
          .pure _) w hw
      · exact LoadM.Spares.bind (ih (parentName_not_isPrivate hname)) (fun _ =>
          .bind (hgather _) fun _ => .pure _) w hw

theorem searchDirectories_spares {s : DottedStep}
    (hs : ∀ parent, s.parent = some parent → ¬ IsPrivate parent) :
    (searchDirectories t s).Spares k number := by
  unfold searchDirectories
  split
  · exact .bind .get fun _ => .pure _
  next parent hparent =>
    refine .bind (partDirectories?_spares _ (hs parent hparent)) fun found => ?_
    split
    · exact .pure _
    · exact .throw _

theorem enterFound_spares (ht : t.SparesPrivate)
    (himport : ∀ name, ¬ IsPrivate name → (importModule name).Spares k number) {name : String}
    (hname : ¬ IsPrivate name) (within : List Place) (found : Found) :
    (enterFound t importModule name within found).Spares k number := by
  have hcontent : ∀ place, ImportsNoPrivate ((t.content? place).getD []) := by
    intro place
    cases h : t.content? place with
    | none => exact fun _ hd => nomatch hd
    | some content => exact ht.importsNoPrivate h
  cases found with
  | package dir => exact enterModule_spares himport hname (hcontent _)
  | file place => exact enterModule_spares himport hname (hcontent _)
  | directories dirs => exact add_bind_spares hname fun id _ => .pure id

theorem bindInParent_spares {s : DottedStep}
    (hs : ∀ parent, s.parent = some parent → ¬ IsPrivate parent) (id : ModuleId) :
    (bindInParent s id).Spares k number := by
  unfold bindInParent
  split
  · exact .pure _
  next parent hparent =>
    refine .loaded?_bind (hs parent hparent) (.pure _) fun owner howner w hw _ => ?_
    exact LoadM.Spares.update (fun p hp => hp.bind howner _ _) w hw

theorem importStep_spares (ht : t.SparesPrivate)
    (himport : ∀ name, ¬ IsPrivate name → (importModule name).Spares k number) {s : DottedStep}
    (hfull : ¬ IsPrivate s.full) (hs : ∀ parent, s.parent = some parent → ¬ IsPrivate parent) :
    (importStep t importModule s).Spares k number := by
  unfold importStep
  refine .loaded?_bind hfull ?_ fun id _ w hw _ => .pure hw trivial
  refine .bind (searchDirectories_spares hs) fun dirs => ?_
  split
  · exact .throw _
  · exact .bind (enterFound_spares ht himport hfull _ _) fun id =>
      .bind (bindInParent_spares hs id) fun _ => .pure _

theorem importSteps_spares (ht : t.SparesPrivate)
    (himport : ∀ name, ¬ IsPrivate name → (importModule name).Spares k number)
    {steps : List DottedStep} (hsteps : ∀ s ∈ steps, ¬ IsPrivate s.full ∧
      ∀ parent, s.parent = some parent → ¬ IsPrivate parent) (last : ModuleId) :
    (importSteps t importModule last steps).Spares k number := by
  induction steps generalizing last with
  | nil => exact .pure _
  | cons s steps ih =>
    obtain ⟨⟨hfull, hparent⟩, hrest⟩ := List.forall_mem_cons.mp hsteps
    exact .bind (importStep_spares ht himport hfull hparent) (ih hrest)

theorem mem_of_mem_remainingSteps {p : Program} {steps : List DottedStep} {s : DottedStep}
    (hs : s ∈ remainingSteps p steps) : s ∈ steps :=
  List.mem_reverse.mp ((List.takeWhile_sublist _).mem (List.mem_reverse.mp hs))

theorem importWithin_spares (ht : t.SparesPrivate) (depth : Nat) {name : String}
    (hname : ¬ IsPrivate name) : (importWithin t depth name).Spares k number := by
  induction depth generalizing name with
  | zero =>
    unfold importWithin
    refine .guard (.guard (.loaded?_bind hname (.throw _) fun id _ w hw _ => .pure hw trivial))
  | succ depth ih =>
    unfold importWithin
    refine .guard (.guard (.loaded?_bind hname ?_ fun id _ w hw _ => .pure hw trivial))
    refine .bind .program fun p => importSteps_spares ht (fun _ => ih) (fun s hs => ?_) 0
    exact dottedSteps_not_isPrivate hname (mem_of_mem_remainingSteps hs)

theorem importModule_spares (ht : t.SparesPrivate) {name : String} (hname : ¬ IsPrivate name) :
    (ElmCodec.importModule t name).Spares k number :=
  importWithin_spares ht _ hname

end Spares

end ElmCodec
