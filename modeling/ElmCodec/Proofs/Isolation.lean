import ElmCodec.Proofs.PrivateModules
import Mathlib.Data.List.Nodup
import Mathlib.Data.List.Pairwise

/-!
# Loads of files stay apart

Each load of a file gets a private name from the number of the load and the name of the file.
The number can be read off the name, since no digit comes after it before the next bar
(`privateName_inj`), and it is used up whether the load succeeds or not.  So the names of loads
differ, whatever the files are called.

A load enters its module, and takes it out again if it fails with a problem.  A fault ends the
whole run, and such a load does not clear up: whoever goes on finds its module there.  Nothing else
changes under private names (`loadFile_changes`), so after any loads exactly the modules of those
that did not fail with a problem are there, as the loads left them (`FileLoads.tracks`).
-/

namespace ElmCodec

open Source (Annot Program Definition Module ModuleId Raised)

/-! ## Private names -/

theorem toList_privateName (number : Nat) (file : String) :
    (privateName number file).toList =
      privateStem.toList ++ '_' :: (Nat.toDigits 10 number ++ '_' :: (fileStem file).toList) := by
  simp [privateName]

theorem isPrivate_privateName (number : Nat) (file : String) :
    IsPrivate (privateName number file) := by
  rw [IsPrivate, toList_privateName]
  exact List.prefix_append _ _

/-- The number of a load can be read off its name. -/
theorem privateName_inj {m n : Nat} {file other : String}
    (h : privateName m file = privateName n other) : m = n := by
  have hbar : ∀ number, '_' ∉ Nat.toDigits 10 number := fun number hmem =>
    absurd (Nat.isDigit_of_mem_toDigits (by decide) (by decide) hmem) (by decide)
  have hlist := congrArg String.toList h
  rw [toList_privateName, toList_privateName, List.append_cancel_left_eq, List.cons.injEq] at hlist
  have hcut := congrArg (Text.cut '_') hlist.2
  rw [Text.cut_append_cons (hbar m), Text.cut_append_cons (hbar n)] at hcut
  have hdigits := congrArg (Nat.ofDigitChars 10 · 0) (Prod.mk.inj hcut).1
  simpa using hdigits

/-- The private name that a load of a file gets, if the file is there. -/
def Workspace.nameFor? (w : Workspace) (t : FileTree) (source : String) : Option String :=
  if t.isFile (t.place source) then some (privateName w.nextLoad ((t.place source).getLastD ""))
  else none

/-! ## One load -/

/-- What a load makes of the private modules and of the number of the next load, by the name that
it gets and its result. -/
inductive PrivateModules.Changes (k : PrivateModules) (number : Nat) :
    Option String → Except Failure ModuleId → PrivateModules → Nat → Prop
  /-- A file that is not there changes nothing. -/
  | missing (e : Located Problem) : Changes k number none (.error (.problem e)) k number
  /-- A load that fails uses up its number. -/
  | failed (name : String) (e : Located Problem) :
    Changes k number (some name) (.error (.problem e)) k (number + 1)
  /-- A load that succeeds or ends the whole run is there under its name. -/
  | stays (name : String) (id : ModuleId) (m : Module) (result : Except Failure ModuleId)
    (hname : m.name = name) (hresult : result = .ok id ∨ ∃ f, result = .error (.fault f)) :
    Changes k number (some name) result
      { k.insert name id with kept := (id, m) :: k.kept } (number + 1)

section Load

variable {k : PrivateModules} {number : Nat} {t : FileTree} {w : Workspace} {source : String}

theorem PrivateModules.insert_loaded (k : PrivateModules) (name : String) (id : ModuleId) :
    (k.insert name id).loaded name id :=
  (if_pos rfl).mpr rfl

/-- A name that comes in and goes out again leaves what was there. -/
theorem Source.Program.Holds.erase_insert {p : Program} {name : String} {id : ModuleId}
    (h : p.Holds ((k.insert name id).erase name)) (hnew : ∀ id, ¬ k.loaded name id) :
    p.Holds k := by
  refine h.congr (List.Subset.refl _) fun other otherId _ => ?_
  by_cases heq : other = name
  · subst heq
    simp [PrivateModules.erase, hnew]
  · simp [PrivateModules.erase, PrivateModules.insert, heq]

/-- The module that is loaded under a private name can be added to those that are given. -/
theorem Source.Program.Holds.exists_kept {p : Program} (h : p.Holds k) {name : String}
    {id : ModuleId} (hname : IsPrivate name) (hid : k.loaded name id) :
    ∃ m, m.name = name ∧ p.Holds { k with kept := (id, m) :: k.kept } := by
  obtain ⟨m, hm, rfl⟩ := h.named name id ((h.loaded name id hname).mpr hid)
  refine ⟨m, rfl, h.named, h.loaded, fun entry hentry => ?_⟩
  rcases List.mem_cons.mp hentry with rfl | hentry
  · exact ⟨hname, hm⟩
  · exact h.kept entry hentry

theorem enterModule_run (importModule : Importer) (stays : Raised → Bool) (m : Module)
    (content : List Definition) (w : Workspace) :
    (enterModule importModule stays m content).run w =
      match (executeAll importModule w.program.modules.length content).run
        { w with program := (w.program.addModule m).1 } with
      | (.ok _, w') => (.ok w.program.modules.length, w')
      | (.error e, w') => (.error e, { w' with
        program := if stays e then w'.program else w'.program.unload m.name }) := by
  have hadd : (LoadM.add m).run w =
      (.ok w.program.modules.length, { w with program := (w.program.addModule m).1 }) := rfl
  unfold enterModule
  rw [run_bind, hadd]
  dsimp only
  rw [run_bind, run_tryCatch]
  rcases (executeAll importModule w.program.modules.length content).run _ with ⟨e | a, w'⟩
  · rfl
  · rfl

/-- Entering a private module under a new name changes what is loaded under this name only, and a
failure takes it out again, unless it lets it stay. -/
theorem enterModule_private (ht : t.SparesPrivate) (hw : w.Holds k number) (module : Module)
    (hnew : ∀ id, ¬ k.loaded module.name id) {content : List Definition}
    (hcontent : ImportsNoPrivate content) (stays : Raised → Bool) :
    match (enterModule (importModule t) stays module content).run w with
    | (.ok id, w') => w'.Holds (k.insert module.name id) number
    | (.error e, w') =>
      if stays e then ∃ id, w'.Holds (k.insert module.name id) number else w'.Holds k number := by
  have hadded : ({ w with program := (w.program.addModule module).1 } : Workspace).Holds
      (k.insert module.name w.program.modules.length) number :=
    ⟨hw.program.addModule module, hw.number⟩
  have hfree : (k.insert module.name w.program.modules.length).IsFree w.program.modules.length :=
    hw.program.isFree_length
  have hrun := (executeAll_spares (fun _ => importModule_spares ht) hfree hcontent _ hadded).1
  rw [enterModule_run]
  rcases hout : (executeAll (importModule t) w.program.modules.length content).run _
    with ⟨e | a, w'⟩
  · rw [hout] at hrun
    by_cases hstays : stays e = true
    · simp only [hstays, if_true]
      exact ⟨_, hrun⟩
    · simp only [hstays]
      exact ⟨(hrun.program.unload module.name).erase_insert hnew, hrun.number⟩
  · rw [hout] at hrun
    exact hrun

theorem nameFor?_eq_some (w : Workspace) {content : List Definition}
    (hfound : t.content? (t.place source) = some content) :
    w.nameFor? t source = some (privateName w.nextLoad ((t.place source).getLastD "")) := by
  simp [Workspace.nameFor?, FileTree.isFile, hfound]

theorem nameFor?_eq_none (w : Workspace) (hfound : t.content? (t.place source) = none) :
    w.nameFor? t source = none := by
  simp [Workspace.nameFor?, FileTree.isFile, hfound]

theorem loadFile_run (w : Workspace) {content : List Definition}
    (hfound : t.content? (t.place source) = some content) :
    (loadFile t source).run w =
      let place := t.place source
      let file := place.getLastD ""
      let name := privateName w.nextLoad file
      let w₁ := { w.withDirectory place.dropLast with nextLoad := w.nextLoad + 1 }
      let dir := if file = initialFile then some place.dropLast else none
      if !sourceEnding.toList.isSuffixOf file.toList then
        (.error (.ofProblem (.badFile source none)), w₁)
      else
        match (enterModule (importModule t) Raised.endsRun (fileModule name place dir)
          content).run w₁ with
        | (.ok id, w') => (.ok id, { w' with loadedFiles := w'.loadedFiles ++ [(name, place)] })
        | (.error e, w') =>
          (.error (if e.endsRun then .fault (.raised e)
            else .ofProblem (.badFile source (some e))), w') := by
  unfold loadFile
  dsimp only
  rw [hfound]
  dsimp only
  rw [run_get_bind, run_modify_bind]
  split
  · rfl
  · rw [run_bind, SourceM.ofLoad_run]
    rcases (enterModule _ _ _ _).run _ with ⟨e | id, w'⟩
    · rfl
    · rfl

theorem Workspace.Holds.withDirectory (hw : w.Holds k number) (dir : Place) (number' : Nat) :
    ({ w.withDirectory dir with nextLoad := number' } : Workspace).Holds k number' := by
  refine ⟨?_, rfl⟩
  unfold Workspace.withDirectory
  split
  · exact hw.program
  · exact hw.program

/-- A module that is there under a private name stays, whether its load succeeded or ended the
whole run. -/
theorem Workspace.Holds.exists_stays {name : String} {id : ModuleId}
    (hw : w.Holds (k.insert name id) (number + 1)) (hname : IsPrivate name)
    {result : Except Failure ModuleId}
    (hresult : result = .ok id ∨ ∃ f, result = .error (.fault f)) :
    ∃ k' number', k.Changes number (some name) result k' number' ∧ w.Holds k' number' := by
  obtain ⟨m, hm, hkept⟩ := hw.program.exists_kept hname (k.insert_loaded name id)
  exact ⟨_, _, .stays name id m result hm hresult, hkept, hw.number⟩

/-- All that a load of a file can do to the private modules, if its name is new. -/
theorem loadFile_changes (ht : t.SparesPrivate) (hw : w.Holds k number)
    (hnew : ∀ name, w.nameFor? t source = some name → ∀ id, ¬ k.loaded name id) :
    ∃ k' number', k.Changes number (w.nameFor? t source) ((loadFile t source).run w).1 k' number' ∧
      ((loadFile t source).run w).2.Holds k' number' := by
  cases hfound : t.content? (t.place source) with
  | none =>
    have hrun : (loadFile t source).run w = (.error (.ofProblem (.noFile source)), w) := by
      unfold loadFile
      dsimp only
      rw [hfound]
      rfl
    rw [hrun, nameFor?_eq_none w hfound]
    exact ⟨k, number, .missing _, hw⟩
  | some content =>
    have hname := nameFor?_eq_some w hfound
    have hnumber : w.nextLoad = number := hw.number
    rw [loadFile_run w hfound, hname]
    generalize t.place source = place at hfound hname ⊢
    have hw₁ := hw.withDirectory place.dropLast (w.nextLoad + 1)
    rw [hnumber] at hname hw₁ ⊢
    dsimp only
    split
    next => exact ⟨k, number + 1, .failed _ _, hw₁⟩
    next =>
      let dir := if place.getLastD "" = initialFile then some place.dropLast else none
      let module := fileModule (privateName number (place.getLastD "")) place dir
      have henter := enterModule_private ht hw₁ module (hnew _ hname)
        (ht.importsNoPrivate hfound) Raised.endsRun
      rcases hout : (enterModule (importModule t) Raised.endsRun module content).run _
        with ⟨e | id, w'⟩
      · rw [hout] at henter
        by_cases hends : e.endsRun = true
        · simp only [hends, if_true] at henter ⊢
          obtain ⟨id, hw'⟩ := henter
          exact hw'.exists_stays (isPrivate_privateName _ _) (Or.inr ⟨_, rfl⟩)
        · simp only [hends] at henter ⊢
          exact ⟨_, _, .failed _ _, henter⟩
      · rw [hout] at henter
        have hlisted : ({ w' with loadedFiles := w'.loadedFiles ++ [(module.name, place)] } :
            Workspace).Holds (k.insert module.name id) (number + 1) :=
          ⟨henter.program, henter.number⟩
        exact hlisted.exists_stays (isPrivate_privateName _ _) (Or.inl rfl)

end Load

/-! ## Loads one after the other -/

/-- The module that is loaded under a name, with its place. -/
def Workspace.module? (w : Workspace) (name : String) : Option (ModuleId × Module) :=
  (w.program.loaded.find? name).map fun id => (id, w.program.moduleAt id)

/-- What became of a load of a file. -/
structure FileStep where
  /-- The private name that it got, if the file was there. -/
  name? : Option String
  /-- Its result. -/
  result : Except Failure ModuleId
  /-- The module that it left under its name, with its place. -/
  left? : Option (ModuleId × Module)

/-- What becomes of a load of a file in a workspace. -/
def FileStep.of (w : Workspace) (t : FileTree) (source : String) : FileStep :=
  let after := (loadModule t source).run w
  ⟨w.nameFor? t source, after.1, (w.nameFor? t source).bind after.2.module?⟩

/-- Loads of files one after the other, from nothing, whatever becomes of each.  The files may
change in between, and none of them imports a private module. -/
inductive FileLoads (path : List Place) : List FileStep → Workspace → Prop
  /-- No load. -/
  | start : FileLoads path [] { path := path }
  /-- One more load. -/
  | load {steps : List FileStep} {w : Workspace} {t : FileTree} {source : String}
    (before : FileLoads path steps w) (ht : t.SparesPrivate)
    (hsource : isFileSource source = true) :
    FileLoads path (steps ++ [.of w t source]) ((loadModule t source).run w).2

/-- What a load can come to: a problem and no module, or a module of its name. -/
inductive FileStep.Settled : FileStep → Prop
  /-- It fails with a problem. -/
  | failed (name? : Option String) (e : Located Problem) :
    Settled ⟨name?, .error (.problem e), none⟩
  /-- It succeeds or ends the whole run. -/
  | stays (id : ModuleId) (m : Module) (result : Except Failure ModuleId)
    (hresult : result = .ok id ∨ ∃ f, result = .error (.fault f)) :
    Settled ⟨some m.name, result, some (id, m)⟩

namespace FileStep.Settled

variable {s : FileStep}

/-- A load leaves no module exactly if it fails with a problem. -/
theorem left?_eq_none_iff (h : s.Settled) :
    s.left? = none ↔ ∃ e, s.result = .error (.problem e) := by
  cases h with
  | failed name? e => simp
  | stays id m result hresult =>
    rcases hresult with rfl | ⟨f, rfl⟩
    · simp
    · simp

/-- A load that succeeds leaves its result. -/
theorem left?_of_ok (h : s.Settled) (id : ModuleId) (hok : s.result = .ok id) :
    ∃ m, s.left? = some (id, m) := by
  cases h with
  | failed name? e => cases hok
  | stays id' m result hresult =>
    cases hok
    rcases hresult with heq | ⟨f, hf⟩
    · cases heq
      exact ⟨m, rfl⟩
    · cases hf

/-- A load leaves a module of its name. -/
theorem name?_eq (h : s.Settled) {id : ModuleId} {m : Module} (hleft : s.left? = some (id, m)) :
    s.name? = some m.name := by
  cases h with
  | failed name? e => cases hleft
  | stays id' m' result hresult =>
    cases hleft
    rfl

end FileStep.Settled

/-- The private modules that loads left. -/
def PrivateModules.of (steps : List FileStep) : PrivateModules where
  loaded name id := ∃ s ∈ steps, s.name? = some name ∧ ∃ m, s.left? = some (id, m)
  kept := steps.filterMap FileStep.left?

/-- The private modules of a workspace are those that the loads left, the names of the loads
differ, and their numbers were used up. -/
structure Tracks (steps : List FileStep) (w : Workspace) : Prop where
  /-- The private modules are those that the loads left. -/
  holds : w.Holds (.of steps) w.nextLoad
  /-- The names of the loads differ. -/
  distinct : (steps.filterMap FileStep.name?).Nodup
  /-- The numbers of the loads were used up. -/
  numbered : ∀ s ∈ steps, ∀ name, s.name? = some name →
    ∃ number < w.nextLoad, ∃ file, name = privateName number file
  /-- Every load came to what it can come to. -/
  settled : ∀ s ∈ steps, s.Settled

section Track

variable {path : List Place} {steps : List FileStep} {w w' : Workspace} {t : FileTree}
  {source name : String}

/-- The name that a load gets has the next number. -/
theorem exists_of_nameFor? (h : w.nameFor? t source = some name) :
    ∃ file, name = privateName w.nextLoad file := by
  unfold Workspace.nameFor? at h
  split at h
  · cases h
    exact ⟨_, rfl⟩
  · cases h

theorem Tracks.start : Tracks [] { path := path } where
  holds := ⟨⟨nofun, by simp [PrivateModules.of, Table.find?], by simp [PrivateModules.of]⟩, rfl⟩
  distinct := List.nodup_nil
  numbered := by simp
  settled := by simp

/-- The name that a load gets is new. -/
theorem Tracks.ne_name (h : Tracks steps w) (hname : w.nameFor? t source = some name)
    {s : FileStep} (hs : s ∈ steps) : s.name? ≠ some name := by
  intro heq
  obtain ⟨number, hlt, file, rfl⟩ := h.numbered s hs name heq
  obtain ⟨other, hother⟩ := exists_of_nameFor? hname
  exact Nat.ne_of_lt hlt (privateName_inj hother)

theorem Tracks.not_loaded (h : Tracks steps w) (hname : w.nameFor? t source = some name)
    (id : ModuleId) : ¬ (PrivateModules.of steps).loaded name id := by
  rintro ⟨s, hs, heq, -⟩
  exact h.ne_name hname hs heq

/-- What a load does to the private modules that loads have left. -/
theorem Tracks.changes (h : Tracks steps w) (ht : t.SparesPrivate)
    (hsource : isFileSource source = true) :
    ∃ k' number', (PrivateModules.of steps).Changes w.nextLoad (w.nameFor? t source)
        ((loadModule t source).run w).1 k' number' ∧
      ((loadModule t source).run w).2.Holds k' number' := by
  rw [loadModule, if_pos hsource]
  exact loadFile_changes ht h.holds fun name => h.not_loaded

/-- A load that gets a name uses up a number. -/
theorem PrivateModules.Changes.number_le {k k' : PrivateModules} {number number' : Nat}
    {name? : Option String} {result : Except Failure ModuleId}
    (h : k.Changes number name? result k' number') :
    number ≤ number' ∧ ∀ name, name? = some name → number < number' := by
  cases h with
  | missing e => exact ⟨Nat.le_refl _, nofun⟩
  | _ => exact ⟨Nat.le_succ _, fun _ _ => Nat.lt_succ_self _⟩

/-- A load keeps the given modules, and what is loaded under all names but its own.  If it fails
with a problem, it keeps what is loaded under its own name too. -/
theorem PrivateModules.Changes.others {k k' : PrivateModules} {number number' : Nat}
    {name? : Option String} {result : Except Failure ModuleId}
    (h : k.Changes number name? result k' number') :
    k.kept ⊆ k'.kept ∧ ∀ name id, name? ≠ some name ∨ (∃ e, result = .error (.problem e)) →
      (k'.loaded name id ↔ k.loaded name id) := by
  cases h with
  | missing e => exact ⟨List.Subset.refl _, fun _ _ _ => Iff.rfl⟩
  | failed name e => exact ⟨List.Subset.refl _, fun _ _ _ => Iff.rfl⟩
  | stays name id m _ hname hresult =>
    refine ⟨List.subset_cons_self _ _, fun other otherId hother => ?_⟩
    have hne : other ≠ name := by
      rintro rfl
      obtain ⟨e, rfl⟩ := hother.resolve_left (absurd rfl)
      simp at hresult
    simp [PrivateModules.insert, hne]

/-- One more load, which leaves the private modules that it should. -/
theorem Tracks.concat (h : Tracks steps w) {s : FileStep} (hsettled : s.Settled)
    (hname : s.name? = w.nameFor? t source) {number : Nat}
    (hnumber : w.nextLoad ≤ number ∧ ∀ name, w.nameFor? t source = some name → w.nextLoad < number)
    (hholds : w'.Holds (.of (steps ++ [s])) number) : Tracks (steps ++ [s]) w' := by
  obtain rfl := hholds.number
  refine ⟨hholds, ?_, fun s' hs' name hname' => ?_, ?_⟩
  · rw [List.filterMap_append]
    cases hnew : s.name? with
    | none => simpa [hnew] using h.distinct
    | some name =>
      have hfresh : name ∉ steps.filterMap FileStep.name? := by
        intro hmem
        obtain ⟨s', hs', heq⟩ := List.mem_filterMap.mp hmem
        exact h.ne_name (hname ▸ hnew) hs' heq
      simpa [hnew] using List.Nodup.concat hfresh h.distinct
  · rcases List.mem_append.mp hs' with hs' | hs'
    · obtain ⟨n, hlt, file, hfile⟩ := h.numbered s' hs' name hname'
      exact ⟨n, Nat.lt_of_lt_of_le hlt hnumber.1, file, hfile⟩
    · cases List.mem_singleton.mp hs'
      rw [hname] at hname'
      exact ⟨w.nextLoad, hnumber.2 name hname', exists_of_nameFor? hname'⟩
  · intro s' hs'
    rcases List.mem_append.mp hs' with hs' | hs'
    · exact h.settled s' hs'
    · cases List.mem_singleton.mp hs'
      exact hsettled

theorem PrivateModules.of_concat_none (steps : List FileStep) (name? : Option String)
    (result : Except Failure ModuleId) :
    PrivateModules.of (steps ++ [⟨name?, result, none⟩]) = .of steps := by
  simp [PrivateModules.of]

theorem PrivateModules.of_concat_some {steps : List FileStep} {name : String}
    (hnew : ∀ s ∈ steps, s.name? ≠ some name) (result : Except Failure ModuleId) (id : ModuleId)
    (m : Module) (other : String) (otherId : ModuleId) :
    ((PrivateModules.of steps).insert name id).loaded other otherId ↔
      (PrivateModules.of (steps ++ [⟨some name, result, some (id, m)⟩])).loaded other otherId := by
  by_cases heq : other = name
  · subst heq
    have hinsert : ((PrivateModules.of steps).insert other id).loaded other otherId ↔
        otherId = id := by simp [PrivateModules.insert]
    rw [hinsert]
    constructor
    · rintro rfl
      exact ⟨_, List.mem_append_right _ List.mem_cons_self, rfl, m, rfl⟩
    · rintro ⟨s, hs, hname, m', hm'⟩
      rcases List.mem_append.mp hs with hs | hs
      · exact absurd hname (hnew s hs)
      · cases List.mem_singleton.mp hs
        cases hm'
        rfl
  · simp [PrivateModules.of, PrivateModules.insert, heq, Ne.symm heq, or_and_right, exists_or]

/-- What a load leaves under its name can be read off the private modules after it. -/
theorem Workspace.Holds.module?_eq {k : PrivateModules} {number : Nat} (h : w.Holds k number)
    (hname : IsPrivate name) :
    (∀ id m, (id, m) ∈ k.kept → k.loaded name id → w.module? name = some (id, m)) ∧
      ((∀ id, ¬ k.loaded name id) → w.module? name = none) := by
  refine ⟨fun id m hkept hloaded => ?_, fun hnone => ?_⟩
  · have hid : w.program.loaded.find? name = some id := (h.program.loaded name id hname).mpr hloaded
    simp [module?, hid, Program.moduleAt, (h.program.kept (id, m) hkept).2]
  · have hid : w.program.loaded.find? name = none :=
      Option.eq_none_iff_forall_ne_some.mpr fun id heq =>
        hnone id ((h.program.loaded name id hname).mp heq)
    simp [module?, hid]

theorem isPrivate_of_nameFor? (h : w.nameFor? t source = some name) : IsPrivate name := by
  obtain ⟨file, rfl⟩ := exists_of_nameFor? h
  exact isPrivate_privateName _ _

/-- A load leaves the private modules as its step says. -/
theorem Tracks.load (h : Tracks steps w) (ht : t.SparesPrivate)
    (hsource : isFileSource source = true) :
    Tracks (steps ++ [.of w t source]) ((loadModule t source).run w).2 := by
  obtain ⟨k', number', hchanges, hholds⟩ := h.changes ht hsource
  have hnumber := hchanges.number_le
  have hof : FileStep.of w t source = ⟨w.nameFor? t source, ((loadModule t source).run w).1,
      (w.nameFor? t source).bind ((loadModule t source).run w).2.module?⟩ := rfl
  generalize hname? : w.nameFor? t source = name? at hchanges hof
  generalize ((loadModule t source).run w).1 = result at hchanges hof
  generalize ((loadModule t source).run w).2 = w' at hholds hof ⊢
  cases hchanges with
  | missing e =>
    have hstep : FileStep.of w t source = ⟨none, .error (.problem e), none⟩ := hof
    rw [hstep]
    refine h.concat (.failed none e) hname?.symm hnumber ?_
    rwa [PrivateModules.of_concat_none]
  | failed name e =>
    have hstep : FileStep.of w t source = ⟨some name, .error (.problem e), none⟩ := by
      rw [hof, Option.bind_some,
        (hholds.module?_eq (isPrivate_of_nameFor? hname?)).2 (h.not_loaded hname?)]
    rw [hstep]
    refine h.concat (.failed (some name) e) hname?.symm hnumber ?_
    rwa [PrivateModules.of_concat_none]
  | stays name id m result hname hresult =>
    subst hname
    have hstep : FileStep.of w t source = ⟨some m.name, result, some (id, m)⟩ := by
      rw [hof, Option.bind_some, (hholds.module?_eq (isPrivate_of_nameFor? hname?)).1 id m
        List.mem_cons_self (PrivateModules.insert_loaded _ _ _)]
    rw [hstep]
    refine h.concat (.stays id m result hresult) hname?.symm hnumber
      ⟨hholds.program.congr ?_ ?_, hholds.number⟩
    · simp [PrivateModules.of]
    · exact fun other otherId _ =>
        PrivateModules.of_concat_some (fun _ => h.ne_name hname?) result id m other otherId

/-- Whatever loads come one after the other, the workspace has the private modules that they
left. -/
theorem FileLoads.tracks (h : FileLoads path steps w) : Tracks steps w := by
  induction h with
  | start => exact .start
  | load before ht hsource ih => exact ih.load ht hsource

/-- The names of loads tell them apart. -/
theorem Tracks.eq_of_name (h : Tracks steps w) {s s' : FileStep} (hs : s ∈ steps) (hs' : s' ∈ steps)
    (hname : s.name? = some name) (hname' : s'.name? = some name) : s = s' := by
  by_contra hne
  have hpairs := List.pairwise_filterMap.mp h.distinct
  have hsymm : Std.Symm fun s s' : FileStep =>
      ∀ b, s.name? = some b → ∀ b', s'.name? = some b' → b ≠ b' :=
    ⟨fun _ _ hab b hb b' hb' => (hab b' hb' b hb).symm⟩
  exact hpairs.forall hs hs' hne name hname name hname' rfl

/-- Under private names exactly the modules of the loads that succeeded are loaded, if and only if
no load ended the whole run. -/
theorem Tracks.only_successes_iff (h : Tracks steps w) :
    (∀ name id, IsPrivate name → (w.program.loaded.find? name = some id ↔
      ∃ s ∈ steps, s.name? = some name ∧ s.result = .ok id)) ↔
    ∀ s ∈ steps, ∀ f, s.result ≠ .error (.fault f) := by
  constructor
  · intro honly s hs f hfault
    cases hsettled : h.settled s hs with
    | failed name? e => cases hfault
    | stays id m result hresult =>
      have hleft : (PrivateModules.of steps).loaded m.name id := ⟨_, hs, rfl, m, rfl⟩
      have hprivate := (h.holds.program.kept (id, m) (List.mem_filterMap.mpr ⟨_, hs, rfl⟩)).1
      obtain ⟨s', hs', hname', hok⟩ := (honly m.name id hprivate).mp
        ((h.holds.program.loaded m.name id hprivate).mpr hleft)
      rw [← h.eq_of_name hs hs' rfl hname', hfault] at hok
      cases hok
  · intro hnone name id hprivate
    rw [h.holds.program.loaded name id hprivate]
    refine exists_congr fun s => and_congr_right fun hs => and_congr_right fun hname => ?_
    cases h.settled s hs with
    | failed name? e => simp
    | stays id' m result hresult =>
      obtain rfl := hresult.resolve_right fun ⟨f, hf⟩ => hnone _ hs f hf
      simp [eq_comm]

/-- Loads of files do not disturb each other, but a load that ends the whole run is not taken out.

The loads get different names.  Under private names exactly the modules that the loads left are
loaded, each as it was left, and the classes of a module find the names that it bound.  A load
leaves none if it fails with a problem, and its own if it succeeds or ends the whole run.  So the
modules are those of the loads that succeeded if and only if no load ended the whole run.  One
more load, whatever becomes of it, changes nothing but what is loaded under its own name, and if it
fails with a problem, not even this. -/
theorem file_loads_stay_apart (h : FileLoads path steps w) :
    (steps.filterMap FileStep.name?).Nodup ∧
    (∀ name id, IsPrivate name → (w.program.loaded.find? name = some id ↔
      ∃ s ∈ steps, s.name? = some name ∧ ∃ m, s.left? = some (id, m))) ∧
    (∀ s ∈ steps, (s.left? = none ↔ ∃ e, s.result = .error (.problem e)) ∧
      (∀ id, s.result = .ok id → ∃ m, s.left? = some (id, m)) ∧
      ∀ id m, s.left? = some (id, m) →
        s.name? = some m.name ∧ IsPrivate m.name ∧ w.program.modules[id]? = some m ∧
        ∀ c d, d.module = m.name → (w.program.scopeOf c d).bindings = m.bindings) ∧
    ((∀ name id, IsPrivate name → (w.program.loaded.find? name = some id ↔
      ∃ s ∈ steps, s.name? = some name ∧ s.result = .ok id)) ↔
      ∀ s ∈ steps, ∀ f, s.result ≠ .error (.fault f)) ∧
    ∀ t source result w', FileTree.SparesPrivate t → isFileSource source = true →
      (loadModule t source).run w = (result, w') →
      (∀ name, IsPrivate name →
        w.nameFor? t source ≠ some name ∨ (∃ e, result = .error (.problem e)) →
        w'.program.loaded.find? name = w.program.loaded.find? name) ∧
      ∀ s ∈ steps, ∀ id m, s.left? = some (id, m) → w'.program.modules[id]? = some m := by
  have htracks := h.tracks
  have hkept : ∀ s ∈ steps, ∀ id m, s.left? = some (id, m) →
      (id, m) ∈ (PrivateModules.of steps).kept :=
    fun s hs id m hm => List.mem_filterMap.mpr ⟨s, hs, hm⟩
  refine ⟨htracks.distinct, htracks.holds.program.loaded, fun s hs => ⟨?_, ?_, ?_⟩,
    htracks.only_successes_iff, ?_⟩
  · exact (htracks.settled s hs).left?_eq_none_iff
  · exact (htracks.settled s hs).left?_of_ok
  · intro id m hm
    obtain ⟨hprivate, hmodule⟩ := htracks.holds.program.kept _ (hkept s hs id m hm)
    have hname := (htracks.settled s hs).name?_eq hm
    refine ⟨hname, hprivate, hmodule, fun c d hd => ?_⟩
    have hloaded : w.program.loaded.find? d.module = some id := by
      rw [hd]
      exact (htracks.holds.program.loaded _ _ hprivate).mpr ⟨s, hs, hname, m, hm⟩
    show ((w.program.loaded.find? d.module).map w.program.namespaceAt).getD [] = m.bindings
    rw [hloaded, Option.map_some, Option.getD_some, Program.namespaceAt, Program.moduleAt, hmodule]
    rfl
  · intro t source result w' ht hsource hrun
    obtain ⟨k', number', hchanges, hholds⟩ := htracks.changes ht hsource
    rw [hrun] at hchanges hholds
    obtain ⟨hsub, hsame⟩ := hchanges.others
    refine ⟨fun name hprivate hother => ?_, fun s hs id m hm => ?_⟩
    · refine Option.ext fun id => ?_
      rw [hholds.program.loaded name id hprivate, htracks.holds.program.loaded name id hprivate]
      exact hsame name id hother
    · exact (hholds.program.kept _ (hsub (hkept s hs id m hm))).2

end Track

/-! ## Loads that end a run -/

/-- A file whose name starts with a digit and a bar, one that fails, and one that ends the run. -/
def shopFiles : FileTree where
  base := ["work"]
  entries :=
    [(["work", "2_shop.py"], .file
      [⟨"Order", .declare ⟨true, "Order", [], [], [⟨"item", .text "Item", none⟩]⟩⟩,
        ⟨"Item", .declare
          ⟨true, "Item", [], [], [⟨"price", .object (.cls (.builtin .int)), none⟩]⟩⟩]),
      (["work", "bad.py"], .file [⟨"Part", .value .nothing⟩, ⟨"", .raise "RuntimeError" "boom"⟩]),
      (["work", "exit.py"], .file [⟨"", .raise "SystemExit" "bye"⟩])]

/-- The workspace after loads of these files, the last one first. -/
def shopAfter : List String → Workspace
  | [] => { path := [["work"]] }
  | source :: before => ((loadModule shopFiles source).run (shopAfter before)).2

/-- What became of these loads. -/
def shopSteps : List String → List FileStep
  | [] => []
  | source :: before => shopSteps before ++ [.of (shopAfter before) shopFiles source]

theorem shop_fileLoads {sources : List String}
    (h : ∀ source ∈ sources, isFileSource source = true) :
    FileLoads [["work"]] (shopSteps sources) (shopAfter sources) := by
  induction sources with
  | nil => exact .start
  | cons source before ih =>
    exact .load (ih fun other hother => h other (List.mem_cons_of_mem _ hother)) (by decide)
      (h source List.mem_cons_self)

/-- One file is loaded twice, with a failure, a file that is not there and the end of a run in
between.  Besides the modules of the two loads that succeeded, that of the load that ended the run
is there. -/
theorem shop_loads :
    let sources := ["/work/2_shop.py", "exit.py", "gone.py", "bad.py", "2_shop.py"]
    (shopSteps sources).map FileStep.name? =
      [some "_py2elm_source_1_2_shop", some "_py2elm_source_2_bad", none,
        some "_py2elm_source_3_exit", some "_py2elm_source_4_2_shop"] ∧
    (shopSteps sources).map FileStep.result =
      [.ok 0, .error (.ofProblem (.badFile "bad.py" (some (.exception "RuntimeError" "boom")))),
        .error (.ofProblem (.noFile "gone.py")),
        .error (.fault (.raised (.exception "SystemExit" "bye"))), .ok 3] ∧
    ((shopSteps sources).filterMap FileStep.name?).Nodup ∧
    (shopAfter sources).program.loaded.find? "_py2elm_source_3_exit" = some 2 ∧
    ¬ ∀ name id, IsPrivate name → ((shopAfter sources).program.loaded.find? name = some id ↔
      ∃ s ∈ shopSteps sources, s.name? = some name ∧ s.result = .ok id) := by
  intro sources
  have hresults : (shopSteps sources).map FileStep.result =
      [.ok 0, .error (.ofProblem (.badFile "bad.py" (some (.exception "RuntimeError" "boom")))),
        .error (.ofProblem (.noFile "gone.py")),
        .error (.fault (.raised (.exception "SystemExit" "bye"))), .ok 3] := by
    decide +kernel
  have hloads : FileLoads [["work"]] (shopSteps sources) (shopAfter sources) :=
    shop_fileLoads (by decide)
  obtain ⟨hnodup, -, -, honly, -⟩ := file_loads_stay_apart hloads
  refine ⟨by decide +kernel, hresults, hnodup, by decide +kernel, fun h => ?_⟩
  obtain ⟨s, hs, hfault⟩ : ∃ s ∈ shopSteps sources,
      s.result = .error (.fault (.raised (.exception "SystemExit" "bye"))) :=
    List.mem_map.mp (hresults ▸ by decide)
  exact honly.mp h s hs _ hfault

end ElmCodec
