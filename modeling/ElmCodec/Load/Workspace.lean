import ElmCodec.Load.FileTree
import ElmCodec.Source.Attribute

/-!
# Loading modules

A workspace holds the loaded program, the directories in which modules are sought,
and the number for the next source file.

A module is imported by its dotted name.  Its parents are imported first, and a
module that is loaded is not loaded again.  In a directory, a directory with an
initial file comes before a file of the name, and if no directory of the search
has either, directories of the name together are a package without definitions.
These directories are sought again when the search has got others.

A module is entered under its name before its definitions are carried out, and
taken out again if one of them fails.  So a module that imports itself through
others finds what it has defined so far.  When it is complete, its parent binds its
last name to it.

Imports go at most as deep as there are names on the way to what is imported, since
each level carries out the definitions of a module that was not entered before.
-/

namespace ElmCodec

open Source (Annot Program Definition Module ModuleId Namespace Raised Statement)

/-- The state of loading. -/
structure Workspace where
  /-- The loaded modules and their classes. -/
  program : Program := {}
  /-- The directories in which modules are sought, first one first. -/
  path : List Place := []
  /-- The number for the next source file. -/
  nextLoad : Nat := 1
  /-- The source files loaded as private modules, with the names of these. -/
  loadedFiles : List (String × Place) := []

/-- A step of loading.  It may fail, and it keeps its state then too. -/
abbrev LoadM := ExceptT Raised (StateM Workspace)

/-- How a module is imported by its dotted name. -/
abbrev Importer := String → LoadM ModuleId

namespace LoadM

/-- The program loaded so far. -/
def program : LoadM Program := do return (← get).program

/-- Changes the program. -/
def update (f : Program → Program) : LoadM Unit :=
  modify fun w => { w with program := f w.program }

/-- A step on the program as a step of loading. -/
def ofProgram {α : Type} (step : Source.ProgramM α) : LoadM α :=
  ExceptT.mk fun w =>
    let (result, p) := step.run w.program
    (result, { w with program := p })

/-- The module that is loaded under a name. -/
def loaded? (name : String) : LoadM (Option ModuleId) := do return (← program).loaded.find? name

/-- Adds a module and loads it under its name. -/
def add (m : Module) : LoadM ModuleId := do
  let (p, id) := (← program).addModule m
  update fun _ => p
  return id

end LoadM

/-! ## Carrying out definitions -/

/-- What a statement makes, given how modules are imported. -/
def Source.Statement.execute (importModule : Importer) (m : ModuleId) (s : Statement) :
    LoadM Annot := do
  match s with
  | .importFrom source name =>
    let found ← importModule source
    match (← LoadM.program).moduleAttribute? found name with
    | some a => return a
    | none => throw (.noSuchName name source)
  | s => LoadM.ofProgram (Source.ProgramM.perform m s)

/-- Carries out definitions in order. -/
def executeAll (importModule : Importer) (m : ModuleId) : List Definition → LoadM Unit
  | [] => pure ()
  | d :: rest => do
    let a ← d.statement.execute importModule m
    LoadM.update (·.bind m d.target a)
    executeAll importModule m rest

/-- Enters a module and carries out its definitions.  If one fails, its name is
loaded no more, unless the failure lets it stay. -/
def enterModule (importModule : Importer) (stays : Raised → Bool) (m : Module)
    (content : List Definition) : LoadM ModuleId := do
  let id ← LoadM.add m
  tryCatch (executeAll importModule id content) fun e => do
    LoadM.update fun p => if stays e then p else p.unload m.name
    throw e
  return id

/-! ## New modules -/

/-- The bindings of a new module. -/
def newBindings (name : String) (package : Option String) (more : Namespace) : Namespace :=
  let nothing : Annot := .value .nothing
  [("__name__", .text name), ("__doc__", nothing),
    ("__package__", package.elim nothing .text)] ++ more

/-- The part of a dotted name before its last dot, empty if there is none. -/
def parentName (name : String) : String :=
  Text.joinWith "." ((Text.pieces '.' name.toList).map String.ofList).dropLast

/-- The name of a file without its ending.  Dots at the start belong to the name. -/
def fileStem (name : String) : String :=
  match (Text.pieces '.' name.toList).reverse with
  | [] | [_] => name
  | _ :: before =>
    let stem := List.intercalate ['.'] before.reverse
    if stem.all (· == '.') then name else String.ofList stem

/-- The path of the compiled form of a source file. -/
def cachedPath (place : Place) : String :=
  Place.text (place.dropLast ++
    ["__pycache__", fileStem (place.getLastD "") ++ ".cpython-311.pyc"])

/-- A module with a file, which is a package if its parts are in a directory. -/
def fileModule (name : String) (place : Place) (dir : Option Place) : Module :=
  let package := if dir.isSome then name else parentName name
  let path : Namespace := match dir with
    | some dir => [("__path__", .value (.list [.text dir.text]))]
    | none => []
  { name := name
    file := some place.text
    bindings := newBindings name (some package) (path ++
      [("__file__", .text place.text), ("__cached__", .text (cachedPath place))]) }

/-- The object that lists the directories of a package without a file. -/
def directoryList (dirs : List Place) : Annot :=
  .object 0 "_NamespacePath"
    ("_NamespacePath([" ++ Text.joinWith ", " (dirs.map fun d => Text.quoted d.text) ++ "])")
    true

/-- A package that is some directories. -/
def directoryModule (name : String) (dirs within : List Place) : Module :=
  { name := name
    bindings := newBindings name (some name)
      [("__path__", directoryList dirs), ("__file__", .value .nothing)]
    gathered := some ⟨dirs, within⟩ }

/-! ## Finding modules -/

/-- What a module is found as. -/
inductive Found where
  /-- A directory with an initial file. -/
  | package (dir : Place)
  /-- A file. -/
  | file (place : Place)
  /-- Directories without an initial file. -/
  | directories (dirs : List Place)

/-- The ending of source files. -/
def sourceEnding : String := ".py"

/-- The initial file of a package. -/
def initialFile : String := "__init__" ++ sourceEnding

namespace FileTree

/-- Seeks a module in one directory. -/
def findIn? (t : FileTree) (name : String) (dir : Place) : Option Found :=
  if t.isFile (dir ++ [name, initialFile]) then some (.package (dir ++ [name]))
  else if t.isFile (dir ++ [name ++ sourceEnding]) then some (.file (dir ++ [name ++ sourceEnding]))
  else none

/-- Seeks a module in several directories. -/
def find? (t : FileTree) (dirs : List Place) (name : String) : Option Found :=
  if name = "" then none
  else
    match dirs.findSome? (t.findIn? name) with
    | some found => some found
    | none =>
      match (dirs.map (· ++ [name])).filter t.isDirectory with
      | [] => none
      | found => some (.directories found)

end FileTree

/-! ## Directories of packages -/

/-- The directories that a module names for its parts. -/
def listedDirectories? (t : FileTree) (m : Module) : Option (List Place) :=
  match m.bindings.find? "__path__" with
  | some (.value (.list items)) | some (.value (.tuple items)) =>
    some (items.filterMap fun v =>
      match v with
      | .text s => some (t.place s)
      | _ => none)
  | some _ => some []
  | none => none

/-- The directories of a package without a file, sought again if its parent is sought
elsewhere now. -/
def gatheredAgain (t : FileTree) (g : Source.Gathered) (name : String) (within : List Place) :
    Source.Gathered :=
  if within = g.within then g
  else
    match t.find? within name with
    | some (.directories dirs) => ⟨dirs, within⟩
    | _ => { g with within := within }

/-- The directories in which the parts of a module are sought, for a dotted name of
at most so many parts. -/
def partDirectories? (t : FileTree) : Nat → String → LoadM (Option (List Place))
  | 0, _ => return none
  | depth + 1, name => do
    match ← LoadM.loaded? name with
    | none => return none
    | some id =>
      let m := (← LoadM.program).moduleAt id
      match m.gathered with
      | none => return listedDirectories? t m
      | some g =>
        let parent := parentName m.name
        let within ← if parent = "" then pure (some (← get).path) else partDirectories? t depth parent
        let last := Program.lastPart m.name
        let g := gatheredAgain t g last (within.getD [])
        LoadM.update (·.modifyModule id fun m => { m with
          gathered := some g
          bindings := m.bindings.insert "__path__" (directoryList g.dirs) })
        return some g.dirs

/-! ## Importing modules -/

/-- A module on the way to a dotted name: its parent, its last name and its full
name. -/
structure DottedStep where
  /-- The full name of the parent. -/
  parent : Option String
  /-- The last name. -/
  last : String
  /-- The full name. -/
  full : String

/-- The names between the dots of a dotted name. -/
def dottedParts (name : String) : List String := (Text.pieces '.' name.toList).map String.ofList

/-- The modules on the way to a dotted name, from a parent down. -/
def dottedSteps (parent : Option String) : List String → List DottedStep
  | [] => []
  | last :: rest =>
    let full := parent.elim last (· ++ "." ++ last)
    ⟨parent, last, full⟩ :: dottedSteps (some full) rest

/-- The steps after the last one that is loaded. -/
def remainingSteps (p : Program) (steps : List DottedStep) : List DottedStep :=
  (steps.reverse.takeWhile fun s => !p.loaded.contains s.full).reverse

/-- The directories in which a module is sought. -/
def searchDirectories (t : FileTree) (s : DottedStep) : LoadM (List Place) := do
  match s.parent with
  | none => return (← get).path
  | some parent =>
    match ← partDirectories? t (dottedParts parent).length parent with
    | some dirs => return dirs
    | none => throw (.notPackage s.full parent)

/-- Makes the module that was found. -/
def enterFound (t : FileTree) (importModule : Importer) (name : String) (within : List Place) :
    Found → LoadM ModuleId
  | .directories dirs => LoadM.add (directoryModule name dirs within)
  | .package dir =>
    let place := dir ++ [initialFile]
    enterModule importModule (fun _ => false) (fileModule name place (some dir))
      ((t.content? place).getD [])
  | .file place =>
    enterModule importModule (fun _ => false) (fileModule name place none)
      ((t.content? place).getD [])

/-- Binds the last name of a module in its parent. -/
def bindInParent (s : DottedStep) (id : ModuleId) : LoadM Unit := do
  match s.parent with
  | none => return
  | some parent =>
    if let some owner ← LoadM.loaded? parent then
      LoadM.update (·.bind owner s.last (.module id))

/-- Imports a module whose parent is loaded. -/
def importStep (t : FileTree) (importModule : Importer) (s : DottedStep) : LoadM ModuleId := do
  match ← LoadM.loaded? s.full with
  | some id => return id
  | none =>
    let dirs ← searchDirectories t s
    match t.find? dirs s.last with
    | none => throw (.noModule s.full)
    | some found =>
      let id ← enterFound t importModule s.full dirs found
      bindInParent s id
      return id

/-- Imports modules one after the other and returns the last one. -/
def importSteps (t : FileTree) (importModule : Importer) (last : ModuleId) :
    List DottedStep → LoadM ModuleId
  | [] => pure last
  | s :: rest => do
    let id ← importStep t importModule s
    importSteps t importModule id rest

/-- Imports a module by its dotted name, at most so many levels deep. -/
def importWithin (t : FileTree) : Nat → Importer
  | depth, name => do
    if name = "" then throw .emptyName
    if name.toList.head? = some '.' then throw (.relativeName name)
    match ← LoadM.loaded? name with
    | some id => return id
    | none =>
      match depth with
      | 0 => throw (.noModule name)
      | depth + 1 =>
        let remaining := remainingSteps (← LoadM.program) (dottedSteps none (dottedParts name))
        importSteps t (importWithin t depth) 0 remaining

/-- The names on the way to everything that is imported. -/
def importDepth (t : FileTree) (name : String) : Nat :=
  ((name :: t.importedNames).map dottedParts).flatten.length + 1

/-- Imports a module by its dotted name. -/
def importModule (t : FileTree) (name : String) : LoadM ModuleId :=
  importWithin t (importDepth t name) name

/-- The module after its definitions, where nothing else can be imported. -/
def runModule (name : String) (content : List Definition) : LoadM ModuleId :=
  let bindings := newBindings name none
    [("__spec__", .value .nothing), ("__loader__", .value .nothing)]
  enterModule (importModule ⟨[], []⟩) (fun _ => false) { name := name, bindings := bindings }
    content

end ElmCodec
