import ElmCodec.Load.Workspace
import ElmCodec.Resolve.Exported

/-!
# Sources

A source is a file or the dotted name of a module.  A file is loaded as a private
module each time, under a name that no other load gets: the names are numbered.
Its directory becomes the first in which modules are sought, unless it is among
them.  A file that is not there changes nothing, while a file that fails has used
up its number and has put its directory in place.  Its module is loaded no more, but
if it ends the whole run the module stays.
-/

namespace ElmCodec

open Source (Annot ClassId ModuleId)

/-- A step of work on sources.  It may fail, and it keeps its state then too. -/
abbrev SourceM := ExceptT Failure (StateM Workspace)

/-- The start of the names of private modules. -/
def privateStem : String := "_py2elm_source"

/-- The name of the private module for a file. -/
def privateName (number : Nat) (file : String) : String :=
  privateStem ++ "_" ++ toString number ++ "_" ++ fileStem file

/-- Puts a directory first among those in which modules are sought. -/
def Workspace.withDirectory (w : Workspace) (dir : Place) : Workspace :=
  if w.path.contains dir then w else { w with path := dir :: w.path }

/-- Whether a source is a file. -/
def isFileSource (source : String) : Bool :=
  sourceEnding.toList.isSuffixOf source.toList || source.toList.contains '/'

/-- A step of loading as a step of work on sources.  What ends the whole run is not
reported. -/
def SourceM.ofLoad {α : Type} (step : LoadM α) (problem : Source.Raised → Problem) : SourceM α :=
  ExceptT.mk do
    match ← step.run with
    | .ok a => return .ok a
    | .error e => return .error (if e.endsRun then .fault (.raised e) else .ofProblem (problem e))

/-- Loads a source file as a private module. -/
def loadFile (t : FileTree) (source : String) : SourceM ModuleId := do
  let place := t.place source
  match t.content? place with
  | none => throw (.ofProblem (.noFile source))
  | some content =>
    let file := place.getLastD ""
    let name := privateName (← get).nextLoad file
    modify fun w => { w.withDirectory place.dropLast with nextLoad := w.nextLoad + 1 }
    if !sourceEnding.toList.isSuffixOf file.toList then
      throw (.ofProblem (.badFile source none))
    let dir := if file = initialFile then some place.dropLast else none
    let module := fileModule name place dir
    let id ← SourceM.ofLoad (enterModule (importModule t) Source.Raised.endsRun module content)
      fun e => .badFile source (some e)
    modify fun w => { w with loadedFiles := w.loadedFiles ++ [(name, place)] }
    return id

/-- Loads a source. -/
def loadModule (t : FileTree) (source : String) : SourceM ModuleId :=
  if isFileSource source then loadFile t source
  else SourceM.ofLoad (importModule t source) fun e => .badModule source e

/-- The object that a module binds to a name. -/
def Source.Program.findDefinition (p : Source.Program) (m : ModuleId) (name : String) :
    Except Failure Annot :=
  match p.moduleAttribute? m name with
  | some a => pure a
  | none => throw (.ofProblem (.noDefinition (p.moduleName m) name))

/-- Loads a source and returns the record class that it binds to a name. -/
def loadRecord (t : FileTree) (source name : String) : SourceM ClassId := do
  let m ← loadModule t source
  let p := (← get).program
  match p.findDefinition m name >>= p.ensureRecord with
  | .ok id => return id
  | .error e => throw e

/-- The names of the private modules, in order. -/
def Workspace.privateModules (w : Workspace) : List String :=
  (w.program.loaded.keys.filter fun n => privateStem.toList.isPrefixOf n.toList).mergeSort
    fun a b => a ≤ b

end ElmCodec
