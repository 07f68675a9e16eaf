import ElmCodec.Source.Lineage
import ElmCodec.Source.Memory
import ElmCodec.Table
import ElmCodec.Tag

/-!
# Programs

A program holds the modules that were made and the classes that they declared.
Both are told apart by their places, so two classes with the same name stay
different, and so do two modules.  A table says which module is loaded under a
name.

A class is a record if it, or an ancestor, was declared as one.  The fields of a
declared record are collected from its ancestors, the farthest first, and then
from its own annotations.  A field that is declared again keeps its position and
takes the new declaration.  Annotations that declare no field, such as class
variables, hide a field of the same name and are left out in the end.

Two things about the hints of a class are not followed here, and a program may say
them: what evaluation remembers when they are asked for, which hints that were asked
for before may have changed, and what the references stand for that are not read.
Loads leave both open.
-/

namespace ElmCodec.Source

/-- How a class was declared. -/
inductive ClassKind where
  /-- As a record. -/
  | record
  /-- As a class with annotations. -/
  | plain
  /-- As an enumeration. -/
  | enumeration
  /-- As a protocol. -/
  | protocol
deriving DecidableEq

/-- What an annotation of a class declares. -/
inductive Role where
  /-- A field. -/
  | field
  /-- A class variable. -/
  | classVar
  /-- An argument of the initialisation alone. -/
  | initVar
deriving DecidableEq

/-- An annotation of a class. -/
structure FieldDecl where
  /-- The name that is annotated. -/
  name : String
  /-- The annotation as it was written. -/
  type : Annot
  /-- The metadata in the place of a tag. -/
  tag : Option TagValue := none
  /-- What the annotation declares. -/
  role : Role := .field

/-- A type variable by its number and name. -/
abbrev Variable := Nat × String

/-- A declared class. -/
structure ClassDecl where
  /-- The declared name. -/
  name : String
  /-- The name of the module that declared it. -/
  module : String
  /-- How it was declared. -/
  kind : ClassKind
  /-- The class and its ancestors, in the order of search. -/
  lineage : List ClassRef
  /-- Its own annotations. -/
  annotations : List FieldDecl := []
  /-- The fields it has as a record, with those that declare none. -/
  collected : List FieldDecl := []
  /-- The type variables it can be applied to arguments for. -/
  parameters : List Variable := []
  /-- The members of an enumeration with their numbers, in order. -/
  members : Table String Nat := []

/-- The objects bound to names in a module. -/
abbrev Namespace := Table String Annot

/-- The directories that together are a package. -/
structure Gathered where
  /-- The directories. -/
  dirs : List (List String)
  /-- The directories in which they were found. -/
  within : List (List String)

/-- A module. -/
structure Module where
  /-- The name under which it was made. -/
  name : String
  /-- The absolute path of its file, or else where it comes from. -/
  file : Option String := none
  /-- Its bindings, in the order in which the names came in. -/
  bindings : Namespace := []
  /-- The directories that it is, if it has no file. -/
  gathered : Option Gathered := none

/-- What the hints of a class find around a program. -/
structure Surroundings where
  /-- What evaluation remembers when they are asked for. -/
  memory : Memory
  /-- What the references that are not read stand for, by their texts. -/
  given : Namespace := []

/-- The modules and classes that were made. -/
structure Program where
  /-- The declared classes, by their places. -/
  classes : List ClassDecl := []
  /-- The modules, by their places. -/
  modules : List Module := []
  /-- The loaded modules by name. -/
  loaded : Table String ModuleId := []
  /-- What evaluation remembers. -/
  memory : Memory := {}
  /-- What the hints of some classes find around the program. -/
  surroundings : Table ClassId Surroundings := []

namespace Program

/-- The declaration of a class. -/
def classAt? (p : Program) (id : ClassId) : Option ClassDecl := p.classes[id]?

/-- The class and its ancestors, in the order of search. -/
def lineage (p : Program) (id : ClassId) : List ClassRef :=
  (p.classAt? id).elim [] ClassDecl.lineage

/-- The declared classes among the class and its ancestors, in the order of search. -/
def declaredLineage (p : Program) (id : ClassId) : List ClassDecl :=
  (p.lineage id).filterMap fun c =>
    match c with
    | .declared id => p.classAt? id
    | _ => none

/-- What the hints of a class find.  Where nothing is said they find what evaluation
remembers after the loads. -/
def surroundingsOf (p : Program) (id : ClassId) : Surroundings :=
  (p.surroundings.find? id).getD { memory := p.memory }

/-! ## Modules -/

/-- A module by its place. -/
def moduleAt (p : Program) (m : ModuleId) : Module := p.modules[m]?.getD { name := "" }

/-- The bindings of a module. -/
def namespaceAt (p : Program) (m : ModuleId) : Namespace := (p.moduleAt m).bindings

/-- The bindings of the module that is loaded under a name. -/
def namespace? (p : Program) (name : String) : Option Namespace :=
  (p.loaded.find? name).map p.namespaceAt

/-- The name that a module gives itself. -/
def moduleName (p : Program) (m : ModuleId) : String :=
  match (p.namespaceAt m).find? "__name__" with
  | some (.value (.text s)) => s
  | some (.value v) => v.shown
  | _ => ""

/-- Changes a module. -/
def modifyModule (p : Program) (m : ModuleId) (f : Module → Module) : Program :=
  { p with modules := p.modules.modify m f }

/-- Binds a name in a module. -/
def bind (p : Program) (m : ModuleId) (name : String) (a : Annot) : Program :=
  p.modifyModule m fun module => { module with bindings := module.bindings.insert name a }

/-- The program with one more module, which is loaded under its name. -/
def addModule (p : Program) (module : Module) : Program × ModuleId :=
  let m := p.modules.length
  ({ p with modules := p.modules ++ [module], loaded := p.loaded.insert module.name m }, m)

/-- The program without a module of a name. -/
def unload (p : Program) (name : String) : Program := { p with loaded := p.loaded.erase name }

/-! ## Records -/

/-- The first class of the lineage that was declared as a record. -/
def firstRecord? (p : Program) (id : ClassId) : Option ClassDecl :=
  (p.declaredLineage id).find? fun d => d.kind == .record

/-- Whether a class is a record. -/
def isRecordClass (p : Program) (id : ClassId) : Bool := (p.firstRecord? id).isSome

/-- Whether an annotation is a class that is a record. -/
def isRecord (p : Program) : Annot → Bool
  | .cls (.declared id) => p.isRecordClass id
  | _ => false

/-- The fields of a record class. -/
def fields? (p : Program) (id : ClassId) : Option (List FieldDecl) :=
  (p.firstRecord? id).map fun d => d.collected.filter fun f => f.role == .field

/-- Fields by name, where a field that comes in again keeps its position. -/
def mergeFields (table : Table String FieldDecl) (fields : List FieldDecl) :
    Table String FieldDecl :=
  table.insertAll (fields.map fun f => (f.name, f))

/-- The fields that a class has from the records among its ancestors. -/
def collectedOf (p : Program) : ClassRef → List FieldDecl
  | .declared id => (p.firstRecord? id).elim [] ClassDecl.collected
  | _ => []

/-- The fields that a class declared as a record has, from its ancestors and its
own annotations. -/
def collect (p : Program) (ancestors : List ClassRef) (own : List FieldDecl) : List FieldDecl :=
  let inherited := ancestors.reverse.foldl
    (fun table c => mergeFields table (p.collectedOf c)) []
  (mergeFields inherited own).map Prod.snd

/-- The place of the next declared class. -/
def nextClass (p : Program) : ClassId := p.classes.length

/-- The program with one more class. -/
def addClass (p : Program) (d : ClassDecl) : Program := { p with classes := p.classes ++ [d] }

end Program

end ElmCodec.Source
