import ElmCodec.Source.ClassError
import ElmCodec.Source.Subscript

/-!
# Bases of classes

From the objects that are named as the bases of a class to its lineage.  An applied
class stands for the class.  A form of `typing` stands for the class it is about,
and makes the new class generic unless something later does.  Unions and other
forms cannot be bases.

The bases have to go together in several ways, and these are tried in order: the
classes of which the bases are members, the way in which objects are stored, and
the order of search.
-/

namespace ElmCodec.Source

/-- What a base stands for. -/
inductive Base where
  /-- A class. -/
  | cls (c : ClassRef)
  /-- An object that is no class. -/
  | object (a : Annot)
  /-- A named copy of a type, which refuses to be a base when all else is done. -/
  | newType (name : String)

namespace Annot

/-- Whether an annotation belongs to those of `typing` that make a class generic. -/
def isAlias : Annot → Bool
  | .form .optional | .form .union | .form .classVar | .form .final | .form .annotated => false
  | .form _ | .special .. | .generic .. | .union _ | .annotated .. | .literal _ => true
  | _ => false

end Annot

namespace Program

/-! ## What bases stand for -/

/-- Whether something among later bases makes a class generic. -/
def laterGeneric (p : Program) : List Annot → Except ClassError Bool
  | [] => pure false
  | a :: rest =>
    if a.isAlias then pure true
    else
      match a with
      | .cls c => if p.descends c (.library .generic) then pure true else p.laterGeneric rest
      | _ => throw .laterObject

/-- What a form about a class stands for among the bases.  `listed` says that the
class lists type variables after its bases. -/
def formBases (p : Program) (bases : List Annot) (listed : Bool) (a : Annot) (c : ClassRef) :
    Except ClassError (List Base) := do
  let own := if bases.any fun b => b.same (.cls c) then [] else [Base.cls c]
  let later := bases.drop (bases.findIdx (·.same a) + 1)
  if (← p.laterGeneric later) || listed then return own
  return own ++ [.cls (.library .generic)]

/-- What a base stands for. -/
def basesOf (p : Program) (bases : List Annot) (listed : Bool) (a : Annot) :
    Except ClassError (List Base) :=
  match a with
  | .cls c | .applied c _ => pure [.cls c]
  | .signature _ => pure [.cls (.library .callable)]
  | .generic id _ => pure [.cls (.declared id)]
  | .form f | .special f _ =>
    match f.origin? with
    | some c => p.formBases bases listed a c
    | none => throw (.closedBase (p.shown a))
  | .union _ | .literal _ => throw (.closedBase (p.shown a))
  | .annotated (.cls c) _ => pure [.cls c]
  | .annotated t _ => pure [.object t]
  | .newType _ _ name => pure [.newType (lastPart name)]
  | a => pure [.object a]

/-! ## Classes of bases -/

/-- What makes a new class from its bases: a class of classes, or the class of the
objects that are its bases. -/
inductive Maker where
  /-- A class of classes. -/
  | metaclass (m : Metaclass)
  /-- Another class, by its name and a number that tells it from others of the name. -/
  | kind (name : String) (serial : Nat)

/-- The more special of two makers, if there is one. -/
def Maker.join? : Maker → Maker → Option Maker
  | .metaclass m, .metaclass n => (m.join? n).map .metaclass
  | .kind "bool" 0, .kind "int" 0 | .kind "int" 0, .kind "bool" 0 => some (.kind "bool" 0)
  | .kind a m, .kind b n => if a = b && m = n then some (.kind a m) else none
  | _, _ => none

/-- The maker that a base asks for. -/
def makerOf (p : Program) : Base → Maker
  | .cls c => .metaclass (p.metaclass c)
  | .newType _ => .metaclass .type
  | .object (.object serial kind _ _) => .kind kind (serial + 1)
  | .object (.member c _ _) => .kind (p.className (.declared c)) (c + 1)
  | .object a => .kind (p.kindOf a) 0

/-- The maker that all bases ask for. -/
def makerOfAll (p : Program) : List Base → Except ClassError Maker
  | [] => pure (.metaclass .type)
  | b :: rest => rest.foldlM
      (fun m b => (m.join? (p.makerOf b)).elim (throw .kindConflict) pure) (p.makerOf b)

/-- What a class that is no class of classes says if it is to make a class. -/
def makerMessage (p : Program) (kind : String) (a : Annot) (all : List Annot) : String :=
  match a with
  | .value .nothing => "NoneType takes no arguments"
  | .value (.text _) => "str() argument 'encoding' must be str, not tuple"
  | .value (.int _) | .value (.bool _) =>
    if kind = "bool" then "bool expected at most 1 argument, got 3"
    else "int() takes at most 2 arguments (3 given)"
  | .value _ | .params _ | .tuple _ => kind ++ " expected at most 1 argument, got 3"
  | .ellipsis => "EllipsisType takes no arguments"
  | .function .. => "function() argument 'code' must be code, not str"
  | .routine .. | .pipe _ => "cannot create '" ++ kind ++ "' instances"
  | .module _ => "module() takes at most 2 arguments (3 given)"
  | .initVar .. => "InitVar.__init__() takes 2 positional arguments but 4 were given"
  | .typeVar .. =>
    "TypeVar(name, constraint, ...): constraints must be types. Got " ++
      shortened (p.shownTuple all) ++ "."
  | .applied .. => "GenericAlias expected 2 arguments, got 3"
  | .signature _ =>
    "_CallableGenericAlias.__new__() takes 3 positional arguments but 4 were given"
  | .object _ kind text _ =>
    let count := text.toList.count '=' + 1
    kind ++ ".__init__() takes " ++ toString count ++ " positional argument" ++
      (if count = 1 then "" else "s") ++ " but 4 were given"
  | .form _ => "_SpecialGenericAlias.__init__() takes 3 positional arguments but 4 were given"
  | _ => "_GenericAlias.__init__() takes 3 positional arguments but 4 were given"

/-- Refuses bases that are no classes. -/
def refuseObjects (p : Program) (bases : List Base) : Except ClassError Unit := do
  let objects : List Annot := bases.filterMap fun b =>
    match b with
    | .object a => some a
    | _ => none
  match ← p.makerOfAll bases, objects with
  | .kind k _, .member .. :: _ => throw (.unfitBase k "__mro__")
  | .kind k _, .forward .. :: _ => throw (.unfitBase k "__dataclass_params__")
  | .kind k _, a :: _ => throw (.objectBase (p.makerMessage k a objects))
  | _, _ => pure ()

/-- The class that a base is. -/
def Base.class? : Base → Option ClassRef
  | .cls c => some c
  | _ => none

/-- Refuses bases with which no enumeration can be made. -/
def refuseEnumerations (p : Program) (name : String) (resolved : List Base) :
    Except ClassError Unit :=
  let bases := resolved.filterMap Base.class?
  if !bases.any p.isEnumeration then pure ()
  else
    let full (c : ClassRef) : Bool :=
      match c with
      | .declared id => (p.classAt? id).any fun d => !d.members.isEmpty
      | _ => false
    match (bases.flatMap p.lineageOf).find? full with
    | some c => throw (.fullEnumeration name (p.shownClass c))
    | none =>
      if (resolved.getLast?.bind Base.class?).any p.isEnumeration then pure ()
      else throw .mixedEnumeration

/-! ## Storage -/

/-- Whether a class allows no descendants. -/
def isFinal (c : ClassRef) : Bool := c == .builtin .bool || c == .builtin .noneType

/-- Whether the objects of a class are stored in a way of their own. -/
def storesItself : ClassRef → Bool
  | .builtin .object => false
  | .builtin _ => true
  | .library .datetime | .library .date | .library .decimal | .library .uuid | .library .deque => true
  | _ => false

/-- The class that says how the objects of a class are stored. -/
def storageOf (p : Program) (c : ClassRef) : ClassRef :=
  ((p.lineageOf c).find? storesItself).getD .object

/-- Checks that the objects of the bases are stored in ways that go together, where
`winner` is the most special way so far. -/
def checkStorage (p : Program) (winner : ClassRef) : List ClassRef → Except ClassError Unit
  | [] => pure ()
  | c :: rest =>
    let storage := p.storageOf c
    if isFinal c then throw (.finalBase (p.className c))
    else if p.descends winner storage then p.checkStorage winner rest
    else if p.descends storage winner then p.checkStorage storage rest
    else throw .layoutConflict

/-! ## The order of search -/

/-- The lineage of a new class from its bases. -/
def lineageFrom (p : Program) (bases : List ClassRef) : Except ClassError (List ClassRef) :=
  match (if 1 < bases.length then Lineage.repeated? bases else none),
      Lineage.ofBases (.declared p.nextClass) bases p.lineageOf with
  | some c, _ => throw (.repeatedBase (p.className c))
  | none, .error heads => throw (.inconsistentBases (heads.map p.className))
  | none, .ok lineage => pure lineage

/-! ## Type variables -/

/-- The type variables that a class lists, which have to be variables, each once. -/
def listedVariables (objects : List Annot) : Except EvalError (Except ClassError (List Variable)) := do
  let objects ← objects.mapM Annot.converted
  let typeVars := objects.filterMap fun a =>
    match a with
    | .typeVar serial name => some (serial, name)
    | _ => none
  if typeVars.length != objects.length then return .error .notVariables
  if (Lineage.repeated? typeVars).isSome then return .error .repeatedVariables
  return .ok typeVars

/-- A type variable as it is shown. -/
def shownVariable (v : Variable) : String := "~" ++ v.2

/-- The type variables of a generic class: those that it lists, or else those of its
bases. -/
def parametersFrom (bases : List Annot) (listed : List Variable) :
    Except ClassError (List Variable) :=
  let used := (Annot.listVariables (bases.filter fun a => !(a matches .typeVar ..))).eraseDups
  let missing := used.filter fun v => !listed.contains v
  if listed.isEmpty then pure used
  else if missing.isEmpty then pure listed
  else throw (.unlistedVariables (missing.map shownVariable) (listed.map shownVariable))

/-! ## All together -/

/-- The lineage of a new class and its type variables. -/
def ancestry (p : Program) (name : String) (bases : List Annot) (listed : List Variable) :
    Except ClassError (List ClassRef × List Variable) := do
  let generic := if listed.isEmpty then [] else [Base.cls (.library .generic)]
  let resolved := (← bases.mapM (p.basesOf bases !listed.isEmpty)).flatten ++ generic
  p.refuseObjects resolved
  p.refuseEnumerations name resolved
  let classes := resolved.filterMap Base.class?
  let classes := if classes.isEmpty then [.object] else classes
  p.checkStorage .object classes
  let lineage ← p.lineageFrom classes
  match resolved.findSome? fun b => match b with
    | .newType base => some base
    | _ => none with
  | some base => throw (.newTypeBase name base)
  | none => pure ()
  if lineage.contains (.library .generic) then
    return (lineage, ← parametersFrom bases listed)
  return (lineage, [])

end Program

end ElmCodec.Source
