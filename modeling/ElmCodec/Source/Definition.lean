import ElmCodec.Source.Base
import ElmCodec.Source.Raised

/-!
# Definitions

A source module is a list of definitions.  Each makes an object and binds it to a
name.  Type expressions are evaluated with the names bound at that moment, while
references by text wait until hints are resolved.
-/

namespace ElmCodec.Source

/-- A type expression. -/
inductive TypeExpr where
  /-- A fixed object. -/
  | object (a : Annot)
  /-- The object bound to a name. -/
  | name (n : String)
  /-- A reference by text. -/
  | text (s : String)
  /-- A class or form applied to arguments. -/
  | subscript (base : TypeExpr) (args : List TypeExpr)
  /-- The parameter list of a callable. -/
  | params (types : List TypeExpr)
  /-- A union of `typing`. -/
  | union (types : List TypeExpr)
  /-- A type or the empty value. -/
  | optional (type : TypeExpr)
  /-- Types joined by `|`. -/
  | either (types : List TypeExpr)
  /-- A type with notes. -/
  | annotated (type : TypeExpr) (notes : List Value)
  /-- A class variable. -/
  | classVar (type : TypeExpr)
  /-- An argument of the initialisation alone. -/
  | initVar (type : TypeExpr)
  /-- A type that is not overridden. -/
  | final (type : TypeExpr)
  /-- One of some values. -/
  | literal (values : List Value)
  /-- A plain value. -/
  | value (v : Value)

/-- An annotated name in the body of a class. -/
structure FieldExpr where
  /-- The name. -/
  name : String
  /-- The type expression. -/
  type : TypeExpr
  /-- The metadata in the place of a tag. -/
  tag : Option TagValue := none

/-- The declaration of a class. -/
structure ClassExpr where
  /-- Whether it is declared as a record. -/
  isRecord : Bool
  /-- The name. -/
  name : String
  /-- The names of the bases. -/
  bases : List String := []
  /-- The names of the type variables that it lists. -/
  typeVars : List String := []
  /-- The annotated names. -/
  fields : List FieldExpr := []

/-- What a definition does. -/
inductive Statement where
  /-- Declares a class. -/
  | declare (c : ClassExpr)
  /-- Declares an enumeration. -/
  | enumeration (name : String) (members : List String)
  /-- Declares a protocol. -/
  | protocol (name : String)
  /-- Defines a function. -/
  | function (name : String)
  /-- Makes an object of a class, with the numbers in its fields. -/
  | object (cls : String) (fields : List (String × Int))
  /-- Names a plain value. -/
  | value (v : Value)
  /-- Names a type. -/
  | synonym (type : TypeExpr)
  /-- Makes a type variable. -/
  | typeVar (name : String)
  /-- Makes a named copy of a type. -/
  | newType (name : String) (type : TypeExpr)
  /-- Takes an object from another module. -/
  | importFrom (module name : String)
  /-- Raises an exception. -/
  | raise (kind message : String)

/-- A definition: what it does and the name that it binds. -/
structure Definition where
  /-- The name that is bound. -/
  target : String
  /-- What makes the object. -/
  statement : Statement

/-! ## Evaluation of type expressions -/

/-- The object bound to a name. -/
def boundTo (bindings : Namespace) (n : String) : Except EvalError Annot :=
  match bindings.find? n with
  | some a => pure a
  | none => throw (.undefined n)

mutual

/-- The annotation that a type expression stands for. -/
def TypeExpr.eval (p : Program) (bindings : Namespace) : TypeExpr → EvalM Annot
  | .object a => pure a
  | .name n => EvalM.ofExcept (boundTo bindings n)
  | .text s => pure (.text s)
  | .subscript base args => do
    let base ← TypeExpr.eval p bindings base
    p.subscript base (.ofArgs (← TypeExpr.evalAll p bindings args))
  | .params types => do return .params (← TypeExpr.evalAll p bindings types)
  | .union types => do p.union (.many (← TypeExpr.evalAll p bindings types))
  | .optional type => do p.optional (.ofArgs [← TypeExpr.eval p bindings type])
  | .either types => do p.joinAll (← TypeExpr.evalAll p bindings types)
  | .annotated type notes => do
    p.annotate (.many ((← TypeExpr.eval p bindings type) :: notes.map .value))
  | .classVar type => do p.applyForm .classVar (.ofArgs [← TypeExpr.eval p bindings type])
  | .initVar type => do
    let a ← TypeExpr.eval p bindings type
    return .initVar (← EvalM.newSerial) a
  | .final type => do p.applyForm .final (.ofArgs [← TypeExpr.eval p bindings type])
  | .literal values => pure (Annot.literalOf values)
  | .value v => pure (.value v)
termination_by structural e => e

/-- The annotations that type expressions stand for. -/
def TypeExpr.evalAll (p : Program) (bindings : Namespace) : List TypeExpr → EvalM (List Annot)
  | [] => pure []
  | e :: rest => do
    let a ← TypeExpr.eval p bindings e
    return a :: (← TypeExpr.evalAll p bindings rest)
termination_by structural es => es

end

namespace Program

/-- Carries out a step of evaluation on what the program remembers. -/
def evaluate {α : Type} (p : Program) (step : EvalM α) : Except Raised α × Program :=
  let (result, memory) := step.run p.memory
  (result.mapError .unevaluated, { p with memory := memory })

/-- Evaluates a type expression in a module. -/
def evaluateIn (p : Program) (m : ModuleId) (e : TypeExpr) : Except Raised Annot × Program :=
  p.evaluate (e.eval p (p.namespaceAt m))

end Program

/-- A step that changes a program.  It may fail, and it keeps its state then too. -/
abbrev ProgramM := ExceptT Raised (StateM Program)

namespace ProgramM

/-- A step of evaluation, given the program, as a step on the program. -/
def evaluate {α : Type} (step : Program → EvalM α) : ProgramM α :=
  ExceptT.mk fun p => p.evaluate (step p)

/-- The making of a class as a step on a program. -/
def making {α : Type} (r : Except ClassError α) : ProgramM α := ExceptT.mk (pure (r.mapError .unmade))

end ProgramM

/-! ## Class bodies -/

/-- The annotations of a class body.  A name annotated again keeps its position and
takes the new declaration. -/
def classBody (p : Program) (bindings : Namespace) :
    Table String FieldDecl → List FieldExpr → EvalM (List FieldDecl)
  | table, [] => pure (table.map Prod.snd)
  | table, f :: rest => do
    let type ← f.type.eval p bindings
    classBody p bindings (table.insert f.name { name := f.name, type := type, tag := f.tag }) rest

/-- What an annotation that is no text declares. -/
def Annot.role : Annot → Role
  | .special .classVar _ | .form .classVar => .classVar
  | .initVar .. => .initVar
  | _ => .field

/-- The first word of a text, unless it is followed by a dot and another word. -/
def leadingWord? (text : String) : Option String :=
  let start := text.toList.dropWhile Text.isBlank
  let word := start.takeWhile Text.isWordPart
  if word.isEmpty then none
  else
    match (start.drop word.length).dropWhile Text.isBlank with
    | '.' :: rest =>
      match rest.dropWhile Text.isBlank with
      | c :: _ => if Text.isWordPart c then none else some (String.ofList word)
      | [] => some (String.ofList word)
    | _ => some (String.ofList word)

namespace Program

/-- What an annotation of a record declares.  A text declares what its first word is
bound to in the module. -/
def roleOf (p : Program) (module : String) (a : Annot) : Except ClassError Role :=
  match a with
  | .value (.text s) =>
    match leadingWord? s, p.namespace? module with
    | none, _ => pure .field
    | some _, none => throw .noNamespace
    | some word, some bindings => pure ((bindings.find? word).elim .field Annot.role)
  | a => pure a.role

/-- Refuses a field whose name stands for something that can change. -/
def refuseDefault (name : String) : Except ClassError Unit :=
  if name = "__dict__" then throw (.changingDefault "mappingproxy" name)
  else if name = "__annotations__" then throw (.changingDefault "dict" name)
  else pure ()

/-- An annotation of a record with what it declares. -/
def withRole (p : Program) (module : String) (f : FieldDecl) : Except ClassError FieldDecl := do
  let role ← p.roleOf module f.type
  if role = .field && f.tag.isNone then refuseDefault f.name
  return { f with role := role }

/-- Whether an ancestor that is no record keeps a tag under a name. -/
def keepsTag (p : Program) (name : String) : ClassRef → Bool
  | .declared id => (p.classAt? id).any fun d =>
      d.kind != .record && d.annotations.any fun f => f.name == name && f.tag.isSome
  | _ => false

/-- The classes that do not tell which arguments new objects take. -/
def hidesSignature : ClassRef → Bool
  | .builtin b => [.int, .str, .bytes, .bytearray, .dict, .set, .frozenset].contains b
  | .library l => [.datetime, .date, .deque].contains l
  | _ => false

/-- The classes that tell which arguments new objects take, whatever their ancestors
do. -/
def givesSignature : ClassRef → Bool
  | .library l => [.any, .enumeration, .protocol].contains l
  | _ => false

/-- The annotations of a record with what they declare. -/
def recordBody (p : Program) (module name : String) (ancestors : List ClassRef)
    (own : List FieldDecl) : Except ClassError (List FieldDecl) := do
  let own ← own.mapM (p.withRole module)
  match own.find? fun f => f.tag.isNone && ancestors.any (p.keepsTag f.name) with
  | some f => throw (.inheritedTag name f.name)
  | none => pure ()
  let shown := "<class '" ++ qualify module name ++ "'>"
  if ancestors.any givesSignature then return own
  if ancestors.contains (.builtin .type) then throw (.metaclassRecord shown)
  if ancestors.any hidesSignature then throw (.noSignature shown)
  return own

end Program

/-! ## Statements -/

/-- The text of an object with numbers in its fields. -/
def objectText (cls : String) (fields : List (String × Int)) : String :=
  cls ++ "(" ++ Text.joinWith ", " (fields.map fun f => f.1 ++ "=" ++ toString f.2) ++ ")"

/-- Whether a name has one underscore at either end. -/
def isSetAside (name : String) : Bool :=
  match name.toList, name.toList.reverse with
  | '_' :: c :: _ :: _, '_' :: d :: _ => c != '_' && d != '_'
  | _, _ => false

/-- Whether a name has two underscores at either end. -/
def isSpecial (name : String) : Bool :=
  match name.toList, name.toList.reverse with
  | '_' :: '_' :: c :: _ :: _ :: _, '_' :: '_' :: d :: _ => c != '_' && d != '_'
  | _, _ => false

/-- The names that an enumeration sets aside for uses of its own. -/
def enumerationNames : List String :=
  ["_generate_next_value_", "_numeric_repr_", "_missing_", "_iter_member_",
    "_iter_member_by_value_", "_iter_member_by_def_"]

/-- Whether a name in the body of an enumeration makes a member. -/
def isMemberName (name : String) : Bool := !isSetAside name && !isSpecial name

/-- The members that the names in the body of an enumeration make.  They are numbered from
one, and names that make no member count too. -/
def membersOf (names : List String) : Table String Nat :=
  (names.zip (List.range' 1 names.length)).filter fun m => isMemberName m.1

/-- Checks the names in the body of an enumeration, given those before them and the kind
of the objects that they are bound to. -/
def checkMembers (kind : String) (before : List String) : List String → Except ClassError Unit
  | [] => do
    let invalid := ["", "mro"].filter before.contains
    if !invalid.isEmpty then throw (.invalidMembers invalid)
    if before.any fun name => name == "_order_" || name == "__order__" then throw (.listMember kind)
  | name :: rest => do
    if name = "_ignore_" then throw (.listMember kind)
    if isSetAside name && name != "_order_" && !enumerationNames.contains name then
      throw (.reservedMember name)
    if isMemberName name && before.contains name then
      throw (.repeatedMember name (before.idxOf name + 1))
    checkMembers kind (before ++ [name]) rest

/-- The tagged annotations of an enumeration become its members, and lose their tags. -/
def enumerationBody (own : List FieldDecl) :
    Except ClassError (List FieldDecl × Table String Nat) := do
  let names := (own.filter fun f => f.tag.isSome).map fun f => f.name
  checkMembers "Field" [] names
  return (own.map fun f => if isMemberName f.name then { f with tag := none } else f,
    membersOf names)

namespace ProgramM

/-- Adds a class and returns it. -/
def addClass (d : ClassDecl) : ProgramM Annot := do
  let p ← get
  set (p.addClass d)
  return .cls (.declared p.nextClass)

/-- Declares a class in a module. -/
def declare (m : ModuleId) (c : ClassExpr) : ProgramM Annot := do
  let bindings := (← get).namespaceAt m
  let module := (← get).moduleName m
  let own ← evaluate fun p => classBody p bindings [] c.fields
  let bases ← evaluate fun _ => EvalM.ofExcept (c.bases.mapM (boundTo bindings))
  let typeVars ← evaluate fun _ => EvalM.ofExcept do
    Program.listedVariables (← c.typeVars.mapM (boundTo bindings))
  let p ← get
  let (lineage, parameters) ← making do p.ancestry c.name bases (← typeVars)
  let (own, members) ← if lineage.contains (.library .enumeration) then making (enumerationBody own)
    else pure (own, [])
  let own ← if c.isRecord then making (p.recordBody module c.name lineage.tail own) else pure own
  let collected := if c.isRecord then p.collect lineage.tail own else []
  let kind := if c.isRecord then ClassKind.record else .plain
  addClass ⟨c.name, module, kind, lineage, own, collected, parameters, members⟩

/-- Declares a class without annotations in a module. -/
def declareEmpty (m : ModuleId) (kind : ClassKind) (name : String) (ancestors : List ClassRef)
    (members : Table String Nat) : ProgramM Annot := do
  let p ← get
  let lineage := .declared p.nextClass :: ancestors
  addClass ⟨name, p.moduleName m, kind, lineage, [], [], [], members⟩

/-- Carries out a statement of a module that takes nothing from other modules. -/
def perform (m : ModuleId) : Statement → ProgramM Annot
  | .declare c => declare m c
  | .enumeration name members => do
    making (checkMembers "int" [] members)
    declareEmpty m .enumeration name [.library .enumeration, .object] (membersOf members)
  | .protocol name => do
    declareEmpty m .protocol name ((← get).lineageOf (.library .protocol)) []
  | .function name => do
    return .function (← evaluate fun _ => EvalM.newSerial) ((← get).moduleName m) name
  | .object cls fields => do
    return .object (← evaluate fun _ => EvalM.newSerial) cls (objectText cls fields) false
  | .value v => pure (.value v)
  | .synonym type => ExceptT.mk fun p => p.evaluateIn m type
  | .typeVar name => do return .typeVar (← evaluate fun _ => EvalM.newSerial) name
  | .newType name type => do
    let _ ← ExceptT.mk fun p => p.evaluateIn m type
    return .newType (← evaluate fun _ => EvalM.newSerial) ((← get).moduleName m) name
  | .importFrom source _ => throw (.noModule source)
  | .raise kind message => throw (.ofException kind message)

end ProgramM

end ElmCodec.Source
