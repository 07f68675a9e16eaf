import ElmCodec.Source.Builtin
import ElmCodec.Source.Subscript
import ElmCodec.Text.Normal

/-!
# Scopes and attributes

A name in a reference is looked up in the module of a class, then among the
attributes of the class itself, and then among the builtin objects.  Names are
compared in their normal form.

Some attributes are there by themselves: a class has its module, its annotations,
and the names of its fields if it is a record.
-/

namespace ElmCodec.Source

/-- Where the names of a reference are looked up. -/
structure Scope where
  /-- The bindings of a module. -/
  bindings : Namespace := []
  /-- The attributes of a class. -/
  attributes : Namespace := []
  /-- What the references that are not read stand for, by their texts. -/
  given : Namespace := []

/-- The object that a name stands for. -/
def Scope.find? (s : Scope) (name : String) : Option Annot :=
  let normal := Text.normalForm name
  (Annot.constant? name).or <| (s.bindings.find? normal).or <| (s.attributes.find? normal).or <|
    (Annot.constant? normal).or (Annot.builtin? normal)

/-- The object that a name stands for, which has to be there. -/
def Scope.lookup (s : Scope) (name : String) : Except EvalError Annot :=
  match s.find? name with
  | some a => pure a
  | none => throw (.undefined (Text.normalForm name))

namespace Program

/-- The annotations of a class as they are shown. -/
def shownAnnotations (p : Program) (d : ClassDecl) : String :=
  "\x7b" ++ Text.joinWith ", "
    (d.annotations.map fun f => Text.quoted f.name ++ ": " ++ p.shown f.type) ++ "\x7d"

/-- An attribute by which the objects of a class store things. -/
def slotAttribute (id : ClassId) (d : ClassDecl) (name : String) : String × Annot :=
  (name, .object id "getset_descriptor"
    ("<attribute " ++ Text.quoted name ++ " of " ++ Text.quoted d.name ++ " objects>") true)

/-- The attributes that a class has by itself.  A class that is no record keeps the tags of
its annotations under their names. -/
def attributesOf (p : Program) (id : ClassId) (d : ClassDecl) : Namespace :=
  let isFirst := d.lineage.all fun c => c == .declared id || !(c matches .declared _)
  let initial := d.collected.filter fun f => f.role != .classVar
  [("__module__", .text d.module),
    ("__annotations__", .object id "dict" (p.shownAnnotations d) false)] ++
  (if d.kind = .record then
    [("__match_args__", .value (.tuple (initial.map fun f => .text f.name)))] else []) ++
  (if d.lineage.contains (.library .generic) then
    [("__parameters__", .tupleOf (d.parameters.map fun v => .typeVar v.1 v.2))] else []) ++
  (if d.kind = .plain then
    (d.annotations.filter fun f => f.tag.isSome).map fun f =>
      (f.name, .object id "Field" "Field()" true) else []) ++
  (if isFirst then [slotAttribute id d "__dict__", slotAttribute id d "__weakref__"] else [])

/-- The scope of the annotations of a class. -/
def scopeOf (p : Program) (id : ClassId) (d : ClassDecl) : Scope :=
  ⟨(p.namespace? d.module).getD [], p.attributesOf id d, (p.surroundingsOf id).given⟩

/-! ## Attributes of objects -/

/-- The attribute of a module.  Some are there without a binding. -/
def moduleAttribute? (p : Program) (m : ModuleId) (name : String) : Option Annot :=
  ((p.namespaceAt m).find? name).or <|
    if name = "__class__" then some (.cls (.builtin .module))
    else if name = "__annotations__" then some (.object m "dict" "\x7b\x7d" false)
    else none

/-- The attribute of an object that a reference names. -/
def attribute? (p : Program) (a : Annot) (name : String) : Option Annot :=
  match a, name with
  | .module m, name => p.moduleAttribute? m name
  | .cls c, "__name__" | .cls c, "__qualname__" => some (.text (p.className c))
  | .cls (.declared id), name =>
    match p.classAt? id with
    | none => none
    | some d =>
      ((d.members.find? name).map fun number => .member id name number).or
        ((p.attributesOf id d).find? name)
  | _, _ => none

/-- The object that answers for the attributes of an object: for an applied class or form,
what was applied. -/
def attributeHolder : Annot → Annot
  | .applied c _ => .cls c
  | .signature _ => .cls (.library .callable)
  | .generic id _ => .cls (.declared id)
  | .form f => f.origin?.elim (.form f) .cls
  | .special f _ => f.origin?.elim (.form f) .cls
  | .union _ => .form .union
  | .annotated t _ => attributeHolder t
  | a => a

/-- Whether an object passes on names with two underscores at either end. -/
def passesSpecial : Annot → Bool
  | .form _ | .special .. | .generic .. | .union _ | .annotated .. | .literal _ => false
  | _ => true

/-- Whether a name starts and ends with two underscores. -/
def isDoubled (name : String) : Bool := name.startsWith "__" && name.endsWith "__"

/-- The attribute of an object, which has to be there. -/
def attributeAt (p : Program) (a : Annot) (name : String) : Except EvalError Annot :=
  let name := Text.normalForm name
  let own := if name = "__name__" || name = "__qualname__" then p.ownName? a else none
  let holder := attributeHolder a
  match own, p.attribute? holder name, holder with
  | some text, _, _ => pure (.text text)
  | none, some value, _ =>
    if isDoubled name && !passesSpecial a then throw (.noConstant name) else pure value
  | none, none, .cls c =>
    throw (if p.isEnumeration c || (isDoubled name && !passesSpecial a) then .noConstant name
      else .noAttribute (p.attributeOwner holder) name)
  | none, none, .form _ | none, none, .literal _ => throw (.noConstant name)
  | none, none, holder => throw (.noAttribute (p.attributeOwner holder) name)

/-! ## Evaluation of references -/

mutual

/-- The object that an expression stands for. -/
def evalExpr (p : Program) (s : Scope) : Reader.Expr → EvalM Annot
  | .name n => EvalM.ofExcept (s.lookup n)
  | .text t => pure (.text t)
  | .number n => pure (.value (.int n))
  | .dots => pure .ellipsis
  | .attribute base n => do EvalM.ofExcept (p.attributeAt (← evalExpr p s base) n)
  | .items .round content => do return .tupleOf (← evalExprs p s content)
  | .items _ content => do return .params (← evalExprs p s content)
  | .applied base _ args => do
    let base ← evalExpr p s base
    p.subscript base (.ofArgs (← evalExprs p s args))
  | .either left right => do
    let left ← evalExpr p s left
    p.join left (← evalExpr p s right)
  | .named _ e => evalExpr p s e
  | .entry _ e => evalExpr p s e
termination_by structural e => e

/-- The objects that expressions stand for. -/
def evalExprs (p : Program) (s : Scope) : List Reader.Expr → EvalM (List Annot)
  | [] => pure []
  | e :: rest => do
    let a ← evalExpr p s e
    return a :: (← evalExprs p s rest)
termination_by structural es => es

end

/-- The parts of an object, if it has some that are known. -/
def parts? : Annot → Option (List Annot)
  | .params items | .tuple items => some items
  | .value (.list items) | .value (.tuple items) => some (items.map .value)
  | .value (.text s) => some (s.toList.map fun c => .text c.toString)
  | _ => none

/-- Whether an object has parts that are not known: the members of an enumeration, and
what applied forms make of a star. -/
def hidesParts (p : Program) : Annot → Bool
  | .cls c => p.isEnumeration c
  | .applied .. | .signature _ | .special .. | .generic .. | .union _ | .annotated ..
  | .literal _ => true
  | _ => false

/-- The first part of an object that a text stands for. -/
def firstPart (p : Program) (text : String) (a : Annot) : Except EvalError Annot :=
  match parts? a with
  | some (part :: _) => pure part
  | some [] => throw (.outOfRange "tuple")
  | none => throw (if p.hidesParts a then .unread text else .misuse (.notIterable (p.kindOf a)))

/-- The object that the text of a reference stands for. -/
def evalReference (p : Program) (s : Scope) (text : String) : EvalM Annot :=
  match Reference.reading text, s.given.find? text with
  | .malformed, _ => throw (.malformed text)
  | .unread, none => throw (.unread text)
  | .unread, some a => pure a
  | .understood r, _ => do
    let a ← p.evalExpr s r.expr
    if r.starred then EvalM.ofExcept (p.firstPart text a) else return a

end Program

end ElmCodec.Source
