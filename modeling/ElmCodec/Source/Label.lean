import ElmCodec.Source.Program

/-!
# Labels

How annotations are shown in messages.  A class by itself is shown as a class, and
inside another annotation by its name, with its module unless it is builtin.  The
label of an annotation is shorter: the bare name of a class, and else the text
without the name of the `typing` module.

Messages may also name the *kind* of an object, which is the name of its class.
-/

namespace ElmCodec.Source

/-- The name of something with its module, unless it is builtin. -/
def qualify (module name : String) : String :=
  if module = "builtins" then name else module ++ "." ++ name

namespace Program

/-- The bare name of a class. -/
def className (p : Program) : ClassRef → String
  | .builtin b => b.name
  | .library l => l.name
  | .declared id => (p.classAt? id).elim "" ClassDecl.name

/-- The name of a class with its module. -/
def fullName (p : Program) : ClassRef → String
  | .builtin b => "builtins." ++ b.name
  | .library l => l.module ++ "." ++ l.name
  | .declared id => (p.classAt? id).elim "" fun d => d.module ++ "." ++ d.name

/-- The name of a class with its module, unless it is builtin. -/
def qualifiedName (p : Program) : ClassRef → String
  | .builtin b => b.name
  | .library l => qualify l.module l.name
  | .declared id => (p.classAt? id).elim "" fun d => qualify d.module d.name

/-- Whether a class is an enumeration. -/
def isEnumeration (p : Program) : ClassRef → Bool
  | .declared id => (p.lineage id).contains (.library .enumeration)
  | c => c == .library .enumeration

/-- A class by itself. -/
def shownClass (p : Program) (c : ClassRef) : String :=
  if c = .library .any then "typing.Any"
  else if p.isEnumeration c then "<enum '" ++ p.className c ++ "'>"
  else "<class '" ++ p.qualifiedName c ++ "'>"

/-- Arguments in brackets.  No argument is shown as the empty tuple. -/
def bracketed (args : List String) : String :=
  "[" ++ (if args.isEmpty then "()" else Text.joinWith ", " args) ++ "]"

/-- The items of a tuple in parentheses.  A tuple of one item keeps a comma. -/
def parenthesized : List String → String
  | [item] => "(" ++ item ++ ",)"
  | items => "(" ++ Text.joinWith ", " items ++ ")"

/-- Whether two arguments of a callable are its parameters as one object and its
result. -/
def keepsParameters (isParameters : Annot → Bool) : List Annot → Bool
  | [a, _] => isParameters a
  | _ => false

/-- The parameters and the result of a callable in brackets. -/
def bracketedCall (texts : List String) : String :=
  "[[" ++ Text.joinWith ", " texts.dropLast ++ "], " ++ texts.getLastD "" ++ "]"

/-- A union of `typing`, which is optional if it adds the empty value to one type. -/
def shownUnion (members : List Annot) (texts : List String) : String :=
  match members.map Annot.isNoneType, texts with
  | [true, _], [_, t] => "typing.Optional" ++ bracketed [t]
  | [_, true], [t, _] => "typing.Optional" ++ bracketed [t]
  | _, _ => "typing.Union" ++ bracketed texts

/-- Where an annotation is shown. -/
inductive Place where
  /-- By itself. -/
  | alone
  /-- As an argument of a form of `typing`. -/
  | inForm
  /-- As an argument of a class, or in a union written with `|`. -/
  | inClass
deriving DecidableEq

/-- A class at a place. -/
def classAt (p : Program) (place : Place) (c : ClassRef) : String :=
  if place = .alone then p.shownClass c else p.qualifiedName c

/-- A function at a place.  Only inside a class is it shown with its module. -/
def functionAt (place : Place) (module name : String) : String :=
  match place with
  | .alone => "<function " ++ name ++ ">"
  | .inForm => name
  | .inClass => qualify module name

/-- A builtin function at a place. -/
def routineAt (place : Place) (module name : String) : String :=
  if place = .inClass then qualify module name else "<built-in function " ++ name ++ ">"

/-- A module by itself. -/
def shownModule (m : Module) : String :=
  match m.file with
  | some path => "<module " ++ Text.quoted m.name ++ " from " ++ Text.quoted path ++ ">"
  | none => "<module " ++ Text.quoted m.name ++ ">"

mutual

/-- An annotation at a place. -/
def shownAt (p : Program) (place : Place) : Annot → String
  | .cls c => p.classAt place c
  | .form f => "typing." ++ f.name
  | .value v => v.shown
  | .ellipsis => if place = .alone then "Ellipsis" else "..."
  | .forward text _ => "ForwardRef(" ++ Text.quoted text ++ ")"
  | .applied c args => p.qualifiedName c ++ bracketed (shownAll p .inClass args)
  | .signature args =>
    "collections.abc.Callable" ++
      (if keepsParameters Annot.isParameterList args then bracketed (shownAll p .inClass args)
        else bracketedCall (shownAll p .inForm args))
  | .special .callable args =>
    "typing.Callable" ++
      (if keepsParameters (fun a => a.isParameterList || a.isTuple) args then
        bracketed (shownAll p .inForm args)
        else bracketedCall (shownAll p .inForm args))
  | .special f args => "typing." ++ f.name ++ bracketed (shownAll p .inForm args)
  | .generic c args => p.qualifiedName (.declared c) ++ bracketed (shownAll p .inForm args)
  | .params types => "[" ++ Text.joinWith ", " (shownAll p .alone types) ++ "]"
  | .tuple items => parenthesized (shownAll p .alone items)
  | .union members => shownUnion members (shownAll p .inForm members)
  | .pipe members =>
    Text.joinWith " | " ((members.zip (shownAll p .inClass members)).map fun m =>
      if m.1.isNoneType then "None" else m.2)
  | .annotated t notes =>
    "typing.Annotated" ++ bracketed (shownAt p .inForm t :: shownAll p .alone notes)
  | .initVar _ (.cls c) => "dataclasses.InitVar" ++ bracketed [p.className c]
  | .initVar _ t => "dataclasses.InitVar" ++ bracketed [shownAt p .alone t]
  | .literal values => "typing.Literal" ++ bracketed (values.map Value.shown)
  | .typeVar _ name => "~" ++ name
  | .newType _ module name => module ++ "." ++ name
  | .function _ module name => functionAt place module name
  | .routine module name => routineAt place module name
  | .member c name number =>
    "<" ++ p.className (.declared c) ++ "." ++ name ++ ": " ++ toString number ++ ">"
  | .object _ _ text _ => text
  | .module m => shownModule (p.moduleAt m)
termination_by structural a => a

/-- Annotations at a place. -/
def shownAll (p : Program) (place : Place) : List Annot → List String
  | [] => []
  | a :: rest => shownAt p place a :: shownAll p place rest
termination_by structural as => as

end

/-- An annotation by itself. -/
def shown (p : Program) (a : Annot) : String := p.shownAt .alone a

/-- An annotation in running text, where a text is shown without quotes. -/
def plain (p : Program) : Annot → String
  | .value (.text s) => s
  | a => p.shown a

/-- Several annotations as a tuple. -/
def shownTuple (p : Program) (items : List Annot) : String := parenthesized (items.map p.shown)

/-- The label of an annotation in messages. -/
def label (p : Program) : Annot → String
  | .cls c => p.className c
  | a => Text.without "typing." (p.shown a)

/-- The part of a name after its last dot. -/
def lastPart (name : String) : String :=
  String.ofList ((Text.pieces '.' name.toList).getLastD [])

/-- The name that an annotation has of its own. -/
def ownName? (p : Program) : Annot → Option String
  | .cls c | .applied c _ => some (p.className c)
  | .signature _ => some "Callable"
  | .form f | .special f _ => some f.name
  | .generic c _ => some (p.className (.declared c))
  | .union members =>
    some (if members.length == 2 && members.any Annot.isNoneType then "Optional" else "Union")
  | .annotated .. => some "Annotated"
  | .literal _ => some "Literal"
  | .typeVar _ name | .function _ _ name | .routine _ name => some name
  | .newType _ _ name => some (lastPart name)
  | .module m => some (p.moduleName m)
  | _ => none

/-- What a definition is called in messages: its own name, or else its label. -/
def definitionLabel (p : Program) (a : Annot) : String :=
  match p.ownName? a with
  | some name => if name = "" then p.label a else name
  | none => p.label a

/-! ## Kinds -/

/-- The class of classes of which a class is a member. -/
inductive Metaclass where
  | type | abc | protocol | any | enumeration
deriving DecidableEq

/-- The name of a class of classes. -/
def Metaclass.name : Metaclass → String
  | .type => "type"
  | .abc => "ABCMeta"
  | .protocol => "_ProtocolMeta"
  | .any => "_AnyMeta"
  | .enumeration => "EnumType"

/-- The class of classes of a library class. -/
def libraryMetaclass : Library → Metaclass
  | .sequence | .mutableSequence | .mapping | .iterable | .callable | .set | .reversible
  | .collection | .sized | .container => .abc
  | .protocol => .protocol
  | .any => .any
  | .enumeration => .enumeration
  | .datetime | .date | .decimal | .uuid | .deque | .generic => .type

/-- The class of classes that comes from an ancestor. -/
def ancestorMetaclass : ClassRef → Metaclass
  | .library l => libraryMetaclass l
  | _ => .type

/-- The more special of two classes of classes, if there is one. -/
def Metaclass.join? : Metaclass → Metaclass → Option Metaclass
  | .type, m | m, .type => some m
  | .abc, .protocol | .protocol, .abc => some .protocol
  | m, n => if m = n then some m else none

/-- The class of classes of a class. -/
def metaclass (p : Program) : ClassRef → Metaclass
  | .declared id =>
    (p.lineage id).foldl (fun m c => (m.join? (ancestorMetaclass c)).getD m) .type
  | c => ancestorMetaclass c

/-- The name of the class of a form. -/
def formKind : Form → String
  | .tuple => "_TupleType"
  | .callable => "_CallableType"
  | .optional | .union | .classVar | .final => "_SpecialForm"
  | .annotated => "type"
  | _ => "_SpecialGenericAlias"

/-- The name of the class of an object. -/
def kindOf (p : Program) : Annot → String
  | .cls c => (p.metaclass c).name
  | .form f => formKind f
  | .value v => v.kind
  | .ellipsis => "ellipsis"
  | .forward .. => "ForwardRef"
  | .applied .. => "types.GenericAlias"
  | .signature _ => "_CallableGenericAlias"
  | .special .callable _ => "_CallableGenericAlias"
  | .special .. | .generic .. => "_GenericAlias"
  | .params _ => "list"
  | .tuple _ => "tuple"
  | .union _ => "_UnionGenericAlias"
  | .pipe _ => "types.UnionType"
  | .annotated .. => "_AnnotatedAlias"
  | .initVar .. => "InitVar"
  | .literal _ => "_LiteralGenericAlias"
  | .typeVar .. => "TypeVar"
  | .newType .. => "NewType"
  | .function .. => "function"
  | .routine .. => "builtin_function_or_method"
  | .member c .. => p.className (.declared c)
  | .object _ kind _ _ => kind
  | .module _ => "module"

/-- The name of a class in messages on its use.  Some library classes have their
module in it. -/
def technicalName (p : Program) (c : ClassRef) : String :=
  match c with
  | .library .datetime | .library .date | .library .decimal | .library .deque => p.qualifiedName c
  | c => p.className c

/-- How the owner of a missing attribute is named. -/
def attributeOwner (p : Program) : Annot → String
  | .cls c => "type object '" ++ p.technicalName c ++ "'"
  | .module m => "module " ++ Text.quoted (p.moduleName m)
  | a => "'" ++ p.kindOf a ++ "' object"

end Program

end ElmCodec.Source
