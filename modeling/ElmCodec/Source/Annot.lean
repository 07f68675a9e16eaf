import ElmCodec.Source.Value

/-!
# Annotations

The objects that stand as types in Python declarations.  An annotation is a class,
a form of the `typing` module, one of these applied to arguments, a union, or
anything else that was written in the place of a type.

Two families of applied forms treat their arguments differently.  A class applied
to arguments, as in `list[int]`, keeps them as they are.  A form of `typing`
converts them: the empty value becomes its class, and a text becomes a reference.

There are two kinds of union as well.  `union` is the one of `typing` and `pipe`
the one written with `|`.  Both are flat and without repetitions, and a union of
one member is that member.

The parameters and the result of a callable are one list.
-/

namespace ElmCodec.Source

/-- A class declared in a source module, by its place among the declarations. -/
abbrev ClassId := Nat

/-- A module that was made, by its place among the modules. -/
abbrev ModuleId := Nat

/-- A class that is always there. -/
inductive Builtin where
  | bool | int | float | str | bytes | bytearray | complex | object
  | list | tuple | dict | set | frozenset | type
  /-- The class of the empty value. -/
  | noneType
  /-- The class of modules. -/
  | module
  /-- Any other class that is always there. -/
  | other (name : String)
deriving DecidableEq

/-- A class of the standard library. -/
inductive Library where
  | any | datetime | date | decimal | uuid | deque
  | sequence | mutableSequence | mapping | iterable | callable | set
  | reversible | collection | sized | container
  | generic | protocol | enumeration
deriving DecidableEq

/-- A class. -/
inductive ClassRef where
  /-- A builtin class. -/
  | builtin (b : Builtin)
  /-- A library class. -/
  | library (l : Library)
  /-- A class declared in a source module. -/
  | declared (id : ClassId)
deriving DecidableEq

/-- A form of the `typing` module that can be applied to arguments. -/
inductive Form where
  | list | sequence | mutableSequence | tuple | dict | set | frozenSet
  | mapping | iterable | callable | deque | type | optional | union
  | classVar | final | annotated
deriving DecidableEq

/-- What stands as a type in a declaration. -/
inductive Annot where
  /-- A class. -/
  | cls (c : ClassRef)
  /-- A form without arguments. -/
  | form (f : Form)
  /-- A plain value. -/
  | value (v : Value)
  /-- The dots of `tuple[int, ...]`. -/
  | ellipsis
  /-- A reference to be evaluated later.  It may be lenient, and then stand for a
  class variable. -/
  | forward (text : String) (lenient : Bool)
  /-- A class applied to arguments. -/
  | applied (c : ClassRef) (args : List Annot)
  /-- The class of callables applied to parameters and a result, which come last. -/
  | signature (args : List Annot)
  /-- A form applied to arguments. -/
  | special (f : Form) (args : List Annot)
  /-- A generic class declared in a source module, applied to arguments. -/
  | generic (c : ClassId) (args : List Annot)
  /-- A list of types, as the parameters of a callable are written. -/
  | params (types : List Annot)
  /-- A tuple of objects that are not all plain values. -/
  | tuple (items : List Annot)
  /-- A union of `typing`. -/
  | union (members : List Annot)
  /-- A union written with `|`. -/
  | pipe (members : List Annot)
  /-- A type with notes, which may be any objects. -/
  | annotated (type : Annot) (notes : List Annot)
  /-- An argument of the initialisation alone, told apart by a number. -/
  | initVar (serial : Nat) (type : Annot)
  /-- One of some values. -/
  | literal (values : List Value)
  /-- A type variable, told apart by a number. -/
  | typeVar (serial : Nat) (name : String)
  /-- A named copy of a type, told apart by a number. -/
  | newType (serial : Nat) (module name : String)
  /-- A function, told apart by a number. -/
  | function (serial : Nat) (module name : String)
  /-- A function that is always there. -/
  | routine (module name : String)
  /-- A member of an enumeration, with its number. -/
  | member (c : ClassId) (name : String) (number : Nat)
  /-- An object told apart by a number, with the name of its class and the text that
  shows it. -/
  | object (serial : Nat) (kind text : String) (hashable : Bool)
  /-- A module. -/
  | module (id : ModuleId)

namespace Annot

/-- The class of the empty value. -/
def noneType : Annot := .cls (.builtin .noneType)

/-- Whether an annotation is the class of the empty value. -/
def isNoneType : Annot → Bool
  | .cls (.builtin .noneType) => true
  | _ => false

/-- A text in the place of a type. -/
def text (s : String) : Annot := .value (.text s)

/-- Whether an annotation can stand for the parameters of a callable. -/
def isParameterList : Annot → Bool
  | .ellipsis | .params _ | .value (.list _) => true
  | _ => false

/-- The plain value that an object is. -/
def value? : Annot → Option Value
  | .value v => some v
  | _ => none

/-- A tuple of objects.  A tuple of plain values is a plain value. -/
def tupleOf (items : List Annot) : Annot :=
  match items.mapM value? with
  | some values => .value (.tuple values)
  | none => .tuple items

/-- Whether an annotation is a tuple. -/
def isTuple : Annot → Bool
  | .value (.tuple _) | .tuple _ => true
  | _ => false

end Annot

/-! ## Names of classes and forms -/

/-- The name of a builtin class. -/
def Builtin.name : Builtin → String
  | .bool => "bool"
  | .int => "int"
  | .float => "float"
  | .str => "str"
  | .bytes => "bytes"
  | .bytearray => "bytearray"
  | .complex => "complex"
  | .object => "object"
  | .list => "list"
  | .tuple => "tuple"
  | .dict => "dict"
  | .set => "set"
  | .frozenset => "frozenset"
  | .type => "type"
  | .noneType => "NoneType"
  | .module => "module"
  | .other name => name

/-- The module of a library class. -/
def Library.module : Library → String
  | .any | .generic | .protocol => "typing"
  | .datetime | .date => "datetime"
  | .decimal => "decimal"
  | .uuid => "uuid"
  | .deque => "collections"
  | .sequence | .mutableSequence | .mapping | .iterable | .callable | .set | .reversible
  | .collection | .sized | .container => "collections.abc"
  | .enumeration => "enum"

/-- The name of a library class. -/
def Library.name : Library → String
  | .any => "Any"
  | .datetime => "datetime"
  | .date => "date"
  | .decimal => "Decimal"
  | .uuid => "UUID"
  | .deque => "deque"
  | .sequence => "Sequence"
  | .mutableSequence => "MutableSequence"
  | .mapping => "Mapping"
  | .iterable => "Iterable"
  | .callable => "Callable"
  | .set => "Set"
  | .reversible => "Reversible"
  | .collection => "Collection"
  | .sized => "Sized"
  | .container => "Container"
  | .generic => "Generic"
  | .protocol => "Protocol"
  | .enumeration => "Enum"

/-- The name of a form. -/
def Form.name : Form → String
  | .list => "List"
  | .sequence => "Sequence"
  | .mutableSequence => "MutableSequence"
  | .tuple => "Tuple"
  | .dict => "Dict"
  | .set => "Set"
  | .frozenSet => "FrozenSet"
  | .mapping => "Mapping"
  | .iterable => "Iterable"
  | .callable => "Callable"
  | .deque => "Deque"
  | .type => "Type"
  | .optional => "Optional"
  | .union => "Union"
  | .classVar => "ClassVar"
  | .final => "Final"
  | .annotated => "Annotated"

/-- The class a form stands for. -/
def Form.origin? : Form → Option ClassRef
  | .list => some (.builtin .list)
  | .sequence => some (.library .sequence)
  | .mutableSequence => some (.library .mutableSequence)
  | .tuple => some (.builtin .tuple)
  | .dict => some (.builtin .dict)
  | .set => some (.builtin .set)
  | .frozenSet => some (.builtin .frozenset)
  | .mapping => some (.library .mapping)
  | .iterable => some (.library .iterable)
  | .callable => some (.library .callable)
  | .deque => some (.library .deque)
  | .type => some (.builtin .type)
  | .optional | .union | .classVar | .final | .annotated => none

end ElmCodec.Source
