import ElmCodec.Reader.Expr
import ElmCodec.Source.Builtin
import ElmCodec.Source.Definition

/-!
# Meanings of names in source files

Names of the standard library are settled while a file is read: an import says
which object of the library a name stands for.  All other names are left to the
evaluation of the module, builtin ones excepted.

With this, an expression is read as a type or as a plain value.  A file may put off
the evaluation of its annotations.  Then their names are references, which are
looked up when the whole module is there.
-/

namespace ElmCodec.Reader

open Source (Annot TypeExpr Value Library Form)

/-- What a name of a file stands for. -/
inductive Meaning where
  /-- An object or module of the standard library, by its full name. -/
  | library (full : String)
  /-- Something the file defines or takes from another file. -/
  | own
deriving DecidableEq

/-- The names of a file with their meanings. -/
abbrev Scope := Table String Meaning

/-- The modules of the standard library whose names are understood. -/
def libraryModules : List String :=
  ["typing", "collections.abc", "collections", "dataclasses", "datetime", "decimal", "uuid", "enum",
    "abc", "__future__"]

/-- The forms of `typing` by name. -/
def forms : List Form :=
  [.list, .sequence, .mutableSequence, .tuple, .dict, .set, .frozenSet, .mapping, .iterable,
    .callable, .deque, .type, .optional, .union]

/-- The library classes by name. -/
def libraryClasses : List Library :=
  [.any, .datetime, .date, .decimal, .uuid, .deque, .sequence, .mutableSequence, .mapping, .iterable,
    .callable, .set]

/-- The library object with a full name. -/
def libraryObject? (full : String) : Option Annot :=
  match forms.find? fun f => "typing." ++ f.name == full with
  | some f => some (.form f)
  | none =>
    (libraryClasses.find? fun l => l.module ++ "." ++ l.name == full).map
      fun l => .cls (.library l)

/-- The full name of an expression that names something in the library. -/
def fullName? (scope : Scope) : Expr → Option String
  | .name n =>
    match scope.find? n with
    | some (.library full) => some full
    | _ => none
  | .attribute base n => (fullName? scope base).map (· ++ "." ++ n)
  | _ => none

/-! ## Plain values -/

/-- The plain value of a constant. -/
def constant? (n : String) : Option Value :=
  match Annot.constant? n with
  | some (.value v) => some v
  | _ => none

mutual

/-- The plain value of an expression. -/
def value? : Expr → Option Value
  | .name n => constant? n
  | .text s => some (.text s)
  | .number n => some (.int n)
  | .items .square content => (values? content).map .list
  | .items .round content => (values? content).map .tuple
  | _ => none
termination_by structural e => e

/-- The plain values of expressions. -/
def values? : List Expr → Option (List Value)
  | [] => some []
  | e :: rest => do
    let v ← value? e
    return v :: (← values? rest)
termination_by structural es => es

end

/-! ## Types -/

/-- When the names in a type are looked up. -/
inductive Moment where
  /-- When the type is evaluated. -/
  | now
  /-- When the module is complete. -/
  | later
deriving DecidableEq

/-- When the names in annotations are looked up. -/
def Scope.moment (scope : Scope) : Moment :=
  if scope.find? "annotations" = some (.library "__future__.annotations") then .later else .now

/-- The type that a name of a file stands for. -/
def ownType (m : Moment) (n : String) : TypeExpr :=
  match m with
  | .now => .name n
  | .later => .text n

/-- Two types as alternatives.  References are joined as `typing` joins them. -/
def alternatives (m : Moment) (left right : TypeExpr) : TypeExpr :=
  match m with
  | .now => .either [left, right]
  | .later => .union [left, right]

/-- The type that a name stands for by itself. -/
def namedType? (scope : Scope) (m : Moment) (e : Expr) : Option TypeExpr :=
  match fullName? scope e, e with
  | some full, _ => (libraryObject? full).map .object
  | none, .name n =>
    match scope.find? n, (Annot.constant? n).or (Annot.builtin? n) with
    | none, some a => some (.object a)
    | _, _ => some (ownType m n)
  | none, _ => none

/-- A form or class applied to types, by the full name of the form. -/
def appliedType? (full : Option String) (base : Option TypeExpr) (types : List TypeExpr) :
    Option TypeExpr :=
  match full, types with
  | some "typing.Union", types => some (.union types)
  | some "typing.Optional", [t] => some (.optional t)
  | some "typing.ClassVar", [t] => some (.classVar t)
  | some "typing.Final", [t] => some (.final t)
  | some "dataclasses.InitVar", [t] => some (.initVar t)
  | _, types => base.map (.subscript · types)

/-- The forms that take one type and no tuple of one. -/
def oneTypeForms : List String :=
  ["typing.Optional", "typing.ClassVar", "typing.Final", "dataclasses.InitVar"]

mutual

/-- The type that an expression stands for. -/
def type? (scope : Scope) (m : Moment) : Expr → Option TypeExpr
  | .text s => some (.text s)
  | .number n => some (.value (.int n))
  | .dots => some (.object .ellipsis)
  | .items .square content => (types? scope m content).map .params
  | .either left right => do return alternatives m (← type? scope m left) (← type? scope m right)
  | .applied base .square args =>
    match fullName? scope base, args with
    | some "typing.Literal", [.items .round content] => (values? content).map .literal
    | some "typing.Literal", args => (values? args).map .literal
    | some "typing.Annotated", [.items .round (t :: notes)]
    | some "typing.Annotated", t :: notes => do
      return .annotated (← type? scope m t) (← values? notes)
    | full, [.items .round content] => do
      if content.length == 1 && full.any oneTypeForms.contains then none
      else appliedType? full (type? scope m base) (← types? scope m content)
    | full, args => do appliedType? full (type? scope m base) (← types? scope m args)
  | .name n => namedType? scope m (.name n)
  | .attribute base n => namedType? scope m (.attribute base n)
  | _ => none
termination_by structural e => e

/-- The types that expressions stand for. -/
def types? (scope : Scope) (m : Moment) : List Expr → Option (List TypeExpr)
  | [] => some []
  | e :: rest => do
    let t ← type? scope m e
    return t :: (← types? scope m rest)
termination_by structural es => es

end

end ElmCodec.Reader
