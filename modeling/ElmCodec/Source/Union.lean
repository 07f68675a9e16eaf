import ElmCodec.Source.Eval

/-!
# Unions

A union of `typing` takes any types, converts them, takes in the members of unions
among them, and leaves out repetitions.  For this each member needs a hash.

Two objects joined by `|` make such a union if one of them belongs to `typing`.
Classes, and classes applied to arguments, make the other kind of union.  Numbers
are joined bit by bit.
-/

namespace ElmCodec.Source

namespace Annot

/-- The members of unions of either kind in the place of these. -/
def flattened : List Annot → List Annot
  | [] => []
  | .union members :: rest => members ++ flattened rest
  | .pipe members :: rest => members ++ flattened rest
  | a :: rest => a :: flattened rest

/-- A union of `typing` of members that were checked. -/
def unionOf (members : List Annot) : Annot :=
  match distinct (flattened members) with
  | [a] => a
  | members => .union members

/-- A union written with `|`. -/
def pipeOf (members : List Annot) : Annot :=
  match distinct (flattened members) with
  | [a] => a
  | members => .pipe members

/-- Whether joining an annotation with another makes a union of `typing`. -/
def isTyping : Annot → Bool
  | .form .annotated => false
  | .form _ | .forward .. | .special .. | .generic .. | .union _ | .annotated .. | .literal _
  | .typeVar .. | .newType .. => true
  | _ => false

/-- Whether an annotation can be a member of a union written with `|`. -/
def isClassLike : Annot → Bool
  | .cls _ | .form .annotated | .applied .. | .signature _ | .pipe _ | .value .nothing => true
  | _ => false

/-- A member of a union written with `|`, where the empty value is its class. -/
def asClass : Annot → Annot
  | .value .nothing => noneType
  | a => a

/-- What the `|` of two objects that do not belong to `typing` makes. -/
def joined? (a b : Annot) : Option Annot :=
  match a, b with
  | .value .nothing, .value .nothing => none
  | .value v, .value w => (v.either? w).map .value
  | a, b => if a.isClassLike && b.isClassLike then some (pipeOf [a.asClass, b.asClass]) else none

end Annot

namespace Program

/-- A type with notes.  Notes on a type that has some go after them.  Objects that do
not come from a module have none. -/
def withNotes (p : Program) (t : Annot) (notes : List Annot) : Except EvalError Annot :=
  match t with
  | .annotated t earlier => pure (.annotated t (earlier ++ notes))
  | .value _ | .ellipsis | .params _ | .tuple _ | .module _ | .object _ "NotImplementedType" _ _ =>
    throw (.noAttribute (p.attributeOwner t) "__module__")
  | t => pure (.annotated t notes)

/-- The union of checked members, which need hashes. -/
def hashedUnion (members : List Annot) : Except EvalError Annot :=
  match Annot.firstUnhashable? (Annot.flattened members) with
  | some kind => throw (.misuse (.unhashable kind))
  | none => pure (Annot.unionOf members)

/-- The union of `typing` of the objects of an index. -/
def union (p : Program) (index : Index) : EvalM Annot :=
  EvalM.remember ⟨.form .union, index⟩ (EvalM.ofExcept do
    if index.items.isEmpty then throw (.misuse .emptyUnion)
    hashedUnion (← index.items.mapM (p.checked .member false)))

/-- The union of the only object of an index with the empty value. -/
def optional (p : Program) (index : Index) : EvalM Annot :=
  EvalM.remember ⟨.form .optional, index⟩ (do
    let a ← EvalM.ofExcept (p.checkedOne .optional index)
    p.union (.many [a, .noneType]))

/-- Two objects joined by `|`. -/
def join (p : Program) (a b : Annot) : EvalM Annot :=
  if a.isTyping || b.isTyping then p.union (.many [a, b])
  else
    match a.joined? b with
    | some joined => pure joined
    | none => EvalM.misuse (.operands (p.kindOf a) (p.kindOf b))

/-- Objects joined by `|` from left to right. -/
def joinAll (p : Program) : List Annot → EvalM Annot
  | [] => pure (.value .nothing)
  | a :: rest => rest.foldlM p.join a

end Program

end ElmCodec.Source
