import ElmCodec.Source.Ancestor
import ElmCodec.Source.Variable

/-!
# Arguments in square brackets

What an object makes of arguments in square brackets.  A class takes them as the
first class of its lineage that knows about arguments does: containers keep them,
and generic classes convert and count them.  A form of `typing` converts and checks
them.  An applied form takes them for its type variables, an enumeration gives one
of its members, and a sequence one of its items.
-/

namespace ElmCodec.Source

/-- Whether a class says what its descendants make of arguments. -/
def ClassRef.takesArguments : ClassRef → Bool
  | .builtin .list | .builtin .tuple | .builtin .dict | .builtin .set | .builtin .frozenset => true
  | .builtin (.other name) => ["enumerate", "BaseExceptionGroup", "ExceptionGroup"].contains name
  | .library .deque | .library .iterable | .library .container | .library .callable
  | .library .generic => true
  | _ => false

/-- How many arguments a form takes.  For some this is not fixed. -/
def Form.arity? : Form → Option Nat
  | .list | .sequence | .mutableSequence | .set | .frozenSet | .iterable | .deque | .type => some 1
  | .dict | .mapping => some 2
  | _ => none

namespace Index

/-- The name of the class of what stands between brackets. -/
def kind (p : Program) : Index → String
  | .one a => p.kindOf a
  | .many _ => "tuple"

/-- What stands between brackets as it is shown. -/
def shown (p : Program) : Index → String
  | .one a => p.shown a
  | .many items => p.shownTuple items

end Index

namespace Program

/-! ## Classes -/

/-- A member of an enumeration. -/
def enumerationMember (p : Program) (c : ClassRef) (index : Index) : Except EvalError Annot :=
  let absent : Except EvalError Annot :=
    match Annot.firstUnhashable? index.items with
    | some kind => throw (.misuse (.unhashable kind))
    | none => throw (.noMember (index.shown p))
  match c, index with
  | .declared id, .one (.value (.text s)) =>
    match (p.classAt? id).bind fun d => d.members.find? s with
    | some number => pure (.member id s number)
    | none => absent
  | _, _ => absent

/-- A generic class applied to arguments. -/
def applyGeneric (p : Program) (id : ClassId) (index : Index) : EvalM Annot :=
  EvalM.remember ⟨.cls (.declared id), index⟩ (EvalM.ofExcept do
    let args ← index.items.mapM Annot.converted
    let expected := ((p.classAt? id).elim [] ClassDecl.parameters).length
    let shown := p.shownClass (.declared id)
    if expected = 0 then throw (.misuse (.notGeneric shown))
    if args.length != expected then
      throw (.misuse (.count shown args.length expected (args.length < expected)))
    return .generic id args)

/-- The class of callables applied to parameters and a result. -/
def applySignature (p : Program) : Index → Except EvalError Annot
  | .many [.params types, result] | .many [.tuple types, result] =>
    pure (.signature (types ++ [result]))
  | .many [.value (.list items), result] | .many [.value (.tuple items), result] =>
    pure (.signature (items.map .value ++ [result]))
  | .many [.ellipsis, result] => pure (.signature [.ellipsis, result])
  | .many [a, _] => throw (.misuse (.parameters (p.plain a)))
  | _ => throw (.misuse .callable)

/-- A class applied to arguments. -/
def applyClass (p : Program) (c : ClassRef) (index : Index) : EvalM Annot :=
  if p.isEnumeration c then EvalM.ofExcept (p.enumerationMember c index)
  else if c = .builtin .type then pure (.applied c index.items)
  else
    match (p.lineageOf c).find? ClassRef.takesArguments, c with
    | none, _ => EvalM.misuse (.closedClass (p.technicalName c))
    | some (.library .generic), .declared id => p.applyGeneric id index
    | some (.library .callable), .library .callable => EvalM.ofExcept (p.applySignature index)
    | some _, _ => pure (.applied c index.items)

/-! ## Forms -/

/-- The arguments of a form with a fixed number of them. -/
def countedArguments (p : Program) (f : Form) (arity : Nat) (items : List Annot) :
    Except EvalError (List Annot) := do
  let args ← items.mapM (p.checked .arguments false)
  if args.length != arity then
    throw (.misuse (.count (p.shown (.form f)) args.length arity false))
  return args

/-- The elements of a tuple.  Dots after some elements say that its length is not
fixed. -/
def tupleArguments (p : Program) (items : List Annot) : Except EvalError (List Annot) :=
  match items.getLast?, items.length with
  | some .ellipsis, _ + 2 => do
    return (← items.dropLast.mapM (p.checked .tupleElement false)) ++ [.ellipsis]
  | _, _ => items.mapM (p.checked .tupleElements false)

/-- The parameters of a callable by themselves. -/
def parameterItems : Annot → List Annot
  | .params types | .tuple types => types
  | .value (.list items) | .value (.tuple items) => items.map .value
  | a => [a]

/-- A callable of `typing` with parameters and a result. -/
def applyCallable (p : Program) (index : Index) : EvalM Annot :=
  match index with
  | .many [parameters, result] =>
    let items := parameterItems parameters
    EvalM.remember ⟨.form .callable, .many (items ++ [result])⟩ (EvalM.ofExcept do
      let result ← p.checked .result false result
      return .special .callable ((← items.mapM Annot.converted) ++ [result]))
  | _ => EvalM.misuse .callable

/-- A type with notes.  The type comes first between the brackets, and at least one note
after it. -/
def annotate (p : Program) (index : Index) : EvalM Annot :=
  EvalM.remember ⟨.form .annotated, index⟩ (EvalM.ofExcept
    (match index with
    | .many (a :: note :: notes) => do p.withNotes (← p.checked .noted true a) (note :: notes)
    | _ => throw (.misuse .noNotes)))

/-- A form applied to arguments. -/
def applyForm (p : Program) (f : Form) (index : Index) : EvalM Annot :=
  let made (args : Except EvalError (List Annot)) : EvalM Annot :=
    EvalM.remember ⟨.form f, index⟩ (EvalM.ofExcept do return .special f (← args))
  match f, f.arity? with
  | .union, _ => p.union index
  | .optional, _ => p.optional index
  | .callable, _ => p.applyCallable index
  | .annotated, _ => p.annotate index
  | .tuple, _ => made (p.tupleArguments index.items)
  | _, some arity => made (p.countedArguments f arity index.items)
  | _, none => made do return [← p.checkedOne (.only f.name) index]

/-! ## Sequences -/

/-- The item of a sequence at a number, which counts from the end if it is
negative. -/
def itemAt? (items : List Annot) (n : Int) : Option Annot :=
  let n := if n < 0 then n + items.length else n
  if n < 0 then none else items[n.toNat]?

/-- An item of a sequence of a kind. -/
def sequenceItem (p : Program) (sequence : String) (items : List Annot) (index : Index) :
    Except EvalError Annot :=
  let refused := throw (.misuse (.badIndex sequence (index.kind p)))
  match index with
  | .one (.value v) =>
    match v.number? with
    | some n =>
      match itemAt? items n with
      | some a => pure a
      | none => throw (.outOfRange sequence)
    | none => refused
  | _ => refused

/-- What an object makes of arguments in square brackets. -/
def subscript (p : Program) (a : Annot) (index : Index) : EvalM Annot :=
  match a with
  | .cls c => p.applyClass c index
  | .form f => p.applyForm f index
  | .applied .. | .signature _ | .special .. | .generic .. | .union _ | .pipe _ | .annotated ..
  | .literal _ => p.reapply a index
  | .value (.text s) =>
    EvalM.ofExcept (p.sequenceItem "str" (s.toList.map fun c => .text c.toString) index)
  | .value (.list items) => EvalM.ofExcept (p.sequenceItem "list" (items.map .value) index)
  | .value (.tuple items) => EvalM.ofExcept (p.sequenceItem "tuple" (items.map .value) index)
  | .params types => EvalM.ofExcept (p.sequenceItem "list" types index)
  | .tuple items => EvalM.ofExcept (p.sequenceItem "tuple" items index)
  | a => EvalM.misuse (.noItems (p.kindOf a))

end Program

end ElmCodec.Source
