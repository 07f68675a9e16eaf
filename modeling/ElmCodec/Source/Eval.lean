import ElmCodec.Source.Label
import ElmCodec.Source.Reference

/-!
# Evaluation

Steps of evaluation may fail, and they remember the applied forms that were made.
When a form is applied again to equal arguments, `remember` returns what was made
first if that is equal to what would be made now.

Objects become arguments of forms in two ways.  `converted` makes the empty value
its class and a text a reference.  `checked` also refuses what can be no type in
that place.
-/

namespace ElmCodec.Source

/-- A step of evaluation.  It may fail, and it keeps its state then too. -/
abbrev EvalM := ExceptT EvalError (StateM Memory)

namespace EvalM

/-- A result without state as a step of evaluation. -/
def ofExcept {α : Type} (r : Except EvalError α) : EvalM α := ExceptT.mk (pure r)

/-- A step that fails because something is misused. -/
def misuse {α : Type} (m : Misuse) : EvalM α := throw (.misuse m)

/-- A number that no object has. -/
def newSerial : EvalM Nat := do
  let m ← get
  set { m with serial := m.serial + 1 }
  return m.serial

/-- What an application makes, or what an equal one made before. -/
def remember (app : Application) (make : EvalM Annot) : EvalM Annot := do
  let fresh ← make
  if !app.isHashable then return fresh
  match (← get).find? app with
  | none =>
    modify (·.record app fresh)
    return fresh
  | some earlier => return if earlier.same fresh then earlier else fresh

end EvalM

/-! ## Arguments -/

/-- The first hundred characters of a text. -/
def shortened (s : String) : String := String.ofList (s.toList.take 100)

namespace Annot

/-- An annotation as an argument.  The reference that a text becomes may be
lenient. -/
def argument (lenient : Bool) : Annot → Except EvalError Annot
  | .value .nothing => pure noneType
  | .value (.text s) => do
    Reference.check s
    return .forward s lenient
  | a => pure a

/-- An annotation as an argument of a form that takes anything. -/
def converted (a : Annot) : Except EvalError Annot := a.argument false

end Annot

namespace Program

/-- Refuses an annotation that can be no type.  Where this is lenient, a class
variable may stand for a type. -/
def checkType (p : Program) (rule : Rule) (lenient : Bool) (a : Annot) : Except EvalError Unit :=
  match a with
  | .special .classVar _ | .special .final _ =>
    if lenient then pure () else throw (.misuse (.notArgument (p.shown a)))
  | .form .classVar | .form .final =>
    if lenient then pure () else throw (.misuse (.bareForm (p.shown a)))
  | .form .optional | .form .union => throw (.misuse (.bareForm (p.shown a)))
  | .value (.tuple _) | .tuple _ =>
    throw (.misuse (.notAType rule (shortened (p.shown a))))
  | _ => pure ()

/-- An annotation as an argument that has to be a type. -/
def checked (p : Program) (rule : Rule) (lenient : Bool) (a : Annot) : Except EvalError Annot := do
  let a ← a.argument lenient
  p.checkType rule lenient a
  return a

/-- The only object of an index that has to be a type. -/
def checkedOne (p : Program) (rule : Rule) : Index → Except EvalError Annot
  | .one a => p.checked rule false a
  | .many items => throw (.misuse (.notAType rule (shortened (p.shownTuple items))))

end Program

end ElmCodec.Source
