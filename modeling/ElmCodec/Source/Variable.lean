import ElmCodec.Source.Union

/-!
# Type variables

The type variables of an applied form are those of its arguments, in the order of
their first appearance.  The form can be applied again to as many arguments, which
take the places of the variables at every depth.

A form of `typing` converts the new arguments before it counts them.  A class
counts them first.  A variable takes only what can be a type.
-/

namespace ElmCodec.Source

namespace Annot

mutual

/-- The type variables of an annotation, with repetitions. -/
def allVariables : Annot → List Variable
  | .typeVar serial name => [(serial, name)]
  | .applied _ args | .signature args | .special _ args | .generic _ args => listVariables args
  | .union members | .pipe members => listVariables members
  | .annotated t _ => allVariables t
  | _ => []
termination_by structural a => a

/-- The type variables of some annotations, with repetitions. -/
def listVariables : List Annot → List Variable
  | [] => []
  | a :: rest => allVariables a ++ listVariables rest
termination_by structural as => as

end

/-- The type variables of an annotation, each once. -/
def typeVars (a : Annot) : List Variable := a.allVariables.eraseDups

/-- The items of tuples in the place of these. -/
def spread : List Annot → List Annot
  | [] => []
  | .value (.tuple items) :: rest => items.map .value ++ spread rest
  | .tuple items :: rest => items ++ spread rest
  | a :: rest => a :: spread rest

end Annot

/-- The objects that type variables stand for. -/
abbrev Assignment := Table Variable Annot

namespace Program

/-- The objects for the variables of an annotation, whose number has to be right. -/
def assign (p : Program) (whole : Annot) (items : List Annot) : Except EvalError Assignment :=
  let typeVars := whole.typeVars
  if typeVars.isEmpty then throw (.misuse (.notGeneric (p.shown whole)))
  else if typeVars.length != items.length then
    throw (.misuse (.count (p.shown whole) items.length typeVars.length false))
  else pure (typeVars.zip items)

/-- The objects for the variables of a form of `typing`. -/
def assignConverted (p : Program) (whole : Annot) (items : List Annot) :
    Except EvalError Assignment := do
  if whole.typeVars.isEmpty then throw (.misuse (.notGeneric (p.shown whole)))
  p.assign whole (← items.mapM Annot.converted)

/-- What a type variable stands for. -/
def variableValue (p : Program) (values : Assignment) (serial : Nat) (name : String) :
    Except EvalError Annot :=
  p.checked .arguments false ((values.find? (serial, name)).getD (.typeVar serial name))

/-- The arguments for the variables of an annotation inside another. -/
def innerIndex (values : Assignment) (a : Annot) : Index :=
  .many (a.typeVars.map fun v => (values.find? v).getD (.typeVar v.1 v.2))

/-- An annotation with objects in the places of its type variables, given how it is
applied again. -/
def replaced (p : Program) (values : Assignment) (again : Index → EvalM Annot) :
    Annot → EvalM Annot
  | .typeVar serial name => EvalM.ofExcept (p.variableValue values serial name)
  | a => if a.typeVars.isEmpty then pure a else again (innerIndex values a)

mutual

/-- An applied form applied again. -/
def reapply (p : Program) : Annot → Index → EvalM Annot
  | .applied c args, index => do
    let values ← EvalM.ofExcept (p.assign (.applied c args) index.items)
    return .applied c (← substituteAll p values args)
  | .signature args, index => do
    let values ← EvalM.ofExcept (p.assign (.signature args) index.items)
    return .signature (← substituteAll p values args)
  | .special f args, index =>
    EvalM.remember ⟨.special f args, index⟩ (do
      let values ← EvalM.ofExcept (p.assignConverted (.special f args) index.items)
      let args ← substituteAll p values args
      return .special f (if f = .callable then Annot.spread args else args))
  | .generic c args, index =>
    EvalM.remember ⟨.generic c args, index⟩ (do
      let values ← EvalM.ofExcept (p.assignConverted (.generic c args) index.items)
      return .generic c (← substituteAll p values args))
  | .union members, index =>
    EvalM.remember ⟨.union members, index⟩ (do
      let values ← EvalM.ofExcept (p.assignConverted (.union members) index.items)
      p.union (.many (← substituteAll p values members)))
  | .pipe members, index => do
    let values ← EvalM.ofExcept (p.assign (.pipe members) index.items)
    p.joinAll (← substituteAll p values members)
  | .annotated t notes, index =>
    EvalM.remember ⟨.annotated t notes, index⟩ (do
      let values ← EvalM.ofExcept (p.assignConverted (.annotated t notes) index.items)
      EvalM.ofExcept (p.withNotes (← replaced p values (reapply p t) t) notes))
  | a, _ => EvalM.misuse (.notGeneric (p.shown a))
termination_by structural a => a

/-- Annotations with objects in the places of their type variables. -/
def substituteAll (p : Program) (values : Assignment) : List Annot → EvalM (List Annot)
  | [] => pure []
  | a :: rest => do
    let a ← replaced p values (reapply p a) a
    return a :: (← substituteAll p values rest)
termination_by structural as => as

end

end Program

end ElmCodec.Source
