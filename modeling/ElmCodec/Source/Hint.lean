import ElmCodec.Source.Attribute

/-!
# Type hints

The hints of a class are its annotations and those of its ancestors with every
reference resolved.  A reference is evaluated in the scope of the class that holds
the annotation, and what it stands for is resolved in turn.  So synonyms are
followed.  While the value of a reference is being resolved, a reference with the
same text stays as it is.

In the end the notes on types are removed at every depth.  An annotation in which
nothing changes stays the object that it is.  Otherwise it is made again, and then
unions are flat and without repetitions once more.

Each step from a reference to its value adds a text to those that are being
resolved.  Every such text stands in the scope or inside another such text, so the
number of characters in the scope bounds the steps.
-/

namespace ElmCodec.Source

namespace Annot

mutual

/-- The texts inside an annotation that may be references. -/
def texts : Annot → List String
  | .value v => [v.shown]
  | .forward s _ => [s]
  | .applied _ args | .signature args | .special _ args | .generic _ args | .params args
  | .tuple args => allTexts args
  | .union members | .pipe members => allTexts members
  | .annotated t _ => texts t
  | .initVar _ t => texts t
  | .literal values => values.map Value.shown
  | _ => []
termination_by structural a => a

/-- The texts inside some annotations that may be references. -/
def allTexts : List Annot → List String
  | [] => []
  | a :: rest => texts a ++ allTexts rest
termination_by structural as => as

end

/-- Checks the texts among the arguments of a class. -/
def checkTexts (args : List Annot) : Except EvalError Unit :=
  args.forM fun a =>
    match a with
    | .value (.text s) => Reference.check s
    | _ => pure ()

/-- A text as the reference that it is inside a class. -/
def reference : Annot → Annot
  | .value (.text s) => .forward s false
  | a => a

/-- What some arguments have become, which are the ones before if nothing changed. -/
def changed (before after : List Annot) : List Annot :=
  if sameAll after before then before else after

end Annot

/-- How a reference is resolved, which may be lenient. -/
abbrev Resolver := Bool → String → EvalM Annot

namespace Program

open Annot (sameAll changed)

/-- The class of callables with arguments that were resolved.  Once one has changed,
parameters and result are no longer told apart. -/
def signatureOf (before after : List Annot) : Annot :=
  if sameAll after before then .signature before else .applied (.library .callable) after

/-- A union of `typing` with members that were resolved. -/
def unionAgain (p : Program) (before after : List Annot) : EvalM Annot :=
  if sameAll after before then pure (.union before) else p.union (.many after)

/-- A union written with `|` with members that were resolved. -/
def pipeAgain (p : Program) (before after : List Annot) : EvalM Annot :=
  if sameAll after before then pure (.pipe before) else p.joinAll after

mutual

/-- Resolves the references inside an annotation. -/
def resolveWith (p : Program) (look : Resolver) : Annot → EvalM Annot
  | .forward s lenient => look lenient s
  | .applied c args => do
    EvalM.ofExcept (Annot.checkTexts args)
    return .applied c (changed (args.map Annot.reference) (← resolveAll p look args))
  | .signature args => do
    EvalM.ofExcept (Annot.checkTexts args)
    return signatureOf (args.map Annot.reference) (← resolveAll p look args)
  | .special f args => do return .special f (changed args (← resolveAll p look args))
  | .generic c args => do return .generic c (changed args (← resolveAll p look args))
  | .union members => do p.unionAgain members (← resolveAll p look members)
  | .pipe members => do p.pipeAgain members (← resolveAll p look members)
  | .annotated t notes => do
    let u ← resolveWith p look t
    if u.same t then return .annotated t notes else EvalM.ofExcept (p.withNotes u notes)
  | a => pure a
termination_by structural a => a

/-- Resolves the references inside some annotations, where a text is one. -/
def resolveAll (p : Program) (look : Resolver) : List Annot → EvalM (List Annot)
  | [] => pure []
  | .value (.text s) :: rest => do
    let a ← look false s
    return a :: (← resolveAll p look rest)
  | a :: rest => do
    let a ← resolveWith p look a
    return a :: (← resolveAll p look rest)
termination_by structural as => as

end

mutual

/-- Removes the notes inside an annotation. -/
def withoutNotes (p : Program) : Annot → EvalM Annot
  | .annotated t _ => withoutNotes p t
  | .applied c args => do return .applied c (changed args (← allWithoutNotes p args))
  | .signature args => do return signatureOf args (← allWithoutNotes p args)
  | .special f args => do return .special f (changed args (← allWithoutNotes p args))
  | .generic c args => do return .generic c (changed args (← allWithoutNotes p args))
  | .union members => do p.unionAgain members (← allWithoutNotes p members)
  | .pipe members => do p.pipeAgain members (← allWithoutNotes p members)
  | a => pure a
termination_by structural a => a

/-- Removes the notes inside some annotations. -/
def allWithoutNotes (p : Program) : List Annot → EvalM (List Annot)
  | [] => pure []
  | a :: rest => do
    let a ← withoutNotes p a
    return a :: (← allWithoutNotes p rest)
termination_by structural as => as

end

/-! ## References -/

/-- Resolves a reference in a scope, in at most so many steps.  `resolving` holds the
texts whose values are being resolved. -/
def resolveReference (p : Program) (s : Scope) : Nat → List String → Resolver
  | steps, resolving, lenient, text => do
    if resolving.contains text then return .forward text lenient
    match steps with
    | 0 => return .forward text lenient
    | steps + 1 =>
      let a ← p.evalReference s text
      let t ← EvalM.ofExcept (p.checked .reference lenient a)
      p.resolveWith (p.resolveReference s steps (text :: resolving)) t

/-- A number that bounds the steps of resolving an annotation in a scope. -/
def stepBound (s : Scope) (a : Annot) : Nat :=
  (Text.joinWith "  " (a.texts ++ Annot.allTexts (s.bindings.map Prod.snd) ++
    Annot.allTexts (s.attributes.map Prod.snd) ++
    Annot.allTexts (s.given.map Prod.snd))).length + 10

/-- Resolves the annotation of a class in its scope. -/
def resolveAnnot (p : Program) (s : Scope) (a : Annot) : EvalM Annot :=
  let look := p.resolveReference s (stepBound s a) []
  match a with
  | .value .nothing => pure .noneType
  | .value (.text text) => do
    EvalM.ofExcept (Reference.check text)
    look true text
  | a => p.resolveWith look a

/-! ## Hints of a class -/

/-- Adds the resolved annotations of a class to a table of hints. -/
def addHints (p : Program) (s : Scope) (table : Table String Annot) :
    List FieldDecl → EvalM (Table String Annot)
  | [] => pure table
  | f :: rest => do
    let hint ← p.resolveAnnot s f.type
    p.addHints s (table.insert f.name hint) rest

/-- The hints from some classes, with the notes still on them. -/
def gatherHints (p : Program) (table : Table String Annot) :
    List ClassRef → EvalM (Table String Annot)
  | [] => pure table
  | .declared id :: rest => do
    let d := p.classAt? id
    let scope := d.elim {} (p.scopeOf id)
    let table ← p.addHints scope table (d.elim [] ClassDecl.annotations)
    p.gatherHints table rest
  | _ :: rest => p.gatherHints table rest

/-- The hints without notes. -/
def clearHints (p : Program) : Table String Annot → EvalM (Table String Annot)
  | [] => pure []
  | (name, hint) :: rest => do
    let hint ← p.withoutNotes hint
    return (name, hint) :: (← p.clearHints rest)

/-- Evaluates the hints of a class. -/
def evalHints (p : Program) (id : ClassId) : EvalM (Table String Annot) := do
  p.clearHints (← p.gatherHints [] (p.lineage id).reverse)

/-- The hints of a class.  They start from what evaluation remembers around the class, which
can be seen in one way only: of unions that are equal, the one that was made first is shown. -/
def hints (p : Program) (id : ClassId) : Except EvalError (Table String Annot) :=
  ((p.evalHints id).run (p.surroundingsOf id).memory).1

/-- The program after the hints of a class were asked for.  It remembers what they made, and
what they found. -/
def asking (p : Program) (id : ClassId) : Program :=
  { p with
    memory := ((p.evalHints id).run p.memory).2
    surroundings := p.surroundings.insert id { p.surroundingsOf id with memory := p.memory } }

/-- The hints of any object.  Modules, functions and objects without fields have none,
and others that are no classes cannot have any. -/
def hintsOf (p : Program) (a : Annot) : Except EvalError (Table String Annot) :=
  let refused := throw (.misuse (.noHints (p.shown a)))
  match a with
  | .cls (.declared id) => p.hints id
  | .cls _ | .function .. | .routine .. | .module _ | .signature _ => pure []
  | .applied (.builtin _) _ | .applied (.library .deque) _ => refused
  | .applied .. => pure []
  | .object _ kind text _ => if text = kind ++ "()" then pure [] else refused
  | _ => refused

end Program

end ElmCodec.Source
