import ElmCodec.Elm.Module
import ElmCodec.Resolve.Exported
import ElmCodec.Resolve.Registry

/-!
# Conversion

The walk over the class graph.  An annotation is converted by its shape.  The
first time a record class is met it is registered, and then its fields are
converted in order.  The next time its record is taken from the registry.

A failure inside a record forgets that record and what was registered after it.
Its place is the innermost one: the first record and field on the way out.

The conversion of records is passed to that of shapes and fields as an argument.
Its own recursion is on a number that is at least that of the classes not yet
registered, and goes down with each class that is.

The hints of a class find what evaluation remembers when the walk comes to it.  Types
that are equal are converted alike, so this only changes the way in which a type is
shown.  A first walk tells the classes in order, and in the program that has asked for
their hints in this order (`during`) a second one shows the types as they are.
-/

namespace ElmCodec

open Source (Program ClassId Shape Annot)

/-- What determines the names of records and fields. -/
structure Style where
  /-- The naming policy. -/
  naming : Naming := .standard
  /-- The record names that are given. -/
  renames : Renames := []

/-- The Elm type of a scalar. -/
def Source.Scalar.primitive : Source.Scalar → Elm.Primitive
  | .bool => .bool
  | .int => .int
  | .float => .float
  | .string => .string

namespace Source.Program

/-- Converts a shape, given the conversion of record classes. -/
def convertShape (p : Program) (record : ClassId → ResolveM Elm.Ty) : Shape → ResolveM Elm.Ty
  | .scalar k => pure (.primitive k.primitive)
  | .optional _ s => do return .nullable (← p.convertShape record s)
  | .sequence _ s => do return .list (← p.convertShape record s)
  | .record id => record id
  | .unsupported reason a => throw (.ofProblem (.unsupported reason (p.label a)))

/-- Converts an exported field of a record, given the conversion of record classes. -/
def convertField (p : Program) (style : Style) (record : ClassId → ResolveM Elm.Ty)
    (owner : String) (f : ExportedField) : ResolveM Elm.Field := do
  let type ← tryCatch (p.convertShape record (p.shape f.hint)) fun e => throw (e.orAt owner f.name)
  let schema := (← ResolveM.registry).records
  match type.declared schema with
  | .error why => throw (.fault (.unwritable why))
  | .ok text =>
    ResolveM.log (.converted owner f.wire.key (p.shown f.hint) text)
    return ⟨f.wire.key, style.naming.valueName f.name, type, f.wire.omittable⟩

/-- Converts exported fields in order. -/
def convertFields (p : Program) (style : Style) (record : ClassId → ResolveM Elm.Ty)
    (owner : String) : List ExportedField → ResolveM (List Elm.Field)
  | [] => pure []
  | f :: rest => do
    let field ← p.convertField style record owner f
    let fields ← p.convertFields style record owner rest
    return field :: fields

/-- Builds the fields of a record class, of which there is at least one. -/
def buildFields (p : Program) (style : Style) (record : ClassId → ResolveM Elm.Ty)
    (id : ClassId) : ResolveM (List Elm.Field) := do
  let owner := p.className (.declared id)
  let exported ← ResolveM.ofExcept (p.exportedFields id)
  let fields ← p.convertFields style record owner exported
  if fields.isEmpty then throw (.ofRecord .noField owner) else return fields

/-- Converts a record class that is not registered, given the conversion of the
classes it refers to. -/
def convertNew (p : Program) (style : Style) (record : ClassId → ResolveM Elm.Ty)
    (id : ClassId) : ResolveM Elm.Ty := do
  let name := style.naming.recordName style.renames (p.className (.declared id))
  let mark := (← ResolveM.registry).next
  ResolveM.update (·.register id name)
  ResolveM.log (.discovered id (p.fullName (.declared id)) name)
  let fields ← tryCatch (p.buildFields style record id) fun e => do
    ResolveM.update (·.rollback mark)
    throw e
  ResolveM.update (·.fill mark fields)
  return .record mark

/-- Converts a record class, where at most so many classes are not registered. -/
def convertClass (p : Program) (style : Style) : Nat → ClassId → ResolveM Elm.Ty
  | unregistered, id => do
    match (← ResolveM.registry).find? id with
    | some place =>
      ResolveM.log (.reused (p.fullName (.declared id)))
      return .record place
    | none =>
      match unregistered with
      | 0 => throw (.fault (.undeclared id))
      | n + 1 => p.convertNew style (p.convertClass style n) id

/-- Converts a record class of the program. -/
def convertRecord (p : Program) (style : Style) (id : ClassId) : ResolveM Elm.Ty :=
  p.convertClass style p.classes.length id

/-- Converts an annotation. -/
def convert (p : Program) (style : Style) (a : Annot) : ResolveM Elm.Ty :=
  p.convertShape (p.convertRecord style) (p.shape a)

/-- Builds the fields of an annotation that is a record class.  Objects without hints
fail before the others that have no fields. -/
def convertFieldsOf (p : Program) (style : Style) (a : Annot) : ResolveM (List Elm.Field) :=
  match a with
  | .cls (.declared id) => p.buildFields style (p.convertRecord style) id
  | a => do
    let _ ← ResolveM.ofExcept (p.recordHints a)
    throw (.fault (if a matches .object .. then .nameless (p.kindOf a) else .notARecordClass))

/-- Converts an annotation and makes it the root if it is a record. -/
def convertRoot (p : Program) (style : Style) (a : Annot) : ResolveM Elm.Ty := do
  let type ← p.convert style a
  match p.shape a with
  | .record id => ResolveM.update fun r => { r with root := r.find? id }
  | _ => pure ()
  return type

/-- The program in which a walk finds what evaluation remembers on the way. -/
def during {α : Type} (p : Program) (walk : Program → ResolveM α) (s : Session) : Program :=
  ((walk p).run { s with events := [] }).2.visited.foldl asking p

/-! ## Whole resolutions -/

/-- Resolves a definition, which has to be a record, with all records that it
refers to. -/
def resolve (p : Program) (style : Style) (a : Annot) : ResolveM Elm.Resolution := do
  let id ← ResolveM.ofExcept (p.ensureRecord a)
  let root ← p.convertRoot style (.cls (.declared id))
  let registry ← ResolveM.registry
  let schema := registry.records
  ResolveM.log (.resolved (root.name schema) (registry.nested.map (Elm.Ty.name schema)))
  return ⟨schema, root, registry.nested⟩

/-- The text of the Elm module of a definition. -/
def elmModule (p : Program) (style : Style) (banner : List String) (a : Annot) :
    ResolveM String := do
  let resolution ← p.resolve style a
  match Elm.emit {} resolution banner with
  | .ok text => return text
  | .error why => throw (.fault (.unwritable why))

end Source.Program

end ElmCodec
