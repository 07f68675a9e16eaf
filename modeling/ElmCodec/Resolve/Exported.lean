import ElmCodec.Resolve.Failure

/-!
# Exported fields

What the walk over the class graph needs of a record class: its exported fields in
order, each with its key in JSON and its hint.  The hints come first.  If one of
them cannot be resolved, also that of a private field or of an ancestor, the class
has no exported fields at all.
-/

namespace ElmCodec

/-- An exported field of a record class. -/
structure ExportedField where
  /-- The declared name. -/
  name : String
  /-- The key in JSON. -/
  wire : Wire
  /-- The resolved annotation. -/
  hint : Source.Annot

namespace Source.Program

/-- The exported field of a declaration, with its hint. -/
def exportField (hints : Table String Annot) (f : FieldDecl) : Except Failure ExportedField :=
  match hints.find? f.name with
  | some hint => pure ⟨f.name, Wire.of f.name f.tag, hint⟩
  | none => throw (.fault (.noHint f.name))

/-- The hints of an object, or the failure to resolve them. -/
def recordHints (p : Program) (a : Annot) : Except Failure (Table String Annot) :=
  (p.hintsOf a).mapError (Failure.ofHints (p.ownName? a) (p.kindOf a))

/-- The exported fields of a class. -/
def exportedFields (p : Program) (id : ClassId) : Except Failure (List ExportedField) := do
  let hints ← p.recordHints (.cls (.declared id))
  match p.fields? id with
  | none => throw (.fault .notARecordClass)
  | some fields => (fields.filter fun f => isExported f.name).mapM (exportField hints)

/-- The record class that an annotation is. -/
def ensureRecord (p : Program) (a : Annot) : Except Failure ClassId :=
  let refuse := throw (.ofProblem (.notARecord (p.definitionLabel a)))
  match a with
  | .cls (.declared id) => if p.isRecordClass id then pure id else refuse
  | _ => refuse

end Source.Program

end ElmCodec
