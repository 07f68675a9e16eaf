import ElmCodec.Source.Label

/-!
# Shapes

The shape of an annotation is what it means for JSON: a scalar, a value that may
be null, a sequence, a record, or something that has no counterpart, with the
reason.  A shape keeps the annotations of its elements as they were written, so
that messages can name them.  Notes on a type do not change its shape.

A union has a shape if it adds the empty value to exactly one other member.  The
spellings of sequences are the lists, the two abstract sequences, each with
exactly one argument, and the tuples of the form `tuple[T, ...]`.
-/

namespace ElmCodec.Source

/-- The annotations with a primitive counterpart. -/
inductive Scalar where
  | bool | int | float | string
deriving DecidableEq

/-- Why an annotation has no counterpart. -/
inductive Reason where
  /-- A union of several types. -/
  | union
  /-- A sequence without exactly one element type. -/
  | noElement
  /-- A tuple of fixed length. -/
  | fixedTuple
  /-- A class or form applied to arguments that is no sequence. -/
  | applied (label : String)
  /-- A builtin class that is no scalar. -/
  | builtin
  /-- Anything else. -/
  | other
deriving DecidableEq

/-- The text of a reason. -/
def Reason.message : Reason → String
  | .union => "union types are not supported"
  | .noElement => "sequence has no element type"
  | .fixedTuple => "only homogeneous tuples are supported"
  | .applied label => label ++ " types are not supported"
  | .builtin => "unsupported primitive type"
  | .other => "unsupported type"

/-- What an annotation means for JSON. -/
inductive Shape where
  /-- A scalar. -/
  | scalar (k : Scalar)
  /-- An element or null. -/
  | optional (elem : Annot) (shape : Shape)
  /-- A sequence of elements. -/
  | sequence (elem : Annot) (shape : Shape)
  /-- A record. -/
  | record (id : ClassId)
  /-- No counterpart. -/
  | unsupported (reason : Reason) (a : Annot)

/-- The classes whose instances are sequences of one element type. -/
def ClassRef.isSequence (c : ClassRef) : Bool :=
  c == .builtin .list || c == .library .sequence || c == .library .mutableSequence

namespace Program

/-- Whether a declared class comes from a module that calls itself the builtin one. -/
def isBuiltinDeclared (p : Program) (id : ClassId) : Bool :=
  (p.classAt? id).any fun d => d.module == "builtins"

/-- The shape of a class by itself. -/
def classShape (p : Program) (c : ClassRef) : Shape :=
  match c with
  | .builtin .bool => .scalar .bool
  | .builtin .int => .scalar .int
  | .builtin .float => .scalar .float
  | .builtin .str => .scalar .string
  | .builtin b =>
    .unsupported (if c.isSequence || b == .tuple then .noElement else .builtin) (.cls c)
  | .library _ => .unsupported (if c.isSequence then .noElement else .other) (.cls c)
  | .declared id =>
    if p.isRecordClass id then .record id
    else .unsupported (if p.isBuiltinDeclared id then .builtin else .other) (.cls c)

/-- The shape of a class or form with arguments, whose shapes are given. -/
def appliedShape (p : Program) (whole : Annot) (c : ClassRef) (args : List Annot)
    (shapes : List Shape) : Shape :=
  if c.isSequence then
    match args, shapes with
    | [t], [s] => .sequence t s
    | _, _ => .unsupported .noElement whole
  else if c = .builtin .tuple then
    match args, shapes with
    | [t, .ellipsis], s :: _ => .sequence t s
    | _, _ => .unsupported .fixedTuple whole
  else .unsupported (.applied (p.className c)) whole

/-- The shape of a union, whose members' shapes are given. -/
def unionShape (whole : Annot) (members : List Annot) (shapes : List Shape) : Shape :=
  match (members.zip shapes).filter fun m => !m.1.isNoneType with
  | [(t, s)] => if 1 < members.length then .optional t s else .unsupported .union whole
  | _ => .unsupported .union whole

/-- The shape of a form whose arguments' shapes are given. -/
def formShape (p : Program) (whole : Annot) (f : Form) (args : List Annot)
    (shapes : List Shape) : Shape :=
  match f.origin?, args with
  | some c, _ => p.appliedShape whole c args shapes
  | none, [] => .unsupported .other whole
  | none, _ => .unsupported (.applied f.name) whole

mutual

/-- The shape of an annotation. -/
def shape (p : Program) : Annot → Shape
  | .cls c => p.classShape c
  | .form f => p.formShape (.form f) f [] []
  | .applied c args => p.appliedShape (.applied c args) c args (shapes p args)
  | .signature args =>
    .unsupported (.applied (p.className (.library .callable))) (.signature args)
  | .special f args => p.formShape (.special f args) f args (shapes p args)
  | .generic c args => .unsupported (.applied (p.className (.declared c))) (.generic c args)
  | .union members => unionShape (.union members) members (shapes p members)
  | .pipe members => unionShape (.pipe members) members (shapes p members)
  | .annotated t _ => shape p t
  | .literal values => .unsupported (.applied "Literal") (.literal values)
  | a => .unsupported .other a
termination_by structural a => a

/-- The shapes of a list of annotations. -/
def shapes (p : Program) : List Annot → List Shape
  | [] => []
  | a :: rest => shape p a :: shapes p rest
termination_by structural as => as

end

/-- The annotation without notes around it. -/
def core : Annot → Annot
  | .annotated t _ => core t
  | a => a

end Program

end ElmCodec.Source
