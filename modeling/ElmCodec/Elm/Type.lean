import ElmCodec.Text.Case

/-!
# Elm types

The types of record fields in an Elm module.  Records refer to each other and to
themselves, so a type names a record by its place in a *schema*, the list of
record definitions.

Three texts are written for a type: its name in a type declaration, its JSON
decoder and its JSON encoder.  A nullable type is written as the type itself, and
the field that has it adds the `Maybe`.  A list or nullable without an element
type and a type of a foreign kind cannot be written.
-/

namespace ElmCodec.Elm

/-- The place of a record definition in a schema. -/
abbrev RecordId := Nat

/-- A type built into Elm, with the name of its codec. -/
structure Primitive where
  /-- The name in type declarations. -/
  name : String
  /-- The name of the decoder and of the encoder in their modules. -/
  codec : String
deriving DecidableEq

namespace Primitive

/-- Truth values. -/
def bool : Primitive := ⟨"Bool", "bool"⟩

/-- Whole numbers. -/
def int : Primitive := ⟨"Int", "int"⟩

/-- Numbers. -/
def float : Primitive := ⟨"Float", "float"⟩

/-- Texts. -/
def string : Primitive := ⟨"String", "string"⟩

end Primitive

/-- The types that are built around an element type. -/
inductive Wrapper where
  /-- Lists. -/
  | list
  /-- Values that may be null. -/
  | nullable
deriving DecidableEq

/-- An Elm type. -/
inductive Ty where
  /-- A primitive type. -/
  | primitive (p : Primitive)
  /-- The lists of a type. -/
  | list (elem : Ty)
  /-- A type or null. -/
  | nullable (elem : Ty)
  /-- A record of the schema. -/
  | record (id : RecordId)
  /-- A list or nullable whose element type is not known. -/
  | incomplete (w : Wrapper)
  /-- A type of a kind without codecs, told apart by a key. -/
  | foreign (kind key name : String)
deriving DecidableEq

/-- A field of a record. -/
structure Field where
  /-- The key in JSON. -/
  key : String
  /-- The name in the Elm record. -/
  name : String
  /-- The type of the field. -/
  type : Ty
  /-- Whether the key may be missing in JSON. -/
  omittable : Bool := false
deriving DecidableEq

/-- A record definition. -/
structure Record where
  /-- The type name of the record. -/
  name : String
  /-- The fields in order. -/
  fields : List Field := []
deriving DecidableEq

/-- Record definitions that refer to each other by their places. -/
abbrev Schema := List Record

/-- The name of a record of a schema. -/
def Schema.nameOf (s : Schema) (id : RecordId) : String := (s[id]?.map Record.name).getD ""

/-- The fields of a record of a schema. -/
def Schema.fieldsOf (s : Schema) (id : RecordId) : List Field := (s[id]?.map Record.fields).getD []

/-- Why a type cannot be written. -/
inductive RenderError where
  /-- A list or nullable has no element type. -/
  | noElement (w : Wrapper)
  /-- The kind of the type has no codecs. -/
  | unknownKind (kind : String)
deriving DecidableEq

/-- The name of a wrapper in messages. -/
def Wrapper.label : Wrapper → String
  | .list => "LIST"
  | .nullable => "NULLABLE"

/-- The message of a render error. -/
def RenderError.message : RenderError → String
  | .noElement w => w.label ++ " type has no element type"
  | .unknownKind kind => "Unknown type kind: " ++ kind

/-- A type text in parentheses if it has several words. -/
def parenthesized (s : String) : String := if s.toList.contains ' ' then "(" ++ s ++ ")" else s

namespace Ty

/-- The name a type has of its own. -/
def name (s : Schema) : Ty → String
  | .primitive p => p.name
  | .record id => s.nameOf id
  | .foreign _ _ name => name
  | _ => ""

/-- The fields of a type, which only records have. -/
def fields (s : Schema) : Ty → List Field
  | .record id => s.fieldsOf id
  | _ => []

/-- The name of a type with a small first letter. -/
def camelName (s : Schema) (t : Ty) : String :=
  String.ofList (Text.lowerHead (t.name s).toList)

/-- Whether values of the type may be null. -/
def isNullable : Ty → Bool
  | .nullable _ | .incomplete .nullable => true
  | _ => false

/-- The type as written in a type declaration. -/
def declared (s : Schema) : Ty → Except RenderError String
  | .primitive p => pure p.name
  | .list t => do return "List " ++ parenthesized (← t.declared s)
  | .nullable t => t.declared s
  | .record id => pure (s.nameOf id)
  | .incomplete w => throw (.noElement w)
  | .foreign _ _ name => pure name

/-- The decoder of a type, for a module name under which the decoders are known. -/
def decoder (s : Schema) (decode : String) : Ty → Except RenderError String
  | .primitive p => pure (decode ++ "." ++ p.codec)
  | .list t => do return "(" ++ decode ++ ".list " ++ (← t.decoder s decode) ++ ")"
  | .nullable t => t.decoder s decode
  | .record id => pure ((Ty.record id).camelName s ++ "Decoder")
  | .incomplete w => throw (.noElement w)
  | .foreign kind _ _ => throw (.unknownKind kind)

/-- The encoder of a type, for a module name under which the encoders are known. -/
def encoder (s : Schema) (encode : String) : Ty → Except RenderError String
  | .primitive p => pure (encode ++ "." ++ p.codec)
  | .list t => do return "(" ++ encode ++ ".list " ++ (← t.encoder s encode) ++ ")"
  | .nullable t => t.encoder s encode
  | .record id => pure ("encode" ++ s.nameOf id)
  | .incomplete w => throw (.noElement w)
  | .foreign kind _ _ => throw (.unknownKind kind)

/-- The kind of a type in messages. -/
def kind : Ty → String
  | .primitive _ => "PRIMITIVE"
  | .list _ => Wrapper.list.label
  | .nullable _ => Wrapper.nullable.label
  | .record _ => "RECORD"
  | .incomplete w => w.label
  | .foreign kind _ _ => kind

/-- A short account of a type. -/
def summary (s : Schema) : Ty → Except RenderError String
  | .record id =>
    pure ("ElmType(RECORD " ++ s.nameOf id ++ ", " ++ toString (s.fieldsOf id).length ++ " fields)")
  | t => do return "ElmType(" ++ t.kind ++ " " ++ (← t.declared s) ++ ")"

end Ty

/-! ## Fields -/

namespace Field

/-- Whether the field holds a `Maybe`. -/
def isMaybe (f : Field) : Bool := f.omittable || f.type.isNullable

/-- The type of the field as written in the record. -/
def declared (s : Schema) (f : Field) : Except RenderError String := do
  let t ← f.type.declared s
  return if f.isMaybe then "Maybe " ++ parenthesized t else t

/-- The decoder of the value under the key. -/
def decoder (s : Schema) (decode : String) (f : Field) : Except RenderError String := do
  let d ← f.type.decoder s decode
  return if f.isMaybe then "(" ++ decode ++ ".nullable " ++ d ++ ")" else d

/-- The encoder of the value of the field. -/
def encoder (s : Schema) (encode : String) (f : Field) : Except RenderError String := do
  let e ← f.type.encoder s encode
  return if f.isMaybe then "maybe " ++ e else e

/-- The step of a decoding pipeline that reads the field. -/
def pipeline (steps : String) (f : Field) : String :=
  steps ++ if f.isMaybe then ".optional" else ".required"

/-- The value for a missing key, with a blank before it. -/
def fallback (f : Field) : String := if f.isMaybe then " Nothing" else ""

end Field

end ElmCodec.Elm
