import ElmCodec.Elm.Block
import ElmCodec.Elm.Literal
import ElmCodec.Elm.Type

/-!
# Elm modules

The text of an Elm module with JSON codecs for a root type and the nested types
it refers to.  The module has a header, a banner of comment lines, one type alias
for each type, then a decoder and an encoder for each, and a helper for values
that may be missing.  The codecs of the root have the names that the module
exposes, and those of the nested types the names by which other codecs call them.

Declarations are divided by two blank lines.  A part without text is left out.
-/

namespace ElmCodec.Elm

/-- A root type with the nested types of its module. -/
structure Resolution where
  /-- The records the types refer to. -/
  schema : Schema
  /-- The type the module is about. -/
  root : Ty
  /-- The other types, in order. -/
  nested : List Ty := []

/-- The root type followed by the nested ones. -/
def Resolution.types (r : Resolution) : List Ty := r.root :: r.nested

/-- The short names under which a module imports the JSON libraries. -/
structure Imports where
  /-- The name of the decoders. -/
  decode : String := "D"
  /-- The name of the pipeline steps. -/
  pipeline : String := "P"
  /-- The name of the encoders. -/
  encode : String := "E"

/-- The banner of a module that is given none. -/
def defaultBanner : List String := ["-- Generated by py2elm"]

/-- What a list element is preceded by: an opening for the first and a comma for
the others. -/
def leads (opening : String) (items : List String) : List String :=
  match items with
  | [] => []
  | first :: rest => (opening ++ " " ++ first) :: rest.map fun item => ", " ++ item

/-! ## Parts of a module -/

/-- The module line and the imports. -/
def header (m : Imports) (root : String) : String :=
  let b : Block := {}
  (b.addLines [
    "module " ++ root ++ " exposing (" ++ root ++ ", decoder, encode)",
    "",
    "import Json.Decode as " ++ m.decode,
    "import Json.Decode.Pipeline as " ++ m.pipeline,
    "import Json.Encode as " ++ m.encode]).text

/-- A field in a type alias. -/
def aliasLine (s : Schema) (f : Field) : Except RenderError String := do
  return f.name ++ " : " ++ (← f.declared s)

/-- The type alias of a type. -/
def typeAlias (s : Schema) (t : Ty) : Except RenderError String := do
  let lines ← (t.fields s).mapM (aliasLine s)
  let b : Block := {}
  let b := b.line ("type alias " ++ t.name s ++ " =")
  return (b.indented fun b => (b.addLines (leads "\x7b" lines)).line "\x7d").text

/-- The step of a decoder that reads a field. -/
def pipelineLine (s : Schema) (m : Imports) (f : Field) : Except RenderError String := do
  return "|> " ++ f.pipeline m.pipeline ++ " " ++ literal f.key ++ " " ++
    (← f.decoder s m.decode) ++ f.fallback

/-- The decoder of a type, under a name. -/
def decoderText (s : Schema) (m : Imports) (t : Ty) (name : String) :
    Except RenderError String := do
  let lines ← (t.fields s).mapM (pipelineLine s m)
  let b : Block := {}
  let b := b.line (name ++ " : " ++ m.decode ++ ".Decoder " ++ t.name s)
  let b := b.line (name ++ " =")
  return (b.indented fun b =>
    (b.line (m.decode ++ ".succeed " ++ t.name s)).indented fun b => b.addLines lines).text

/-- The pair of an encoder for a field. -/
def pairLine (s : Schema) (m : Imports) (f : Field) : Except RenderError String := do
  return "( " ++ literal f.key ++ ", " ++ (← f.encoder s m.encode) ++ " r." ++ f.name ++ " )"

/-- The encoder of a type, under a name. -/
def encoderText (s : Schema) (m : Imports) (t : Ty) (name : String) :
    Except RenderError String := do
  let lines ← (t.fields s).mapM (pairLine s m)
  let b : Block := {}
  let b := b.line (name ++ " : " ++ t.name s ++ " -> " ++ m.encode ++ ".Value")
  let b := b.line (name ++ " r =")
  return (b.indented fun b =>
    (b.line (m.encode ++ ".object")).indented fun b => (b.addLines (leads "[" lines)).line "]").text

/-- The decoder and the encoder of a nested type. -/
def nestedCodecs (s : Schema) (m : Imports) (t : Ty) : Except RenderError (List String) := do
  let decoder ← decoderText s m t (← t.decoder s m.decode)
  let encoder ← encoderText s m t (← t.encoder s m.encode)
  return [decoder, encoder]

/-- The helper that encodes a missing value as null. -/
def maybeHelper (m : Imports) : String :=
  let b : Block := {}
  let b := b.line ("maybe : (a -> " ++ m.encode ++ ".Value) -> Maybe a -> " ++ m.encode ++ ".Value")
  let b := b.line "maybe encoder ="
  (b.indented fun b =>
    b.line ("Maybe.map encoder >> Maybe.withDefault " ++ m.encode ++ ".null")).text

/-! ## The whole module -/

/-- The parts of a module in order. -/
def sections (m : Imports) (r : Resolution) (banner : List String) :
    Except RenderError (List String) := do
  let s := r.schema
  let aliases ← r.types.mapM (typeAlias s)
  let decoder ← decoderText s m r.root "decoder"
  let encoder ← encoderText s m r.root "encode"
  let nested ← r.nested.mapM (nestedCodecs s m)
  return [header m (r.root.name s), Text.joinWith "\n" banner] ++ aliases ++ [decoder, encoder] ++
    nested.flatten ++ [maybeHelper m]

/-- The text of the module. -/
def emit (m : Imports) (r : Resolution) (banner : List String) : Except RenderError String := do
  let parts ← sections m r banner
  return Text.joinWith "\n\n\n" (parts.filter fun part => part != "") ++ "\n"

end ElmCodec.Elm
