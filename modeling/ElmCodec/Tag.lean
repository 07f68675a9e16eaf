import ElmCodec.Text.Cut

/-!
# Wire tags

A tag is a text of the form `json:"name,option,…"` on a field.  It gives the key
of the field in JSON and options, of which `omitempty` says that the key may be
missing.  A text of any other form reads as an empty name without options, and so
changes nothing.
-/

namespace ElmCodec

/-- What a tag says: a name and the text of its options. -/
structure Tag where
  /-- The key in JSON, or nothing to keep the name of the field. -/
  name : String
  /-- The options, divided by commas. -/
  options : String
deriving DecidableEq

namespace Tag

/-- What a tag starts with. -/
def opening : List Char := ['j', 's', 'o', 'n', ':', '"']

/-- The option for a key that may be missing. -/
def omitEmpty : String := "omitempty"

/-- The text between the opening of a tag and its closing quote, if it is a tag.
The quote of the opening does not close it. -/
def body? (text : List Char) : Option (List Char) :=
  if opening.isPrefixOf text && opening.length < text.length && text.getLast? == some '"' then
    some (text.drop opening.length).dropLast
  else none

/-- Reads a tag. -/
def parse (text : String) : Tag :=
  match body? text.toList with
  | none => ⟨"", ""⟩
  | some body =>
    match Text.cut ',' body with
    | (name, options) => ⟨String.ofList name, String.ofList (options.getD [])⟩

/-- Whether an option is among options divided by commas. -/
def listsOption (options : String) (name : String) : Bool :=
  options != "" && (Text.pieces ',' options.toList).contains name.toList

/-- Whether a tag has an option. -/
def hasOption (t : Tag) (name : String) : Bool := listsOption t.options name

/-- Writes a tag. -/
def write (name : String) (options : List String) : String :=
  String.ofList opening ++ Text.joinWith "," (name :: options) ++ "\""

example : parse "json:\"id,omitempty\"" = ⟨"id", "omitempty"⟩ := by decide
example : parse "json:\"" = ⟨"", ""⟩ := by decide

end Tag

/-- The metadata a field carries in place of a tag. -/
inductive TagValue where
  /-- A text, which may be a tag. -/
  | text (s : String)
  /-- A value that is no text. -/
  | other
deriving DecidableEq

/-- The key of a field in JSON, and whether it may be missing. -/
structure Wire where
  /-- The key. -/
  key : String
  /-- Whether the key may be missing. -/
  omittable : Bool
deriving DecidableEq

/-- The key of a field from its own name and its metadata.  Texts of at most two
characters are not read as tags. -/
def Wire.of (name : String) (tag : Option TagValue) : Wire :=
  match tag with
  | some (.text s) =>
    if 2 < s.length then
      let t := Tag.parse s
      ⟨if t.name = "" then name else t.name, t.hasOption Tag.omitEmpty⟩
    else ⟨name, false⟩
  | _ => ⟨name, false⟩

/-- Whether a declared field is part of the JSON object. -/
def isExported (name : String) : Bool := name.toList.head? != some '_'

end ElmCodec
