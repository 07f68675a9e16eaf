import ElmCodec.Table
import ElmCodec.Text.Case
import ElmCodec.Text.Cut

/-!
# Names

A declared name becomes an Elm name in three steps.

* The parts between underscores are joined, and every part after the first gets a
  capital.  Empty parts are dropped.
* The abbreviations of the naming policy are respelled from capitals to one
  capital and small letters: `ID` becomes `Id`.  The scan goes from left to right,
  and where several abbreviations start at one position the first of the policy is
  taken.  The empty abbreviation matches nothing.
* The first letter is made small for a value name.  A type name makes it capital
  again afterwards.

A record takes its name from a rename table if the table has an entry for it.
-/

namespace ElmCodec

/-- A naming policy: the abbreviations that are respelled, in order of preference. -/
structure Naming where
  /-- Abbreviations in capitals. -/
  abbreviations : List String

namespace Naming

/-- The usual abbreviations of web interfaces, long ones first. -/
def standard : Naming where
  abbreviations :=
    ["HTML", "HTTP", "IMAP", "JSON", "POP3", "REST", "SMTP", "URI", "URL", "WWW", "XML", "GB", "ID",
      "KB", "MB", "MS", "TB"]

/-! ## The three steps -/

/-- Parts joined into one word, each after the first with a capital. -/
def joinParts : List (List Char) → List Char
  | [] => []
  | first :: rest => first ++ rest.flatMap Text.upperHead

/-- The name without underscores. -/
def joined (name : List Char) : List Char :=
  joinParts ((Text.pieces '_' name).filter fun part => !part.isEmpty)

/-- The first non-empty abbreviation that the text starts with. -/
def abbreviationAt (abbreviations : List (List Char)) (text : List Char) : Option (List Char) :=
  abbreviations.find? fun a => !a.isEmpty && a.isPrefixOf text

/-- The text with its abbreviations respelled, where the first `skip` characters
belong to an abbreviation already respelled. -/
def respellFrom (abbreviations : List (List Char)) (skip : Nat) : List Char → List Char
  | [] => []
  | c :: rest =>
    match skip with
    | n + 1 => respellFrom abbreviations n rest
    | 0 =>
      match abbreviationAt abbreviations (c :: rest) with
      | some a => c :: Text.lower a.tail ++ respellFrom abbreviations (a.length - 1) rest
      | none => c :: respellFrom abbreviations 0 rest

/-- The text with its abbreviations respelled. -/
def respell (abbreviations : List (List Char)) (text : List Char) : List Char :=
  respellFrom abbreviations 0 text

/-- The name with capitals inside, before its first letter is settled. -/
def word (n : Naming) (name : List Char) : List Char :=
  respell (n.abbreviations.map String.toList) (joined name)

/-! ## Names of values, types and records -/

/-- The Elm value name of a declared name. -/
def valueName (n : Naming) (name : String) : String :=
  String.ofList (Text.lowerHead (n.word name.toList))

/-- The Elm type name of a declared name. -/
def typeName (n : Naming) (name : String) : String :=
  String.ofList (Text.upperHead (Text.lowerHead (n.word name.toList)))

example : standard.valueName "UserID" = "userId" := by decide
example : standard.valueName "user__HTTP_api" = "userHttpApi" := by decide
example : standard.typeName "_html" = "Html" := by decide

end Naming

/-! ## Renames -/

/-- Record names that are given, by the declared name. -/
abbrev Renames := Table String String

namespace Renames

/-- The entry of a text `declared:given`.  A text without a colon names itself. -/
def entry (text : String) : String × String :=
  match Text.cut ':' text.toList with
  | (source, some target) => (String.ofList source, String.ofList target)
  | (_, none) => (text, text)

/-- The rename table of a list of texts, later ones over earlier ones. -/
def parse (texts : List String) : Renames := Table.ofEntries (texts.map entry)

example : parse ["A:B", "C", "A:D:E"] = [("A", "D:E"), ("C", "C")] := by decide

end Renames

/-- The Elm name of a record: the given one, or else its type name. -/
def Naming.recordName (n : Naming) (renames : Renames) (name : String) : String :=
  (renames.find? name).getD (n.typeName name)

end ElmCodec
