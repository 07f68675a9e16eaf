import ElmCodec.Text.Quoted

/-!
# String literals

Texts as Elm string literals.  The backslash, the double quote and the line and
tab characters are escaped by a letter, and other control characters by their code
in four hexadecimal digits between braces.
-/

namespace ElmCodec.Elm

/-- A character inside a string literal. -/
def escape (c : Char) : List Char :=
  if c == '\\' || c == '"' then ['\\', c]
  else if c == '\n' then ['\\', 'n']
  else if c == '\r' then ['\\', 'r']
  else if c == '\t' then ['\\', 't']
  else if c.toNat < 0x20 then
    ['\\', 'u', '\x7b'] ++ (Text.hexPadded 4 c.toNat).map Char.toUpper ++ ['\x7d']
  else [c]

/-- A text as a string literal. -/
def literal (s : String) : String :=
  String.ofList ('"' :: s.toList.flatMap escape ++ ['"'])

example : literal "a\"b\\" = "\"a\\\"b\\\\\"" := by decide
example : literal "\x0c" = "\"\\u\x7b000C\x7d\"" := by decide

end ElmCodec.Elm
