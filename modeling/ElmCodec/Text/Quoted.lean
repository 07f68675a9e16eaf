import ElmCodec.Text.Printable

/-!
# Quoted texts

How a text is shown inside a message.  It stands in single quotes, unless it has
a single quote and no double one.  The backslash, the quote in use and the line
and tab characters are escaped by a letter, and characters without a visible form
by their code, in two, four or eight hexadecimal digits.
-/

namespace ElmCodec.Text

/-- The digits of a number to the base sixteen, padded with zeros to a width. -/
def hexPadded (width n : Nat) : List Char :=
  let digits := Nat.toDigits 16 n
  List.replicate (width - digits.length) '0' ++ digits

/-- The quote a text is shown in. -/
def quoteFor (cs : List Char) : Char :=
  if cs.contains '\x27' && !cs.contains '"' then '"' else '\x27'

/-- A character as it is shown between quotes. -/
def escapeShown (quote c : Char) : List Char :=
  if c == quote || c == '\\' then ['\\', c]
  else if c == '\n' then ['\\', 'n']
  else if c == '\r' then ['\\', 'r']
  else if c == '\t' then ['\\', 't']
  else if isPrintable c then [c]
  else if c.toNat < 0x100 then '\\' :: 'x' :: hexPadded 2 c.toNat
  else if c.toNat < 0x10000 then '\\' :: 'u' :: hexPadded 4 c.toNat
  else '\\' :: 'U' :: hexPadded 8 c.toNat

/-- A text in quotes. -/
def quoted (s : String) : String :=
  let cs := s.toList
  let quote := quoteFor cs
  String.ofList (quote :: cs.flatMap (escapeShown quote) ++ [quote])

example : quoted "it\x27s" = "\"it\x27s\"" := by decide
example : quoted "a\nb" = "'a\\nb'" := by decide
example : quoted "\x01" = "'\\x01'" := by decide

end ElmCodec.Text
