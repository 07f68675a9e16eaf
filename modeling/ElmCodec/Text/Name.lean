import ElmCodec.Text.CaseTable
import ElmCodec.Text.NameTable

/-!
# Characters of names and words

A name starts with a letter, a sign that counts as one, or an underscore, and goes
on with these, with marks and with digits.  A word is looser at its start and
stricter after it: it is made of letters, numerals of any kind and underscores.
-/

namespace ElmCodec.Text

/-- Whether a character may start a name. -/
def isNameStart (c : Char) : Bool :=
  if c.toNat < 0x80 then c.isAlpha || c == '_' else inRanges nameStartRanges c.toNat

/-- Whether a character may stand in a name. -/
def isNamePart (c : Char) : Bool :=
  isNameStart c ||
    if c.toNat < 0x80 then c.isDigit else inRanges nameMoreRanges c.toNat

/-- Whether a character may stand in a word. -/
def isWordPart (c : Char) : Bool :=
  if c.toNat < 0x80 then c.isAlphanum || c == '_'
  else
    inRanges otherWordRanges c.toNat ||
      inRanges nameStartRanges c.toNat && !inRanges signRanges c.toNat

/-- Whether a character is a blank. -/
def isBlank (c : Char) : Bool :=
  let n := c.toNat
  n == 0x20 || (9 ≤ n && n ≤ 13) || (0x1C ≤ n && n ≤ 0x1F) ||
    [0x85, 0xA0, 0x1680, 0x2028, 0x2029, 0x202F, 0x205F, 0x3000].contains n ||
    (0x2000 ≤ n && n ≤ 0x200A)

set_option maxRecDepth 8000

example : isNameStart 'é' ∧ ¬ isNameStart '1' ∧ isNamePart '1' ∧ ¬ isNamePart '×' := by decide
example : isWordPart '½' ∧ ¬ isNamePart '½' ∧ isNamePart '\u0301' ∧ ¬ isWordPart '\u0301' := by
  decide

end ElmCodec.Text
