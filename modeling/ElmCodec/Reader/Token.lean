import ElmCodec.Text.Name

/-!
# Tokens of source files

The text of a Python file as logical lines.  A logical line has the depth of its
indentation and its tokens.  Line ends inside brackets and after a backslash do
not count, comments are left out, and so are lines without tokens.

The reader is a machine that takes one character after the other.  Its mode says
what it is in the middle of.
-/

namespace ElmCodec.Reader

/-- A token. -/
inductive Token where
  /-- A name or a word of the language. -/
  | name (s : String)
  /-- A whole number. -/
  | number (n : Nat)
  /-- A text in quotes, with its escapes resolved. -/
  | text (s : String)
  /-- Any other character. -/
  | mark (c : Char)
deriving DecidableEq

/-- A logical line. -/
structure Line where
  /-- The number of blanks before the first token. -/
  indent : Nat
  /-- The tokens in order. -/
  tokens : List Token
deriving DecidableEq

/-- How a text is closed: its quote, once or three times. -/
structure Closing where
  /-- The quote. -/
  quote : Char
  /-- Whether three quotes close the text. -/
  triple : Bool

/-- What the reader is in the middle of. -/
inductive Mode where
  /-- Between tokens. -/
  | between
  /-- After a backslash that joins two lines. -/
  | joining
  /-- In a comment. -/
  | comment
  /-- In a name or number, whose characters are held last first. -/
  | word (taken : List Char)
  /-- After one or two quotes that may open a text. -/
  | opening (quote : Char) (count : Nat)
  /-- In a text, of which the last characters are closing quotes in a row. -/
  | inside (c : Closing) (taken : List Char) (quotes : Nat)
  /-- After a backslash in a text. -/
  | escape (c : Closing) (taken : List Char)
  /-- In an escape by number, of which digits are missing. -/
  | code (c : Closing) (taken : List Char) (missing value : Nat)

/-- The state of the reader. -/
structure Scan where
  /-- What it is in the middle of. -/
  mode : Mode := .between
  /-- The number of open brackets. -/
  depth : Nat := 0
  /-- The indentation of the line, as far as it is known. -/
  indent : Nat := 0
  /-- The tokens of the line, last first. -/
  tokens : List Token := []
  /-- The lines that are complete, last first. -/
  lines : List Line := []

/-! ## Names -/

/-- The words that cannot be names. -/
def reservedWords : List String :=
  ["and", "as", "assert", "async", "await", "break", "class", "continue", "def", "del", "elif",
    "else", "except", "finally", "for", "from", "global", "if", "import", "in", "is", "lambda",
    "nonlocal", "not", "or", "pass", "raise", "return", "try", "while", "with", "yield"]

/-- Whether a word is a name. -/
def isName (s : String) : Bool :=
  match s.toList with
  | [] => false
  | c :: rest => Text.isNameStart c && rest.all Text.isNamePart && !reservedWords.contains s

/-- Whether a word can name an attribute. -/
def isAttributeName (s : String) : Bool := isName s && s ∉ ["False", "None", "True"]

/-! ## Numbers -/

/-- The value of a digit in a base. -/
def digit? (base : Nat) (c : Char) : Option Nat :=
  let value :=
    if c.isDigit then c.toNat - '0'.toNat
    else if c.isAlpha then c.toLower.toNat - 'a'.toNat + 10
    else base
  if value < base then some value else none

/-- The number that more digits make of one.  An underscore may stand before a digit. -/
def moreDigits? (base n : Nat) : List Char → Option Nat
  | [] => some n
  | '_' :: c :: rest => do moreDigits? base (base * n + (← digit? base c)) rest
  | c :: rest => do moreDigits? base (base * n + (← digit? base c)) rest

/-- The base that a letter after a zero announces. -/
def announcedBase? (c : Char) : Option Nat :=
  match c.toLower with
  | 'x' => some 16
  | 'o' => some 8
  | 'b' => some 2
  | _ => none

/-- The whole number that a word is.  Only zeros follow a leading zero. -/
def wholeNumber? : List Char → Option Nat
  | [] => none
  | '0' :: c :: rest =>
    match announcedBase? c with
    | some base => if rest.isEmpty then none else moreDigits? base 0 rest
    | none => moreDigits? 1 0 (c :: rest)
  | c :: rest => do moreDigits? 10 (← digit? 10 c) rest

example : wholeNumber? "1_000".toList = some 1000 ∧ wholeNumber? "0x1F".toList = some 31 ∧
    wholeNumber? "00".toList = some 0 ∧ wholeNumber? "01".toList = none ∧
    wholeNumber? "1__0".toList = none := by decide

/-! ## Single steps -/

/-- The token of a word. -/
def wordToken (word : List Char) : Token :=
  match wholeNumber? word with
  | some n => .number n
  | none => .name (String.ofList word)

/-- The character that a letter stands for after a backslash. -/
def escapedChar? (c : Char) : Option Char :=
  match c with
  | 'n' => some '\n'
  | 't' => some '\t'
  | 'r' => some '\r'
  | '\\' | '\x27' | '"' => some c
  | _ => none

/-- The value of a hexadecimal digit, and zero for any other character. -/
def hexValue (c : Char) : Nat :=
  if c.isDigit then c.toNat - '0'.toNat
  else if 'a' ≤ c.toLower ∧ c.toLower ≤ 'f' then c.toLower.toNat - 'a'.toNat + 10
  else 0

namespace Scan

/-- Adds a token and goes on between tokens. -/
def push (s : Scan) (t : Token) : Scan := { s with mode := .between, tokens := t :: s.tokens }

/-- Ends a line, unless it is inside brackets. -/
def endLine (s : Scan) : Scan :=
  if 0 < s.depth then { s with mode := .between }
  else if s.tokens.isEmpty then { s with mode := .between, indent := 0 }
  else
    { mode := .between, lines := ⟨s.indent, s.tokens.reverse⟩ :: s.lines }

/-- Takes a character between tokens. -/
def between (s : Scan) (c : Char) : Scan :=
  if c == '\n' then s.endLine
  else if c == ' ' || c == '\t' || c == '\r' || c == '\x0c' then
    if s.tokens.isEmpty && s.depth == 0 then { s with indent := s.indent + 1 } else s
  else if c == '#' then { s with mode := .comment }
  else if c == '\\' then { s with mode := .joining }
  else if c == '"' || c == '\x27' then { s with mode := .opening c 1 }
  else if Text.isNamePart c then { s with mode := .word [c] }
  else if c == '(' || c == '[' || c == '\x7b' then { s.push (.mark c) with depth := s.depth + 1 }
  else if c == ')' || c == ']' || c == '\x7d' then { s.push (.mark c) with depth := s.depth - 1 }
  else s.push (.mark c)

/-- Takes a character inside a text. -/
def inside (s : Scan) (c : Closing) (taken : List Char) (quotes : Nat) (ch : Char) : Scan :=
  if ch == '\\' then { s with mode := .escape c taken }
  else if ch == c.quote then
    if !c.triple then s.push (.text (String.ofList taken.reverse))
    else if quotes == 2 then s.push (.text (String.ofList (taken.drop 2).reverse))
    else { s with mode := .inside c (ch :: taken) (quotes + 1) }
  else { s with mode := .inside c (ch :: taken) 0 }

/-- Takes a character after a backslash in a text. -/
def escape (s : Scan) (c : Closing) (taken : List Char) (ch : Char) : Scan :=
  match escapedChar? ch with
  | some e => { s with mode := .inside c (e :: taken) 0 }
  | none =>
    if ch == '\n' then { s with mode := .inside c taken 0 }
    else if ch == 'x' then { s with mode := .code c taken 2 0 }
    else if ch == 'u' then { s with mode := .code c taken 4 0 }
    else if ch == 'U' then { s with mode := .code c taken 8 0 }
    else { s with mode := .inside c (ch :: '\\' :: taken) 0 }

/-- Takes a digit of an escape by number. -/
def code (s : Scan) (c : Closing) (taken : List Char) (missing value : Nat) (ch : Char) : Scan :=
  let value := 16 * value + hexValue ch
  if missing ≤ 1 then { s with mode := .inside c (Char.ofNat value :: taken) 0 }
  else { s with mode := .code c taken (missing - 1) value }

/-- Takes one character. -/
def step (s : Scan) (ch : Char) : Scan :=
  match s.mode with
  | .between => s.between ch
  | .joining => if ch == '\n' then { s with mode := .between } else s
  | .comment => if ch == '\n' then s.endLine else s
  | .word taken =>
    if Text.isNamePart ch then { s with mode := .word (ch :: taken) }
    else (s.push (wordToken taken.reverse)).between ch
  | .opening quote 1 =>
    if ch == quote then { s with mode := .opening quote 2 }
    else s.inside ⟨quote, false⟩ [] 0 ch
  | .opening quote _ =>
    if ch == quote then { s with mode := .inside ⟨quote, true⟩ [] 0 }
    else (s.push (.text "")).between ch
  | .inside c taken quotes => s.inside c taken quotes ch
  | .escape c taken => s.escape c taken ch
  | .code c taken missing value => s.code c taken missing value ch

end Scan

/-- Reads a text to its end. -/
def scan (text : String) : Scan := (text.toList ++ ['\n']).foldl Scan.step {}

/-- The logical lines of a text. -/
def lines (text : String) : List Line := (scan text).endLine.lines.reverse

/-- Whether no bracket and no quote of a text is left open. -/
def isClosed (text : String) : Bool :=
  match (scan text).mode, (scan text).depth with
  | .between, 0 => true
  | _, _ => false

example : lines "a = [1,\n  'x']  # note\n\n  b" =
    [⟨0, [.name "a", .mark '=', .mark '[', .number 1, .mark ',', .text "x", .mark ']']⟩,
      ⟨2, [.name "b"]⟩] := by decide
example : lines "\"\"\"a\"b\"\"\" ''" = [⟨0, [.text "a\"b", .text ""]⟩] := by decide

end ElmCodec.Reader
