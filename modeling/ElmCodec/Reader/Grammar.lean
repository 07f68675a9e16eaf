import ElmCodec.Reader.Token

/-!
# Expressions that are only recognised

All expressions that a source file may hold: besides those that declarations are made
of there are conditions, operators, calls, comprehensions, functions without a name,
slices, sets and dictionaries.  Nothing is kept of them here.  `isExpression` only tells
whether some tokens are an expression.

A skipper takes a part from the front of a list of tokens and returns the rest.  As in
the reader of declarations, each call hands a smaller number to the calls inside it.
Tokens do not tell where blanks stood, so blanks inside an operator are not seen.  Nor
are the rules on the order of arguments in a call, and on names that are bound inside
an expression.
-/

namespace ElmCodec.Reader

/-- Skips a part at the front of some tokens. -/
abbrev Skip := List Token → Option (List Token)

/-! ## Operators -/

/-- Skips an operator that makes an operand of two. -/
def skipOperator : Skip
  | .mark '*' :: .mark '*' :: rest | .mark '/' :: .mark '/' :: rest
  | .mark '<' :: .mark '<' :: rest | .mark '>' :: .mark '>' :: rest => some rest
  | .mark c :: rest =>
    if ['|', '^', '&', '+', '-', '*', '/', '%', '@'].contains c then some rest else none
  | _ => none

/-- Skips an operator that compares two operands. -/
def skipComparison : Skip
  | .name "not" :: .name "in" :: rest | .name "is" :: .name "not" :: rest
  | .name "in" :: rest | .name "is" :: rest => some rest
  | .mark '=' :: .mark '=' :: rest | .mark '!' :: .mark '=' :: rest
  | .mark '<' :: .mark '=' :: rest | .mark '>' :: .mark '=' :: rest
  | .mark '<' :: rest | .mark '>' :: rest => some rest
  | _ => none

/-! ## Constants -/

/-- Whether a character belongs to the digits of a number. -/
def isDigitPart (c : Char) : Bool := c.isDigit || c == '_'

/-- The characters of a token that starts with a digit. -/
def numeric? : Token → Option (List Char)
  | .number _ => some ['0']
  | .name word => if word.toList.head?.any Char.isDigit then some word.toList else none
  | _ => none

/-- Whether some characters end a number: nothing, or the sign of an imaginary one. -/
def endsNumber (word : List Char) : Bool := [[], ['j'], ['J']].contains word

/-- Skips the end of a number, given the word before it.  An exponent may have a sign. -/
def skipExponent (word : List Char) (tokens : List Token) : Option (List Token) :=
  match word.dropWhile isDigitPart, tokens with
  | [e], .mark sign :: t :: rest =>
    if e.toLower == 'e' && (sign == '+' || sign == '-') then do
      if endsNumber ((← numeric? t).dropWhile isDigitPart) then some rest else none
    else if endsNumber [e] then some tokens else none
  | e :: digits, _ =>
    if endsNumber (e :: digits) ||
        (e.toLower == 'e' && digits.head?.any Char.isDigit &&
          endsNumber (digits.dropWhile isDigitPart)) then some tokens else none
  | [], _ => some tokens

/-- Skips what stands after the point of a number. -/
def skipFraction : Skip
  | .name word :: rest => (skipExponent word.toList rest).or (some (.name word :: rest))
  | .number _ :: rest => some rest
  | tokens => some tokens

/-- Skips a number. -/
def skipNumber : Skip
  | .mark '.' :: t :: rest => do skipExponent (← numeric? t) rest
  | .number _ :: .mark '.' :: rest => skipFraction rest
  | .number _ :: rest => some rest
  | .name word :: rest => do
    let digits ← numeric? (.name word)
    match digits.all isDigitPart, rest with
    | false, rest => skipExponent digits rest
    | true, .mark '.' :: rest => skipFraction rest
    | true, _ => none
  | _ => none

/-- The letters that may stand before the quote of a text. -/
def textMarks : List String := ["b", "br", "f", "fr", "r", "rb", "rf", "u"]

/-- Skips texts in a row. -/
def skipTexts : List Token → List Token
  | .text _ :: rest => skipTexts rest
  | .name n :: .text s :: rest =>
    if textMarks.contains n.toLower then skipTexts rest else .name n :: .text s :: rest
  | tokens => tokens

/-- Skips a name or a constant without brackets. -/
def skipWord : Skip
  | .mark '.' :: .mark '.' :: .mark '.' :: rest => some rest
  | .text s :: rest => some (skipTexts (.text s :: rest))
  | .name n :: .text s :: rest =>
    if textMarks.contains n.toLower then some (skipTexts rest) else
      if isName n then some (.text s :: rest) else none
  | .name n :: rest => if isName n then some rest else skipNumber (.name n :: rest)
  | tokens => skipNumber tokens

/-! ## Expressions -/

/-- What stands between brackets. -/
inductive Listing where
  /-- The items of a list or tuple. -/
  | display
  /-- The items of a set or dictionary. -/
  | entries
  /-- The arguments of a call. -/
  | call
  /-- The arguments in square brackets. -/
  | slices
deriving DecidableEq

mutual

/-- Skips an expression. -/
def skipExpr (size : Nat) : Skip := fun tokens =>
  match size, tokens with
  | 0, _ => none
  | size + 1, .name "lambda" :: rest => do skipExpr size (← skipParameters size rest)
  | size + 1, tokens => do
    match ← skipChoice size tokens with
    | .name "if" :: rest =>
      match ← skipChoice size rest with
      | .name "else" :: rest => skipExpr size rest
      | _ => none
    | rest => some rest
termination_by structural size

/-- Skips an expression without a condition. -/
def skipChoice (size : Nat) : Skip := fun tokens =>
  match size, tokens with
  | 0, _ => none
  | size + 1, .name "not" :: rest => skipChoice size rest
  | size + 1, tokens => do skipChoices size (← skipOperand size tokens)
termination_by structural size

/-- Skips comparisons and choices after an operand. -/
def skipChoices (size : Nat) : Skip := fun tokens =>
  match size, tokens with
  | 0, _ => none
  | size + 1, .name "and" :: rest | size + 1, .name "or" :: rest => skipChoice size rest
  | size + 1, tokens =>
    match skipComparison tokens with
    | some rest => do skipChoices size (← skipOperand size rest)
    | none => some tokens
termination_by structural size

/-- Skips operands with operators between them. -/
def skipOperand (size : Nat) : Skip := fun tokens =>
  match size, tokens with
  | 0, _ => none
  | size + 1, .mark '+' :: rest | size + 1, .mark '-' :: rest | size + 1, .mark '~' :: rest =>
    skipOperand size rest
  | size + 1, tokens => do
    let rest ← skipPrimary size tokens
    match skipOperator rest with
    | some rest => skipOperand size rest
    | none => some rest
termination_by structural size

/-- Skips an operand without operators outside brackets. -/
def skipPrimary (size : Nat) : Skip := fun tokens =>
  match size, tokens with
  | 0, _ => none
  | size + 1, .mark '(' :: rest => do skipSuffixes size (← skipItems size .display ')' rest)
  | size + 1, .mark '[' :: rest => do skipSuffixes size (← skipItems size .display ']' rest)
  | size + 1, .mark '\x7b' :: rest => do
    skipSuffixes size (← skipItems size .entries '\x7d' rest)
  | size + 1, tokens => do skipSuffixes size (← skipWord tokens)
termination_by structural size

/-- Skips attributes, calls and arguments after an object. -/
def skipSuffixes (size : Nat) : Skip := fun tokens =>
  match size, tokens with
  | 0, _ => none
  | size + 1, .mark '.' :: .name n :: rest =>
    if isAttributeName n then skipSuffixes size rest else none
  | size + 1, .mark '(' :: rest => do skipSuffixes size (← skipItems size .call ')' rest)
  | _ + 1, .mark '[' :: .mark ']' :: _ => none
  | size + 1, .mark '[' :: rest => do skipSuffixes size (← skipItems size .slices ']' rest)
  | _ + 1, tokens => some tokens
termination_by structural size

/-- Skips items up to the closing bracket. -/
def skipItems (size : Nat) (kind : Listing) (closing : Char) : Skip := fun tokens =>
  match size, tokens with
  | _, [] => none
  | 0, _ => none
  | size + 1, t :: rest =>
    if t = .mark closing then some rest
    else do
      match ← skipItem size kind (t :: rest) with
      | .mark ',' :: rest => skipItems size kind closing rest
      | .name "for" :: rest =>
        if kind = .slices then none
        else
          match ← skipClauses size (.name "for" :: rest) with
          | t :: rest => if t = .mark closing then some rest else none
          | [] => none
      | t :: rest => if t = .mark closing then some rest else none
      | [] => none
termination_by structural size

/-- Skips an item. -/
def skipItem (size : Nat) (kind : Listing) : Skip := fun tokens =>
  match size, kind, tokens with
  | 0, _, _ => none
  | size + 1, .call, .mark '*' :: .mark '*' :: rest
  | size + 1, .entries, .mark '*' :: .mark '*' :: rest => skipExpr size rest
  | size + 1, .call, .mark '*' :: rest => skipExpr size rest
  | size + 1, _, .mark '*' :: rest => skipOperand size rest
  | size + 1, .call, .name n :: .mark '=' :: rest =>
    match rest with
    | .mark '=' :: _ => skipExpr size tokens
    | rest => if isName n then skipExpr size rest else none
  | size + 1, .entries, tokens => do
    match ← skipExpr size tokens with
    | .mark ':' :: rest => skipExpr size rest
    | rest => some rest
  | size + 1, _, .name n :: .mark ':' :: .mark '=' :: rest =>
    if isName n then skipExpr size rest else none
  | size + 1, .slices, tokens => do
    let rest ← skipBounds size 2 tokens
    if rest.length < tokens.length then some rest else none
  | size + 1, _, tokens => skipExpr size tokens
termination_by structural size

/-- Skips the bounds of a slice, of which some more may follow a colon. -/
def skipBounds (size more : Nat) : Skip := fun tokens =>
  match size with
  | 0 => none
  | size + 1 =>
    match more, (skipExpr size tokens).getD tokens with
    | more + 1, .mark ':' :: rest => skipBounds size more rest
    | _, rest => some rest
termination_by structural size

/-- Skips the clauses of a comprehension. -/
def skipClauses (size : Nat) : Skip := fun tokens =>
  match size, tokens with
  | 0, _ => none
  | size + 1, .name "for" :: rest => do
    match ← skipTargets size rest with
    | .name "in" :: rest => skipClauses size (← skipChoice size rest)
    | _ => none
  | size + 1, .name "if" :: rest => do skipClauses size (← skipChoice size rest)
  | _ + 1, tokens => some tokens
termination_by structural size

/-- Skips the targets of a comprehension. -/
def skipTargets (size : Nat) : Skip := fun tokens =>
  match size, tokens with
  | 0, _ => none
  | size + 1, .mark '*' :: rest => skipTargets size rest
  | size + 1, tokens => do
    match ← skipPrimary size tokens with
    | .mark ',' :: .name "in" :: rest => some (.name "in" :: rest)
    | .mark ',' :: rest => skipTargets size rest
    | rest => some rest
termination_by structural size

/-- Skips the parameters of a function without a name, up to the colon. -/
def skipParameters (size : Nat) : Skip := fun tokens =>
  match size, tokens with
  | 0, _ => none
  | _ + 1, .mark ':' :: rest => some rest
  | size + 1, .mark '*' :: .mark '*' :: rest => skipParameters size rest
  | size + 1, .mark '*' :: .mark ',' :: rest | size + 1, .mark '/' :: .mark ',' :: rest =>
    skipParameters size rest
  | _ + 1, .mark '/' :: .mark ':' :: rest => some rest
  | size + 1, .mark '*' :: rest => skipParameters size rest
  | size + 1, .name n :: rest => do
    if !isName n then none
    match rest with
    | .mark '=' :: rest =>
      match ← skipExpr size rest with
      | .mark ',' :: rest => skipParameters size rest
      | .mark ':' :: rest => some rest
      | _ => none
    | .mark ',' :: rest => skipParameters size rest
    | .mark ':' :: rest => some rest
    | _ => none
  | _, _ => none
termination_by structural size

/-- Skips expressions with commas between them, up to the end. -/
def skipExprs (size : Nat) : Skip := fun tokens =>
  match size with
  | 0 => none
  | size + 1 => do
    match ← skipExpr size tokens with
    | .mark ',' :: t :: rest => skipExprs size (t :: rest)
    | .mark ',' :: [] => some []
    | rest => some rest
termination_by structural size

end

/-- A number that bounds the calls of skippers. -/
def skipBound (tokens : List Token) : Nat := 8 * tokens.length + 8

/-- Whether some tokens are an expression.  Commas outside brackets make a tuple. -/
def isExpression (tokens : List Token) : Bool := skipExprs (skipBound tokens) tokens == some []

/-- Whether some tokens are items of a tuple. -/
def areItems (tokens : List Token) : Bool :=
  skipItems (skipBound tokens) .display ')' (tokens ++ [.mark ')']) == some []

end ElmCodec.Reader
