import ElmCodec.Reader.Token

/-!
# Expressions of source files

The expressions that declarations are made of: names, constants, attributes,
applications, bracketed lists and alternatives.  Other operators are not read.  A
comma after a single argument in square brackets makes it a tuple.

A reader takes an expression from the front of a list of tokens and returns the
rest.  Each call hands a smaller number to the calls inside it, and every token
leads to at most a few of them.
-/

namespace ElmCodec.Reader

/-- The three kinds of brackets. -/
inductive Bracket where
  | round | square | curly
deriving DecidableEq

/-- The bracket that a character opens. -/
def Bracket.opened? (c : Char) : Option Bracket :=
  if c == '(' then some .round
  else if c == '[' then some .square
  else if c == '\x7b' then some .curly
  else none

/-- The character that closes a bracket. -/
def Bracket.closing : Bracket → Char
  | .round => ')'
  | .square => ']'
  | .curly => '\x7d'

/-- An expression. -/
inductive Expr where
  /-- A name. -/
  | name (n : String)
  /-- A text. -/
  | text (s : String)
  /-- A whole number. -/
  | number (n : Int)
  /-- Three dots. -/
  | dots
  /-- An attribute of an object. -/
  | attribute (base : Expr) (n : String)
  /-- Items in brackets. -/
  | items (b : Bracket) (content : List Expr)
  /-- An object followed by items in brackets. -/
  | applied (base : Expr) (b : Bracket) (args : List Expr)
  /-- Two alternatives. -/
  | either (left right : Expr)
  /-- An item with a name before it. -/
  | named (key : String) (value : Expr)
  /-- An item with a key before it. -/
  | entry (key value : Expr)

/-- A reader of tokens. -/
abbrev Read (α : Type) := List Token → Option (α × List Token)

mutual

/-- Reads alternatives. -/
def readExpr (size : Nat) : Read Expr := fun tokens =>
  match size with
  | 0 => none
  | size + 1 => do
    let (e, rest) ← readOperand size tokens
    readAlternatives size e rest
termination_by structural size

/-- Reads the alternatives after a first one. -/
def readAlternatives (size : Nat) (left : Expr) : Read Expr := fun tokens =>
  match size, tokens with
  | size + 1, .mark '|' :: rest => do
    let (right, rest) ← readOperand size rest
    readAlternatives size (.either left right) rest
  | _, tokens => some (left, tokens)
termination_by structural size

/-- Reads an expression without alternatives outside brackets. -/
def readOperand (size : Nat) : Read Expr := fun tokens =>
  match size, tokens with
  | size + 1, .name n :: rest => readSuffixes size (.name n) rest
  | size + 1, .text s :: rest => readText size s rest
  | size + 1, .number n :: rest => readSuffixes size (.number n) rest
  | size + 1, .mark '-' :: .number n :: rest => readSuffixes size (.number (-n)) rest
  | size + 1, .mark '.' :: .mark '.' :: .mark '.' :: rest => readSuffixes size .dots rest
  | size + 1, .mark c :: rest => do
    let b ← Bracket.opened? c
    let ((content, comma), rest) ← readItems size b rest
    match b, content with
    | .round, [e] => readSuffixes size (if comma then .items b content else e) rest
    | _, _ => readSuffixes size (.items b content) rest
  | _, _ => none
termination_by structural size

/-- Reads the texts that directly follow a text and belong to it. -/
def readText (size : Nat) (s : String) : Read Expr := fun tokens =>
  match size, tokens with
  | size + 1, .text t :: rest => readText size (s ++ t) rest
  | size + 1, tokens => readSuffixes size (.text s) tokens
  | 0, tokens => some (.text s, tokens)
termination_by structural size

/-- Reads attributes and arguments after an object. -/
def readSuffixes (size : Nat) (base : Expr) : Read Expr := fun tokens =>
  match size, tokens with
  | size + 1, .mark '.' :: .name n :: rest => readSuffixes size (.attribute base n) rest
  | size + 1, .mark '(' :: rest => do
    let ((args, _), rest) ← readItems size .round rest
    readSuffixes size (.applied base .round args) rest
  | size + 1, .mark '[' :: rest => do
    let ((args, comma), rest) ← readItems size .square rest
    let args := if comma && args.length == 1 then [.items .round args] else args
    readSuffixes size (.applied base .square args) rest
  | _, tokens => some (base, tokens)
termination_by structural size

/-- Reads items up to the closing bracket, and says whether a comma stood among
them. -/
def readItems (size : Nat) (b : Bracket) : Read (List Expr × Bool) := fun tokens =>
  match size, tokens with
  | _, [] => none
  | 0, _ => none
  | size + 1, t :: rest =>
    if t = .mark b.closing then some (([], false), rest)
    else do
      let (e, rest) ← readItem size (t :: rest)
      match rest with
      | .mark ',' :: rest =>
        let ((more, _), rest) ← readItems size b rest
        some ((e :: more, true), rest)
      | t :: rest => if t = .mark b.closing then some (([e], false), rest) else none
      | [] => none
termination_by structural size

/-- Reads an item, which may have a name or a key. -/
def readItem (size : Nat) : Read Expr := fun tokens =>
  match size, tokens with
  | 0, _ => none
  | size + 1, .name key :: .mark '=' :: rest => do
    let (value, rest) ← readExpr size rest
    some (.named key value, rest)
  | size + 1, tokens => do
    let (e, rest) ← readExpr size tokens
    match rest with
    | .mark ':' :: rest =>
      let (value, rest) ← readExpr size rest
      some (.entry e value, rest)
    | rest => some (e, rest)
termination_by structural size

end

/-- The expression at the front of some tokens, and the rest. -/
def Expr.read? (tokens : List Token) : Option (Expr × List Token) :=
  readExpr (4 * tokens.length + 4) tokens

end ElmCodec.Reader
