import ElmCodec.Reader.Expr
import ElmCodec.Reader.Grammar
import ElmCodec.Source.EvalError

/-!
# References

A reference is a text that stands for a type.  It is read as an expression when it
is made, and evaluated when hints are resolved.  Names, whole numbers, texts,
attributes of what names stand for, lists, tuples, arguments in square brackets, and
alternatives are understood.  A star before the expression takes the first part of
what it stands for.

All other expressions are only recognised: calls, operators other than `|`, conditions,
comprehensions, slices, sets and dictionaries, numbers with a fraction, texts with a
letter before the quote, and attributes of constants.  Such a text is a reference too,
but it is *unread*: what it stands for is not found here and can only be given from
outside.
-/

namespace ElmCodec.Source

open Reader (Expr Token)

/-- A reference that was read. -/
structure Reference where
  /-- Whether the first part is taken. -/
  starred : Bool
  /-- The expression. -/
  expr : Expr

/-- What became of a text that was read as a reference. -/
inductive Reading where
  /-- It is an expression that is understood. -/
  | understood (r : Reference)
  /-- It is an expression of another kind. -/
  | unread
  /-- It is no expression. -/
  | malformed

namespace Reference

/-- Whether an expression is a constant or a display of items. -/
def isConstant : Expr → Bool
  | .text _ | .number _ | .dots | .items .. => true
  | _ => false

mutual

/-- Whether an expression is understood in a reference. -/
def understood : Expr → Bool
  | .name n => Reader.isName n
  | .text _ | .number _ | .dots => true
  | .attribute base n => !isConstant base && understood base && Reader.isAttributeName n
  | .items .round content | .items .square content => allUnderstood content
  | .applied base .square (e :: rest) => understood base && understood e && allUnderstood rest
  | .either left right => understood left && understood right
  | _ => false
termination_by structural e => e

/-- Whether all expressions are understood in a reference. -/
def allUnderstood : List Expr → Bool
  | [] => true
  | e :: rest => understood e && allUnderstood rest
termination_by structural es => es

end

/-- The expression that some tokens are, if it is understood. -/
def ofTokens? (tokens : List Token) : Option Expr :=
  match Expr.read? tokens with
  | some (e, []) => if understood e then some e else none
  | _ => none

/-- Reads some tokens as a reference.  Commas outside brackets make a tuple. -/
def ofTokens (tokens : List Token) : Reading :=
  match ofTokens? (.mark '(' :: tokens ++ [.mark ')']) with
  | some e => .understood ⟨false, e⟩
  | none => if Reader.isExpression tokens then .unread else .malformed

/-- Reads the tokens after a star as a reference.  They are the first item of a tuple, and
other items may follow. -/
def ofStarred (tokens : List Token) : Reading :=
  match ofTokens? tokens with
  | some e => .understood ⟨true, e⟩
  | none => if Reader.areItems (.mark '*' :: tokens ++ [.mark ',']) then .unread else .malformed

/-- Reads a text as a reference. -/
def reading (text : String) : Reading :=
  match Reader.isClosed text, Reader.lines text with
  | true, [⟨0, .mark '*' :: tokens⟩] => ofStarred tokens
  | true, [⟨0, t :: tokens⟩] => ofTokens (t :: tokens)
  | _, _ => .malformed

/-- Checks that a text is a reference. -/
def check (text : String) : Except EvalError Unit :=
  if text = "" then throw .emptyReference
  else
    match reading text with
    | .malformed => throw (.malformed text)
    | .understood _ | .unread => pure ()

end Reference

end ElmCodec.Source
