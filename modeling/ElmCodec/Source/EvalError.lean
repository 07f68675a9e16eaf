import ElmCodec.Text.Quoted

/-!
# Errors of evaluation

Why a type expression or a reference has no value.  Most of these are *misuses*:
something was put where a type of another kind is needed.  What was misused is kept
as the text that shows it.
-/

namespace ElmCodec.Source

/-- The rule that a type in some place has to keep. -/
inductive Rule where
  /-- The arguments of a form. -/
  | arguments
  /-- The element of a tuple of any length. -/
  | tupleElement
  /-- The elements of a tuple. -/
  | tupleElements
  /-- The result of a callable. -/
  | result
  /-- The members of a union. -/
  | member
  /-- A form that takes a single type. -/
  | only (form : String)
  /-- The type that is optional. -/
  | optional
  /-- The type that has notes. -/
  | noted
  /-- What a reference stands for. -/
  | reference
deriving DecidableEq

/-- The text of a rule. -/
def Rule.message : Rule → String
  | .arguments => "Parameters to generic types must be types."
  | .tupleElement => "Tuple[t, ...]: t must be a type."
  | .tupleElements => "Tuple[t0, t1, ...]: each t must be a type."
  | .result => "Callable[args, result]: result must be a type."
  | .member => "Union[arg, ...]: each arg must be a type."
  | .only form => "typing." ++ form ++ " accepts only single type."
  | .optional => "typing.Optional requires a single type."
  | .noted => "Annotated[t, ...]: t must be a type."
  | .reference => "Forward references must evaluate to types."

/-- How something was misused. -/
inductive Misuse where
  /-- Arguments are given to something without type variables. -/
  | notGeneric (shown : String)
  /-- The number of arguments is not the expected one, which may be a least one. -/
  | count (shown : String) (actual expected : Nat) (least : Bool)
  /-- A class takes no arguments. -/
  | closedClass (name : String)
  /-- An object has no items. -/
  | noItems (kind : String)
  /-- A sequence is indexed by something that is no number. -/
  | badIndex (sequence index : String)
  /-- A class variable stands inside a type. -/
  | notArgument (shown : String)
  /-- A form without its arguments stands inside a type. -/
  | bareForm (shown : String)
  /-- A tuple stands in the place of a type. -/
  | notAType (rule : Rule) (shown : String)
  /-- Two objects cannot be joined. -/
  | operands (left right : String)
  /-- An object has no hash. -/
  | unhashable (kind : String)
  /-- A union has no members. -/
  | emptyUnion
  /-- A type with notes has no notes. -/
  | noNotes
  /-- A callable has no parameters or no result. -/
  | callable
  /-- The parameters of a callable are no list. -/
  | parameters (shown : String)
  /-- Something cannot have annotations. -/
  | noHints (shown : String)
  /-- An object has no parts. -/
  | notIterable (kind : String)
deriving DecidableEq

/-- The message of a misuse. -/
def Misuse.message : Misuse → String
  | .notGeneric shown => shown ++ " is not a generic class"
  | .count shown actual expected least =>
    "Too " ++ (if expected < actual then "many" else "few") ++ " arguments for " ++ shown ++
      "; actual " ++ toString actual ++ ", expected " ++ (if least then "at least " else "") ++
      toString expected
  | .closedClass name => "type '" ++ name ++ "' is not subscriptable"
  | .noItems kind => "'" ++ kind ++ "' object is not subscriptable"
  | .badIndex "str" index => "string indices must be integers, not '" ++ index ++ "'"
  | .badIndex sequence index =>
    sequence ++ " indices must be integers or slices, not " ++ index
  | .notArgument shown => shown ++ " is not valid as type argument"
  | .bareForm shown => "Plain " ++ shown ++ " is not valid as type argument"
  | .notAType rule shown => rule.message ++ " Got " ++ shown ++ "."
  | .operands left right =>
    "unsupported operand type(s) for |: '" ++ left ++ "' and '" ++ right ++ "'"
  | .unhashable kind => "unhashable type: '" ++ kind ++ "'"
  | .emptyUnion => "Cannot take a Union of no types."
  | .noNotes =>
    "Annotated[...] should be used with at least two arguments (a type and an annotation)."
  | .callable => "Callable must be used as Callable[[arg, ...], result]."
  | .parameters shown =>
    "Expected a list of types, an ellipsis, ParamSpec, or Concatenate. Got " ++ shown
  | .noHints shown => shown ++ " is not a module, class, method, or function."
  | .notIterable kind => "Value after * must be an iterable, not " ++ kind

/-- Why evaluation stops. -/
inductive EvalError where
  /-- A name is bound to nothing. -/
  | undefined (name : String)
  /-- Something is misused. -/
  | misuse (m : Misuse)
  /-- A reference is no expression. -/
  | malformed (text : String)
  /-- A reference is an expression of a kind that is not evaluated here. -/
  | unread (text : String)
  /-- A reference is empty. -/
  | emptyReference
  /-- An enumeration has no member of a name. -/
  | noMember (shown : String)
  /-- An enumeration has no attribute of a name. -/
  | noConstant (name : String)
  /-- A sequence has no item at a number. -/
  | outOfRange (sequence : String)
  /-- An object has no attribute of a name. -/
  | noAttribute (owner name : String)
deriving DecidableEq

/-- The message of an error of evaluation. -/
def EvalError.message : EvalError → String
  | .undefined name => "name '" ++ name ++ "' is not defined"
  | .misuse m => m.message
  | .malformed text => "Forward reference must be an expression -- got " ++ Text.quoted text
  | .unread text => "the value of " ++ Text.quoted text ++ " is not known"
  | .emptyReference => "string index out of range"
  | .noMember shown => shown
  | .noConstant name => name
  | .outOfRange "str" => "string index out of range"
  | .outOfRange sequence => sequence ++ " index out of range"
  | .noAttribute owner name => owner ++ " has no attribute " ++ Text.quoted name

end ElmCodec.Source
