import ElmCodec.Source.ClassError
import ElmCodec.Source.EvalError

/-!
# What stops a module

The reasons for which a module cannot be found or its definitions cannot be
carried out to the end.
-/

namespace ElmCodec.Source

/-- Why loading a module stops. -/
inductive Raised where
  /-- The module raises an exception of its own. -/
  | exception (kind message : String)
  /-- A type expression cannot be evaluated. -/
  | unevaluated (why : EvalError)
  /-- A class cannot be made. -/
  | unmade (why : ClassError)
  /-- The empty text is imported. -/
  | emptyName
  /-- A module is named relative to a package that is not there. -/
  | relativeName (name : String)
  /-- No module has this name. -/
  | noModule (name : String)
  /-- A part is sought in a module that is no package. -/
  | notPackage (name parent : String)
  /-- A module does not bind a name that is imported from it. -/
  | noSuchName (name module : String)
deriving DecidableEq

namespace Raised

/-- The message of what stops a module. -/
def message : Raised → String
  | .exception kind message => if kind = "KeyError" then Text.quoted message else message
  | .unevaluated why => why.message
  | .unmade why => why.message
  | .emptyName => "Empty module name"
  | .relativeName name =>
    "the 'package' argument is required to perform a relative import for " ++ Text.quoted name
  | .noModule name => "No module named " ++ Text.quoted name
  | .notPackage name parent =>
    "No module named " ++ Text.quoted name ++ "; " ++ Text.quoted parent ++ " is not a package"
  | .noSuchName name module =>
    "cannot import name " ++ Text.quoted name ++ " from " ++ Text.quoted module

/-- The kinds of exceptions with other names. -/
def otherNames : List (String × String) :=
  [("IOError", "OSError"), ("EnvironmentError", "OSError")]

/-- What raising an exception of a kind with a message comes to.  Some kinds need
more than a message. -/
def ofException (kind message : String) : Raised :=
  if kind = "UnicodeDecodeError" || kind = "UnicodeEncodeError" then
    .exception "TypeError" "function takes exactly 5 arguments (1 given)"
  else if kind = "UnicodeTranslateError" then
    .exception "TypeError" "function takes exactly 4 arguments (1 given)"
  else if kind = "ExceptionGroup" || kind = "BaseExceptionGroup" then
    .exception "TypeError" "BaseExceptionGroup.__new__() takes exactly 2 arguments (1 given)"
  else .exception ((otherNames.lookup kind).getD kind) message

/-- Whether something goes beyond the failure of a module and ends the whole run. -/
def endsRun : Raised → Bool
  | .exception kind _ =>
    ["BaseException", "GeneratorExit", "KeyboardInterrupt", "SystemExit"].contains kind
  | _ => false

end Raised

end ElmCodec.Source
