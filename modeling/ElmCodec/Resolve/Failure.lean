import ElmCodec.Elm.Type
import ElmCodec.Located
import ElmCodec.Source.Hint
import ElmCodec.Source.Raised
import ElmCodec.Source.Shape

/-!
# Failures

What can go wrong on the way from a source module to an Elm module.  A *problem*
is reported to the user with the record and field where it arose.  A *fault* is
something that is not reported in this way and ends the run as it is.
-/

namespace ElmCodec

/-- What is reported to the user. -/
inductive Problem where
  /-- The hints of a record cannot be resolved. -/
  | unresolved (why : Source.EvalError)
  /-- An annotation has no counterpart in Elm. -/
  | unsupported (reason : Source.Reason) (label : String)
  /-- A record has no exported field. -/
  | noField
  /-- A module does not define a name. -/
  | noDefinition (module name : String)
  /-- A definition is no record. -/
  | notARecord (label : String)
  /-- A source file is not there. -/
  | noFile (path : String)
  /-- A source file cannot be loaded. -/
  | badFile (path : String) (why : Option Source.Raised)
  /-- A module cannot be imported. -/
  | badModule (name : String) (why : Source.Raised)
deriving DecidableEq

/-- The message of a problem. -/
def Problem.message : Problem → String
  | .unresolved why => "could not resolve annotations: " ++ why.message
  | .unsupported reason label => reason.message ++ ": " ++ label
  | .noField => "record has no exported fields"
  | .noDefinition module name => "Definition " ++ module ++ "." ++ name ++ " not found"
  | .notARecord label => label ++ " definition is not a record type"
  | .noFile path => "Source file " ++ path ++ " not found"
  | .badFile path none => "Could not load module from " ++ path
  | .badFile path (some why) => "Could not load module from " ++ path ++ ": " ++ why.message
  | .badModule name why => "Could not import module " ++ name ++ ": " ++ why.message

/-- What ends a run without a report. -/
inductive Fault where
  /-- The hints of a record cannot be resolved in a way that is not reported. -/
  | unevaluated (why : Source.EvalError)
  /-- Something without a name cannot be reported. -/
  | nameless (kind : String)
  /-- A module ends the whole run. -/
  | raised (why : Source.Raised)
  /-- The fields of something that is no record are asked for. -/
  | notARecordClass
  /-- A field of a record has no hint. -/
  | noHint (field : String)
  /-- A type cannot be written. -/
  | unwritable (why : Elm.RenderError)
  /-- A class was never declared. -/
  | undeclared (id : Source.ClassId)
deriving DecidableEq

/-- The message of a fault. -/
def Fault.message : Fault → String
  | .unevaluated why => why.message
  | .nameless kind => "'" ++ kind ++ "' object has no attribute '__name__'"
  | .raised why => why.message
  | .notARecordClass => "must be called with a dataclass type or instance"
  | .noHint field => Text.quoted field
  | .unwritable why => why.message
  | .undeclared id => "class " ++ toString id ++ " is not declared"

/-- A problem with its place, or a fault. -/
inductive Failure where
  /-- A problem. -/
  | problem (e : Located Problem)
  /-- A fault. -/
  | fault (f : Fault)
deriving DecidableEq

namespace Failure

/-- A problem without a place. -/
def ofProblem (problem : Problem) : Failure := .problem { problem := problem }

/-- A problem of a record. -/
def ofRecord (problem : Problem) (record : String) : Failure :=
  .problem { problem := problem, record := some record }

/-- The failure to resolve the hints of something, which may have no name.  Only names
without a value and misuses are reported. -/
def ofHints (name : Option String) (kind : String) (why : Source.EvalError) : Failure :=
  match why, name with
  | .undefined _, some record | .misuse _, some record => ofRecord (.unresolved why) record
  | .undefined _, none | .misuse _, none => .fault (.nameless kind)
  | why, _ => .fault (.unevaluated why)

/-- The failure at a field of a record, unless it has a place already. -/
def orAt (record field : String) : Failure → Failure
  | .problem e => .problem (e.orAt record field)
  | .fault f => .fault f

end Failure

end ElmCodec
