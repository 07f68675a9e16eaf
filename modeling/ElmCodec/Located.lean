/-!
# Located problems

A problem with the record and the field where it arose.  The message names the
record if its name is known and not empty, and then the field in the same way.
-/

namespace ElmCodec

/-- A problem and where it arose. -/
structure Located (ε : Type) where
  /-- What went wrong. -/
  problem : ε
  /-- The declared name of the record. -/
  record : Option String := none
  /-- The declared name of the field. -/
  field : Option String := none
deriving DecidableEq

namespace Located

variable {ε : Type}

/-- The same problem at another place. -/
def withContext (e : Located ε) (record field : Option String) : Located ε :=
  ⟨e.problem, record, field⟩

/-- The same problem at a place, unless it has one already. -/
def orAt (e : Located ε) (record : String) (field : String) : Located ε :=
  match e.record with
  | none => e.withContext (some record) (some field)
  | some _ => e

/-- A name as part of a place, left out if it is missing or empty. -/
def placeName (label : String) : Option String → Option String
  | none => none
  | some name => if name = "" then none else some (label ++ " '" ++ name ++ "'")

/-- The place as the end of a message. -/
def place (e : Located ε) : String :=
  match placeName " in record" e.record with
  | none => ""
  | some record => record ++ (placeName " field" e.field).getD ""

/-- The message of a problem with its place. -/
def describe (e : Located ε) (message : ε → String) : String := message e.problem ++ e.place

end Located

end ElmCodec
