import ElmCodec.Resolve.Failure
import ElmCodec.Naming

/-!
# The registry of records

The records found so far.  `records` holds their definitions, `index` says where
the record of a class stands, and `discovered` lists the places in the order of
discovery.  A record is registered before its fields are known, so that the classes
of a cycle find each other, and filled in later.  If its fields cannot be built, the
record and all records after it are forgotten.

A walk also keeps a log of what it did.  The log is not forgotten.
-/

namespace ElmCodec

open Source (ClassId)

/-- The records found so far. -/
structure Registry where
  /-- The place of the record of a class. -/
  index : Table ClassId Elm.RecordId := []
  /-- The record definitions. -/
  records : Elm.Schema := []
  /-- The places of the records in the order of discovery. -/
  discovered : List Elm.RecordId := []
  /-- The place of the root record. -/
  root : Option Elm.RecordId := none

namespace Registry

/-- The place of the record of a class. -/
def find? (r : Registry) (id : ClassId) : Option Elm.RecordId := r.index.find? id

/-- Where the next record goes. -/
def next (r : Registry) : Elm.RecordId := r.records.length

/-- Registers a record without fields for a class. -/
def register (r : Registry) (id : ClassId) (name : String) : Registry :=
  { r with
    index := r.index.insert id r.next
    records := r.records ++ [⟨name, []⟩]
    discovered := r.discovered ++ [r.next] }

/-- Fills in the fields of a record. -/
def fill (r : Registry) (place : Elm.RecordId) (fields : List Elm.Field) : Registry :=
  { r with records := r.records.modify place fun record => { record with fields := fields } }

/-- Forgets the records from a place on. -/
def rollback (r : Registry) (mark : Elm.RecordId) : Registry :=
  { r with
    index := r.index.filter fun entry => entry.2 < mark
    records := r.records.take mark
    discovered := r.discovered.filter fun place => place < mark }

/-- The records other than the root, in the order of discovery. -/
def nested (r : Registry) : List Elm.Ty :=
  (r.discovered.filter fun place => r.root != some place).map Elm.Ty.record

end Registry

/-- Something a walk did. -/
inductive Event where
  /-- It met a class whose record is registered. -/
  | reused (qualifiedName : String)
  /-- It registered a record for a class. -/
  | discovered (id : ClassId) (qualifiedName name : String)
  /-- It converted the type of a field. -/
  | converted (record key hint type : String)
  /-- It resolved a root record. -/
  | resolved (root : String) (nested : List String)
deriving DecidableEq

/-- The text of an event. -/
def Event.message : Event → String
  | .reused qualifiedName => "Record cache hit: " ++ qualifiedName
  | .discovered _ qualifiedName name => "Discovered record: " ++ qualifiedName ++ " as " ++ name
  | .converted record key hint type =>
    "Type conversion: " ++ record ++ ":" ++ key ++ " " ++ hint ++ " -> " ++ type
  | .resolved root nested =>
    "Resolved " ++ root ++ " with nested records: [" ++
      Text.joinWith ", " (nested.map Text.quoted) ++ "]"

/-- The state of a walk: the registry and the log. -/
structure Session where
  /-- The records found so far. -/
  registry : Registry := {}
  /-- What happened, oldest first. -/
  events : List Event := []

/-- The classes for which records were registered, in order. -/
def Session.visited (s : Session) : List ClassId :=
  s.events.filterMap fun e =>
    match e with
    | .discovered id _ _ => some id
    | _ => none

/-- A step of a walk.  It may fail, and it keeps its state then too. -/
abbrev ResolveM := ExceptT Failure (StateM Session)

namespace ResolveM

/-- A result without state as a step of a walk. -/
def ofExcept {α : Type} (r : Except Failure α) : ResolveM α := ExceptT.mk (pure r)

/-- Adds an event to the log. -/
def log (e : Event) : ResolveM Unit := modify fun s => { s with events := s.events ++ [e] }

/-- The registry. -/
def registry : ResolveM Registry := do return (← get).registry

/-- Changes the registry. -/
def update (f : Registry → Registry) : ResolveM Unit :=
  modify fun s => { s with registry := f s.registry }

end ResolveM

end ElmCodec
