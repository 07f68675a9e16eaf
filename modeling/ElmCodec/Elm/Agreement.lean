import ElmCodec.Elm.Type

/-!
# Types with the same content

Two types agree if they describe the same values in the same words, wherever
their records are defined.  Records may be cyclic, so a pair of records that is
being compared already counts as agreeing.  The comparison returns the pairs it
has met, and nothing if it found a difference.

Each new pair of records costs one unit of fuel.  There are finitely many pairs of
record definitions, and their number is fuel enough.
-/

namespace ElmCodec.Elm

/-- Pairs of records met by a comparison. -/
abbrev Met := List (RecordId × RecordId)

/-- Compares two types, given a comparison of records. -/
def Ty.agree (records : RecordId → RecordId → Met → Option Met) : Ty → Ty → Met → Option Met
  | .primitive p, .primitive q, met => if p = q then some met else none
  | .list a, .list b, met => Ty.agree records a b met
  | .nullable a, .nullable b, met => Ty.agree records a b met
  | .record i, .record j, met => records i j met
  | .incomplete v, .incomplete w, met => if v = w then some met else none
  | .foreign kind key name, .foreign kind' key' name', met =>
    if kind = kind' ∧ key = key' ∧ name = name' then some met else none
  | _, _, _ => none

/-- Compares two fields, given a comparison of records. -/
def Field.agree (records : RecordId → RecordId → Met → Option Met) (f g : Field) (met : Met) :
    Option Met :=
  if f.key = g.key ∧ f.name = g.name ∧ f.omittable = g.omittable then
    Ty.agree records f.type g.type met
  else none

/-- Compares two lists of fields position by position. -/
def fieldsAgree (records : RecordId → RecordId → Met → Option Met) :
    List Field → List Field → Met → Option Met
  | [], [], met => some met
  | f :: fs, g :: gs, met => do
    let met ← Field.agree records f g met
    fieldsAgree records fs gs met
  | _, _, _ => none

/-- Compares a record of one schema with a record of another. -/
def recordsAgree (s t : Schema) : Nat → RecordId → RecordId → Met → Option Met
  | fuel, i, j, met =>
    if met.contains (i, j) then some met
    else
      match s[i]?, t[j]?, fuel with
      | some a, some b, fuel + 1 =>
        if a.name = b.name ∧ a.fields.length = b.fields.length then
          fieldsAgree (recordsAgree s t fuel) a.fields b.fields ((i, j) :: met)
        else none
      | none, none, _ => some met
      | _, _, _ => none

/-- The number of pairs of record definitions of two schemas. -/
def pairCount (s t : Schema) : Nat := s.length * t.length

/-- Whether a type of one schema has the same content as a type of another. -/
def Ty.sameContent (s t : Schema) (a b : Ty) : Bool :=
  (Ty.agree (recordsAgree s t (pairCount s t)) a b []).isSome

/-- Whether a field of one schema has the same content as a field of another. -/
def Field.sameContent (s t : Schema) (f g : Field) : Bool :=
  (Field.agree (recordsAgree s t (pairCount s t)) f g []).isSome

end ElmCodec.Elm
