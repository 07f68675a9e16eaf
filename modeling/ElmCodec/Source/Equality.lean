import ElmCodec.Source.Annot

/-!
# Equality of annotations

`same` is the equality by which repetitions are found.  Classes, type variables and
other objects with a place or a number of their own are equal only to themselves.
Applied forms are equal if their arguments are, one by one.  Unions are compared as
sets: they have as many members, and each member of one is equal to a member of the
other.  Neither the order of the members nor the kind of union counts.

`distinct` leaves out what is equal to something earlier.  Some annotations hold a
value without a hash, and `unhashable?` finds the first of these.
-/

namespace ElmCodec.Source.Annot

/-- Whether two lists of values have the same members. -/
def sameValues (values others : List Value) : Bool :=
  values.length == others.length && values.all fun v => others.any v.alike

/-- The members of a union of either kind. -/
def members? : Annot → Option (List Annot)
  | .union members | .pipe members => some members
  | _ => none

mutual

/-- Whether two annotations are equal. -/
def same : Annot → Annot → Bool
  | .cls c, .cls d => c == d
  | .form f, .form g => f == g
  | .value v, .value w => v.same w
  | .ellipsis, .ellipsis => true
  | .forward s _, .forward t _ => s == t
  | .applied c args, .applied d others => c == d && sameAll args others
  | .applied c args, .signature others => c == .library .callable && sameAll args others
  | .signature args, .applied d others => d == .library .callable && sameAll args others
  | .signature args, .signature others => sameAll args others
  | .special f args, .special g others => f == g && sameAll args others
  | .generic c args, .generic d others => c == d && sameAll args others
  | .params types, .params others => sameAll types others
  | .tuple items, .tuple others => sameAll items others
  | .union members, b | .pipe members, b =>
    match b.members? with
    | some others => members.length == others.length && allAmong members others &&
        others.all fun b => anyMember members b
    | none => false
  | .annotated t notes, .annotated u others => same t u && sameAll notes others
  | .initVar m _, .initVar n _ => m == n
  | .literal vs, .literal ws => sameValues vs ws
  | .typeVar m _, .typeVar n _ => m == n
  | .newType m _ _, .newType n _ _ => m == n
  | .function m _ _, .function n _ _ => m == n
  | .routine m s, .routine n t => m == n && s == t
  | .member c s _, .member d t _ => c == d && s == t
  | .object m k _ _, .object n l _ _ => m == n && k == l
  | .module m, .module n => m == n
  | _, _ => false
termination_by structural a => a

/-- Whether two lists are equal position by position. -/
def sameAll : List Annot → List Annot → Bool
  | [], [] => true
  | a :: as, b :: bs => same a b && sameAll as bs
  | _, _ => false
termination_by structural as => as

/-- Whether every member of one list is equal to a member of another. -/
def allAmong : List Annot → List Annot → Bool
  | [], _ => true
  | a :: as, bs => bs.any (fun b => same a b) && allAmong as bs
termination_by structural as => as

/-- Whether a member of a list is equal to an annotation. -/
def anyMember : List Annot → Annot → Bool
  | [], _ => false
  | a :: as, b => same a b || anyMember as b
termination_by structural as => as

end

/-- The list without members equal to earlier ones, given the earlier ones. -/
def distinctAfter (seen : List Annot) : List Annot → List Annot
  | [] => []
  | a :: rest =>
    if seen.any (fun b => same b a) then distinctAfter seen rest
    else a :: distinctAfter (seen ++ [a]) rest

/-- The list without members equal to earlier ones. -/
def distinct (as : List Annot) : List Annot := distinctAfter [] as

/-- The values without repetitions, given the earlier ones. -/
def distinctValues (seen : List Value) : List Value → List Value
  | [] => []
  | v :: rest =>
    if seen.any v.alike then distinctValues seen rest
    else v :: distinctValues (seen ++ [v]) rest

/-- One of some values.  Repetitions are left out if all values have a hash. -/
def literalOf (values : List Value) : Annot :=
  .literal (if (Value.firstUnhashable? values).isSome then values else distinctValues [] values)

/-! ## Hashes -/

mutual

/-- The kind of the first object inside an annotation that has no hash. -/
def unhashable? : Annot → Option String
  | .value v => v.unhashable?
  | .params _ => some "list"
  | .tuple items => firstUnhashable? items
  | .object _ kind _ hashable => if hashable then none else some kind
  | .applied _ args | .signature args | .special _ args | .generic _ args => firstUnhashable? args
  | .union members | .pipe members => firstUnhashable? members
  | .annotated t notes => (unhashable? t).or (firstUnhashable? notes)
  | .literal values => Value.firstUnhashable? values
  | _ => none
termination_by structural a => a

/-- The kind of the first object inside some annotations that has no hash. -/
def firstUnhashable? : List Annot → Option String
  | [] => none
  | a :: rest => (unhashable? a).or (firstUnhashable? rest)
termination_by structural as => as

end

end ElmCodec.Source.Annot
