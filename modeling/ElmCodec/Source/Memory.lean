import ElmCodec.Source.Equality

/-!
# Applied forms that were made

A form of `typing` applied to arguments is made once.  When it is applied again to
arguments that are equal, the result is the one that was made first.  This can be
seen, since equal annotations may be shown differently: unions are equal in any
order.  Arguments without a hash are not remembered.

A class applied to arguments is made anew each time.
-/

namespace ElmCodec.Source

/-- What stands between square brackets: one object, or several. -/
inductive Index where
  /-- One object. -/
  | one (a : Annot)
  /-- Any number of objects. -/
  | many (items : List Annot)

namespace Index

/-- The index that some arguments make.  A tuple by itself is its items. -/
def ofArgs : List Annot → Index
  | [.value (.tuple vs)] => .many (vs.map .value)
  | [.tuple items] => .many items
  | [a] => .one a
  | as => .many as

/-- The objects of an index. -/
def items : Index → List Annot
  | .one a => [a]
  | .many as => as

/-- Whether two indices are equal. -/
def same : Index → Index → Bool
  | .one a, .one b => a.same b
  | .many as, .many bs => Annot.sameAll as bs
  | _, _ => false

end Index

/-- A form, class or applied form with what it is applied to. -/
structure Application where
  /-- What is applied. -/
  head : Annot
  /-- The arguments. -/
  index : Index

namespace Application

/-- Whether two applications are equal. -/
def same (a b : Application) : Bool := a.head.same b.head && a.index.same b.index

/-- Whether an application can be remembered. -/
def isHashable (a : Application) : Bool :=
  (Annot.firstUnhashable? (a.head :: a.index.items)).isNone

end Application

/-- What evaluation remembers. -/
structure Memory where
  /-- The applied forms that were made, the first one first. -/
  made : List (Application × Annot) := []
  /-- The number for the next object that is told apart by a number. -/
  serial : Nat := 0

namespace Memory

/-- What an equal application made. -/
def find? (m : Memory) (a : Application) : Option Annot :=
  (m.made.find? fun entry => a.same entry.1).map Prod.snd

/-- Remembers what an application made. -/
def record (m : Memory) (a : Application) (result : Annot) : Memory :=
  { m with made := m.made ++ [(a, result)] }

end Memory

end ElmCodec.Source
