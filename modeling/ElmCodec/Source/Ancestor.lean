import ElmCodec.Source.Program

/-!
# Ancestors of standard classes

The lineages of the builtin and library classes.  All end with the class of all
objects.  With these, every class has a lineage.
-/

namespace ElmCodec.Source

/-- The class of all objects. -/
def ClassRef.object : ClassRef := .builtin .object

/-- The ancestors of a library class but the last, the nearest first. -/
def Library.ancestors : Library → List Library
  | .datetime => [.date]
  | .sequence => [.reversible, .collection, .sized, .iterable, .container]
  | .mutableSequence => [.sequence, .reversible, .collection, .sized, .iterable, .container]
  | .mapping | .set => [.collection, .sized, .iterable, .container]
  | .collection => [.sized, .iterable, .container]
  | .reversible => [.iterable]
  | .protocol => [.generic]
  | _ => []

namespace Program

/-- A class and its ancestors, in the order of search. -/
def lineageOf (p : Program) (c : ClassRef) : List ClassRef :=
  match c with
  | .declared id => p.lineage id
  | .builtin .object => [c]
  | .builtin .bool => [c, .builtin .int, .object]
  | .builtin _ => [c, .object]
  | .library l => c :: l.ancestors.map .library ++ [.object]

/-- Whether a class has another among its ancestors, or is that class. -/
def descends (p : Program) (c ancestor : ClassRef) : Bool := (p.lineageOf c).contains ancestor

end Program

end ElmCodec.Source
