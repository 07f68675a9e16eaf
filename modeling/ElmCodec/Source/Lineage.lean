/-!
# Lineages

The order in which a class and its ancestors are searched.  The lineage of a class
starts with the class and merges the lineages of its bases.  A merge takes the
first head that stands in no tail, removes it everywhere and goes on.  So a class
comes before its bases, and bases keep the order in which they are named.  Some
hierarchies have no lineage.  Then the heads at which the merge stopped tell why.

Each step of a merge takes at least one entry away, so the number of entries is
fuel enough.
-/

namespace ElmCodec.Source.Lineage

variable {α : Type} [BEq α]

/-- The heads of some lists, each once. -/
def heads (lists : List (List α)) : List α := (lists.filterMap List.head?).eraseDups

/-- The first head that stands in no tail. -/
def nextHead? (lists : List (List α)) : Option α :=
  (heads lists).find? fun h => lists.all fun l => !l.tail.contains h

/-- The lists without a head, and without lists that are used up. -/
def dropHead (h : α) (lists : List (List α)) : List (List α) :=
  (lists.map fun l => if l.head? == some h then l.tail else l).filter fun l => !l.isEmpty

/-- Merges lists by taking heads that stand in no tail, or stops at some heads. -/
def merge : Nat → List (List α) → Except (List α) (List α)
  | _, [] => .ok []
  | 0, lists => .error (heads lists)
  | fuel + 1, lists =>
    match nextHead? lists with
    | none => .error (heads lists)
    | some h => (merge fuel (dropHead h lists)).map (h :: ·)

/-- The lineage of a class from its bases and their lineages. -/
def ofBases (c : α) (bases : List α) (lineageOf : α → List α) : Except (List α) (List α) :=
  let lists := (bases.map lineageOf ++ [bases]).filter fun l => !l.isEmpty
  (merge lists.flatten.length lists).map (c :: ·)

/-- The first entry that stands in a list a second time. -/
def repeated? : List α → Option α
  | [] => none
  | a :: rest => if rest.contains a then some a else repeated? rest

example : (ofBases 3 [1, 2] fun c => if c == 0 then [0] else [c, 0]).toOption = some [3, 1, 2, 0] := by
  decide
example : (ofBases 2 [0, 1] fun c => if c == 0 then [0] else [c, 0]).toOption = none := by decide

end ElmCodec.Source.Lineage
