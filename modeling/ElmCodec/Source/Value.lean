import ElmCodec.Text.Cut
import ElmCodec.Text.Quoted

/-!
# Plain values

The values that a declaration may hold in the place of a type: the empty value,
truth values, integers, texts, and lists and tuples of values.

Equality does not tell a truth value from the number that it counts as.  Where the
difference matters, the *kind* of a value is compared as well.  A list has no hash,
nor has a tuple that holds one.
-/

namespace ElmCodec.Source

/-- A plain value. -/
inductive Value where
  /-- The value that stands for nothing. -/
  | nothing
  /-- A truth value. -/
  | bool (b : Bool)
  /-- An integer. -/
  | int (n : Int)
  /-- A text. -/
  | text (s : String)
  /-- A list. -/
  | list (items : List Value)
  /-- A tuple. -/
  | tuple (items : List Value)
deriving BEq

namespace Value

/-- The name of the class of a value. -/
def kind : Value → String
  | .nothing => "NoneType"
  | .bool _ => "bool"
  | .int _ => "int"
  | .text _ => "str"
  | .list _ => "list"
  | .tuple _ => "tuple"

/-- The number that a value counts as. -/
def number? : Value → Option Int
  | .bool b => some (if b then 1 else 0)
  | .int n => some n
  | _ => none

mutual

/-- Whether two values are equal. -/
def same : Value → Value → Bool
  | .nothing, .nothing => true
  | .text s, .text t => s == t
  | .list xs, .list ys => sameItems xs ys
  | .tuple xs, .tuple ys => sameItems xs ys
  | .bool b, w => w.number? == some (if b then 1 else 0)
  | .int n, w => w.number? == some n
  | _, _ => false
termination_by structural v => v

/-- Whether two lists of values are equal. -/
def sameItems : List Value → List Value → Bool
  | [], [] => true
  | v :: vs, w :: ws => same v w && sameItems vs ws
  | _, _ => false
termination_by structural vs => vs

end

/-- Whether two values are equal and of one kind. -/
def alike (v w : Value) : Bool := v.kind == w.kind && v.same w

mutual

/-- The kind of the first value inside this one that has no hash. -/
def unhashable? : Value → Option String
  | .list _ => some "list"
  | .tuple items => firstUnhashable? items
  | _ => none
termination_by structural v => v

/-- The kind of the first value in a list that has no hash. -/
def firstUnhashable? : List Value → Option String
  | [] => none
  | v :: rest => (unhashable? v).or (firstUnhashable? rest)
termination_by structural items => items

end

mutual

/-- A value as it is shown in messages.  A tuple of one item keeps a comma. -/
def shown : Value → String
  | .nothing => "None"
  | .bool true => "True"
  | .bool false => "False"
  | .int n => toString n
  | .text s => Text.quoted s
  | .list items => "[" ++ Text.joinWith ", " (shownItems items) ++ "]"
  | .tuple [item] => "(" ++ item.shown ++ ",)"
  | .tuple items => "(" ++ Text.joinWith ", " (shownItems items) ++ ")"
termination_by structural v => v

/-- The items of a list or tuple as they are shown. -/
def shownItems : List Value → List String
  | [] => []
  | v :: rest => v.shown :: shownItems rest
termination_by structural items => items

end

/-! ## Bits of numbers -/

/-- The number whose bits are those of either of two, a natural number and one that
may be negative. -/
def eitherNat (m : Nat) : Int → Int
  | .ofNat n => (m ||| n : Nat)
  | .negSucc n => .negSucc (n ^^^ (n &&& m))

/-- The number whose bits are those of either of two numbers. -/
def eitherBits : Int → Int → Int
  | .ofNat m, n => eitherNat m n
  | .negSucc m, .ofNat n => eitherNat n (.negSucc m)
  | .negSucc m, .negSucc n => .negSucc (m &&& n)

/-- Two values joined bit by bit, if both count as numbers. -/
def either? : Value → Value → Option Value
  | .bool b, .bool c => some (.bool (b || c))
  | v, w => do return .int (eitherBits (← v.number?) (← w.number?))

example : (Value.tuple [.int (-1), .text "a", .tuple [.nothing]]).shown = "(-1, 'a', (None,))" := by
  decide
example : (Value.list [.int 1]).same (.list [.bool true]) := by decide
example : eitherBits 12 (-6) = -2 ∧ eitherBits (-8) (-6) = -6 ∧ eitherBits 1 2 = 3 := by decide

end Value

end ElmCodec.Source
