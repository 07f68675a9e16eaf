/-!
# Ordered tables

A table maps keys to values and keeps the order in which the keys came in.  A
second entry for a key changes the value and leaves the key where it is.  Tables
are lists of pairs, so every operation is a recursion on the list.
-/

namespace ElmCodec

/-- A list of keys with their values, each key once. -/
abbrev Table (α β : Type) := List (α × β)

namespace Table

variable {α β : Type} [BEq α]

/-- The value of a key. -/
def find? (t : Table α β) (key : α) : Option β := List.lookup key t

/-- Whether the table has an entry for a key. -/
def contains (t : Table α β) (key : α) : Bool := (t.find? key).isSome

/-- The table with a new value for a key.  A new key goes to the end. -/
def insert : Table α β → α → β → Table α β
  | [], key, value => [(key, value)]
  | entry :: rest, key, value =>
    if entry.1 == key then (entry.1, value) :: rest else entry :: insert rest key value

/-- The table without the entry for a key. -/
def erase (t : Table α β) (key : α) : Table α β := t.filter fun entry => !(entry.1 == key)

/-- The keys in order. -/
def keys (t : Table α β) : List α := t.map Prod.fst

/-- The table that takes in further entries one after the other. -/
def insertAll (t : Table α β) (entries : List (α × β)) : Table α β :=
  entries.foldl (fun t entry => t.insert entry.1 entry.2) t

/-- The table of a list of entries, later ones over earlier ones. -/
def ofEntries (entries : List (α × β)) : Table α β := insertAll [] entries

example : ofEntries [("a", 1), ("b", 2), ("a", 3)] = [("a", 3), ("b", 2)] := by decide

end Table

end ElmCodec
