/-!
# Cutting texts

Texts are cut at single characters and searched for fixed words.  `cut` splits at
the first separator, `pieces` at every one, and `without` leaves out each
occurrence of a word, from left to right.
-/

namespace ElmCodec.Text

/-- The part before the first separator, and the part after it if there is one. -/
def cut (sep : Char) : List Char → List Char × Option (List Char)
  | [] => ([], none)
  | c :: rest =>
    if c == sep then ([], some rest)
    else
      let (head, tail) := cut sep rest
      (c :: head, tail)

/-- The pieces between separators.  There is always at least one. -/
def pieces (sep : Char) : List Char → List (List Char)
  | [] => [[]]
  | c :: rest =>
    if c == sep then [] :: pieces sep rest
    else
      match pieces sep rest with
      | [] => [[c]]
      | p :: ps => (c :: p) :: ps

/-- The text without the occurrences of a word, where the first `skip`
characters belong to an occurrence already found. -/
def withoutFrom (word : List Char) (skip : Nat) : List Char → List Char
  | [] => []
  | c :: rest =>
    match skip with
    | n + 1 => withoutFrom word n rest
    | 0 =>
      if word.isPrefixOf (c :: rest) then withoutFrom word (word.length - 1) rest
      else c :: withoutFrom word 0 rest

/-- The text without the occurrences of a non-empty word. -/
def without (word : String) (s : String) : String :=
  String.ofList (withoutFrom word.toList 0 s.toList)

/-- Texts put together with a separator between them. -/
def joinWith (sep : String) (parts : List String) : String :=
  sep.intercalate parts

example : cut ':' ['a', ':', 'b', ':'] = (['a'], some ['b', ':']) := by decide
example : pieces '_' ['_', 'a', '_'] = [[], ['a'], []] := by decide
example : without "ab" "aabb" = "ab" := by decide

end ElmCodec.Text
