import ElmCodec.Text.CaseTable

/-!
# Letter case

Small and capital forms of characters and texts.  A form may be several
characters long, so the mappings return lists.  ASCII letters are mapped by rule
and all others by the tables.

One mapping looks at its surroundings.  The capital sigma becomes a final sigma
at the end of a word, which means that a letter stands before it and none after
it, both sought through the ignorable characters.  `lower` applies this rule to a
whole text, and `lowerHead` and `upperHead` change the first character alone.
-/

namespace ElmCodec.Text

/-- Whether a run has the code point as a member. -/
def CaseRun.covers (r : CaseRun) (n : Nat) : Bool :=
  r.first ≤ n && n ≤ r.last && (n - r.first) % r.step == 0

/-- The image of a character under a pair of tables. -/
def caseImage (long : List (Nat × List Nat)) (runs : List CaseRun) (c : Char) : List Char :=
  match long.lookup c.toNat with
  | some codes => codes.map Char.ofNat
  | none =>
    match runs.find? (·.covers c.toNat) with
    | some r => [Char.ofNat (c.toNat + r.offset).toNat]
    | none => [c]

/-- The capital form of a character. -/
def upperChar (c : Char) : List Char :=
  if c.toNat < 0x80 then [c.toUpper] else caseImage upperLong upperRuns c

/-- The small form of a character that stands alone. -/
def lowerChar (c : Char) : List Char :=
  if c.toNat < 0x80 then [c.toLower] else caseImage lowerLong lowerRuns c

/-! ## Whole texts -/

/-- Whether the nearest character that is not ignorable is a letter with case. -/
def meetsLetter (cs : List Char) : Bool :=
  match cs.dropWhile fun c => inRanges ignorable c.toNat with
  | [] => false
  | c :: _ => inRanges cased c.toNat

/-- The small form of a text, given the characters before it, nearest first. -/
def lowerAfter (before : List Char) : List Char → List Char
  | [] => []
  | c :: rest =>
    let image :=
      if c == 'Σ' then
        [if meetsLetter before && !meetsLetter rest then 'ς' else 'σ']
      else lowerChar c
    image ++ lowerAfter (c :: before) rest

/-- The small form of a text. -/
def lower (cs : List Char) : List Char := lowerAfter [] cs

/-- The text with its first character small. -/
def lowerHead : List Char → List Char
  | [] => []
  | c :: rest => lowerChar c ++ rest

/-- The text with its first character capital. -/
def upperHead : List Char → List Char
  | [] => []
  | c :: rest => upperChar c ++ rest

set_option maxRecDepth 4000

example : upperHead ['ß', 'a'] = ['S', 'S', 'a'] := by decide
example : lower ['A', 'Σ'] = ['a', 'ς'] := by decide
example : lower ['Σ'] = ['σ'] := by decide
example : lowerHead ['I', 'D'] = ['i', 'D'] := by decide

end ElmCodec.Text
