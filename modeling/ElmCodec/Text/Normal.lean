import ElmCodec.Text.Cut
import ElmCodec.Text.NormalTable

/-!
# Normal form of names

Two spellings of a name are the same name if they have the same normal form.  Every
character is replaced by its compatibility decomposition, the marks after a
character are put in the order of their classes, and then a character and a mark
that have a composition together are replaced by it.

The syllables of Hangul are decomposed and composed by a rule on their numbers.
-/

namespace ElmCodec.Text

/-! ## Reading the tables -/

/-- The number that digits to a base spell. -/
def readNumber (base : Nat) (digits : List Char) : Nat :=
  digits.foldl
    (fun n c => base * n + if c.isDigit then c.toNat - '0'.toNat else c.toNat - 'A'.toNat + 10) 0

/-- The entries of rows, each cut at its equals sign. -/
def readEntries (rows : List String) : List (List Char × List Char) :=
  (rows.flatMap fun row => pieces ' ' row.toList).map fun e => ((cut '=' e).1, (cut '=' e).2.getD [])

/-- The numbers of a range, which may be a single number. -/
def readRange (cs : List Char) : Nat × Nat :=
  match cut '-' cs with
  | (first, none) => (readNumber 16 first, readNumber 16 first)
  | (first, some last) => (readNumber 16 first, readNumber 16 last)

/-- The numbers between plus signs. -/
def readSum (cs : List Char) : List Nat := (pieces '+' cs).map (readNumber 16)

/-- Ranges of characters with one image each: the first, the last, and the image of
the first. -/
def singleImages : List (Nat × Nat × Nat) :=
  (readEntries singleRows).map fun e => ((readRange e.1).1, (readRange e.1).2, readNumber 16 e.2)

/-- Characters with several images. -/
def severalImages : List (Nat × List Nat) :=
  (readEntries severalRows).map fun e => (readNumber 16 e.1, readSum e.2)

/-- Ranges of characters with a combining class. -/
def markClasses : List (Nat × Nat × Nat) :=
  (readEntries classRows).map fun e => ((readRange e.1).1, (readRange e.1).2, readNumber 10 e.2)

/-- Pairs of characters with their composition. -/
def compositions : List (List Nat × Nat) :=
  (readEntries pairRows).map fun e => (readSum e.1, readNumber 16 e.2)

/-! ## Syllables -/

/-- The first leading consonant, vowel and trailing consonant, less one for the last,
and the first syllable. -/
def hangulBase : Nat × Nat × Nat × Nat := (0x1100, 0x1161, 0x11A7, 0xAC00)

/-- The parts of a syllable. -/
def syllableParts? (n : Nat) : Option (List Nat) :=
  let (lead, vowel, trail, first) := hangulBase
  if first ≤ n ∧ n < first + 11172 then
    let k := n - first
    let parts := [lead + k / 588, vowel + k % 588 / 28]
    some (if k % 28 = 0 then parts else parts ++ [trail + k % 28])
  else none

/-- The syllable of a consonant and a vowel, or of a syllable and a last consonant. -/
def syllable? (a b : Nat) : Option Nat :=
  let (lead, vowel, trail, first) := hangulBase
  if lead ≤ a ∧ a < lead + 19 ∧ vowel ≤ b ∧ b < vowel + 21 then
    some (first + (a - lead) * 588 + (b - vowel) * 28)
  else if first ≤ a ∧ a < first + 11172 ∧ (a - first) % 28 = 0 ∧ trail < b ∧ b < trail + 28 then
    some (a + (b - trail))
  else none

/-! ## Steps of the normal form -/

/-- The decomposition of a character. -/
def decomposed (n : Nat) : List Nat :=
  if n < 0x80 then [n]
  else
    match syllableParts? n, severalImages.lookup n with
    | some parts, _ => parts
    | none, some images => images
    | none, none =>
      match singleImages.find? fun r => r.1 ≤ n && n ≤ r.2.1 with
      | some r => [r.2.2 + (n - r.1)]
      | none => [n]

/-- The combining class of a character. -/
def markClass (n : Nat) : Nat :=
  if n < 0x300 then 0
  else ((markClasses.find? fun r => r.1 ≤ n && n ≤ r.2.1).map fun r => r.2.2).getD 0

/-- Puts a character after others, last first.  A mark goes before the marks of a
greater class. -/
def placeMark (n : Nat) : List Nat → List Nat
  | [] => [n]
  | m :: rest =>
    if 0 < markClass n && markClass n < markClass m then m :: placeMark n rest else n :: m :: rest

/-- The composition of two characters. -/
def composed? (a b : Nat) : Option Nat := (syllable? a b).or (compositions.lookup [a, b])

/-- What has been composed: the characters that are settled, the last character that
is no mark, and the marks after it that stay.  All are held last first. -/
structure Composing where
  /-- The settled characters. -/
  settled : List Nat := []
  /-- The last character that is no mark. -/
  base : Option Nat := none
  /-- The marks after it. -/
  marks : List Nat := []

namespace Composing

/-- All characters, last first. -/
def all (s : Composing) : List Nat := s.marks ++ s.base.toList ++ s.settled

/-- Whether the marks keep a character from the base. -/
def blocks (s : Composing) (n : Nat) : Bool :=
  match s.marks with
  | [] => false
  | m :: _ => markClass n ≤ markClass m

/-- Takes the next character. -/
def step (s : Composing) (n : Nat) : Composing :=
  match s.base.bind fun b => if s.blocks n then none else composed? b n with
  | some c => { s with base := some c }
  | none =>
    if markClass n = 0 then { settled := s.all, base := some n }
    else { s with marks := n :: s.marks }

end Composing

/-- The normal form of a text. -/
def normalForm (s : String) : String :=
  if s.toList.all fun c => c.toNat < 0x80 then s
  else
    let codes := s.toList.flatMap fun c => decomposed c.toNat
    let ordered := (codes.foldl (fun out n => placeMark n out) []).reverse
    String.ofList ((ordered.foldl Composing.step {}).all.reverse.map Char.ofNat)

end ElmCodec.Text
