import ElmCodec.Text.Cut

/-!
# Indented blocks

The lines of one declaration.  A line is indented by the level at which it is
added, four blanks a level, and an empty line stays empty.  A level of zero or
below does not indent.
-/

namespace ElmCodec.Elm

/-- Lines of text and the level of the next line. -/
structure Block where
  /-- The level of the next line. -/
  level : Int := 0
  /-- The lines so far, indented. -/
  lines : List String := []

namespace Block

/-- The blanks before a line at a level. -/
def margin (level : Int) : String := String.ofList (List.replicate (4 * level.toNat) ' ')

/-- Adds a line at the current level. -/
def line (b : Block) (text : String) : Block :=
  { b with lines := b.lines ++ [if text = "" then "" else margin b.level ++ text] }

/-- Adds several lines at the current level. -/
def addLines (b : Block) (texts : List String) : Block := texts.foldl line b

/-- Moves the following lines one level in. -/
def indent (b : Block) : Block := { b with level := b.level + 1 }

/-- Moves the following lines one level out. -/
def dedent (b : Block) : Block := { b with level := b.level - 1 }

/-- Adds what `body` adds, one level further in. -/
def indented (b : Block) (body : Block → Block) : Block := (body b.indent).dedent

/-- The text of the block. -/
def text (b : Block) : String := Text.joinWith "\n" b.lines

end Block

end ElmCodec.Elm
