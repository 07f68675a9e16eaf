import ElmCodec.Text.Cut

/-!
# Arguments of the command line

The command line has options of its own, then the command `export`, then the
arguments and options of that command in any order.  A value of an option follows
it as the next word, after an equals sign for a long option, or directly for a
short one, and may itself look like an option.  Two dashes end the options.  Help is
given only if all options that belong together are understood.
-/

namespace ElmCodec.Command

/-- What the command `export` is asked to do. -/
structure Request where
  /-- Whether the whole log is shown. -/
  verbose : Bool := false
  /-- The source file or module. -/
  source : String
  /-- The name of the record class. -/
  definition : String
  /-- The file to write, if there is one. -/
  output : Option String := none
  /-- The renames as they were given. -/
  renames : List String := []
  /-- The name of the format. -/
  format : String := "plain"

/-- Why there is no request. -/
inductive Refusal where
  /-- The arguments are not understood. -/
  | usage
  /-- Help is asked for. -/
  | help
deriving DecidableEq

/-- Whether a word is an option.  A single dash is not. -/
def isOption (word : String) : Bool := word.toList.head? == some '-' && 1 < word.length

/-- Whether a word is a long option. -/
def isLong (word : String) : Bool := ['-', '-'].isPrefixOf word.toList

/-- A word cut at its first equals sign. -/
def cutValue (word : String) : String × Option String :=
  match Text.cut '=' word.toList with
  | (name, value) => (String.ofList name, value.map String.ofList)

/-! ## Before the command -/

/-- What the options before the command ask for. -/
structure Globals where
  /-- Whether the whole log is shown. -/
  verbose : Bool := false
  /-- Whether help is asked for. -/
  help : Bool := false

/-- The options before the command, and the words from the command on. -/
def globalOptions (g : Globals) : List String → Except Refusal (Globals × List String)
  | [] => pure (g, [])
  | word :: rest =>
    if word = "--" then pure (g, rest)
    else if !isOption word then pure (g, word :: rest)
    else if word = "--verbose" then globalOptions { g with verbose := true } rest
    else if word = "--color" || word = "--no-color" then globalOptions g rest
    else if word = "--help" then globalOptions { g with help := true } rest
    else if !isLong word && word.toList.tail.all (· == 'v') then
      globalOptions { g with verbose := true } rest
    else throw .usage

/-! ## After the command -/

/-- The words of the command that were understood. -/
structure Words where
  /-- The arguments in order. -/
  positional : List String := []
  /-- The renames in order. -/
  renames : List String := []
  /-- The last format. -/
  format : String := "plain"
  /-- Whether help is asked for. -/
  help : Bool := false

/-- The options of the command that take a value. -/
inductive ValueOption where
  /-- A rename. -/
  | rename
  /-- A format. -/
  | format

/-- Takes in the value of an option. -/
def Words.take (w : Words) (option : ValueOption) (value : String) : Words :=
  match option with
  | .rename => { w with renames := w.renames ++ [value] }
  | .format => { w with format := value }

/-- What a word that is an option asks for: an option that takes a value, with the
value if it is part of the word, or help. -/
def readOption (word : String) : Except Refusal (Option (ValueOption × Option String)) :=
  match cutValue word with
  | ("--rename", value) => pure (some (.rename, value))
  | ("--format", value) => pure (some (.format, value))
  | ("--help", none) => pure none
  | _ =>
    let glued (rest : List Char) : Option String :=
      if rest.isEmpty then none else some (String.ofList rest)
    match word.toList with
    | '-' :: 'r' :: rest => pure (some (.rename, glued rest))
    | '-' :: 'f' :: rest => pure (some (.format, glued rest))
    | _ => throw .usage

/-- Reads the words after the command. -/
def readWords (w : Words) : List String → Except Refusal Words
  | [] => pure w
  | word :: rest =>
    if word = "--" then pure { w with positional := w.positional ++ rest }
    else if !isOption word then readWords { w with positional := w.positional ++ [word] } rest
    else
      match readOption word with
      | .error e => throw e
      | .ok none => readWords { w with help := true } rest
      | .ok (some (option, some value)) => readWords (w.take option value) rest
      | .ok (some (option, none)) =>
        match rest with
        | [] => throw .usage
        | value :: rest => readWords (w.take option value) rest

/-- The request of the words that were understood. -/
def Words.request (w : Words) (verbose : Bool) : Except Refusal Request :=
  if w.help then throw .help
  else
    match w.positional with
    | [source, definition] => pure ⟨verbose, source, definition, none, w.renames, w.format⟩
    | [source, definition, output] =>
      if output.toList.contains '\x00' then throw .usage
      else pure ⟨verbose, source, definition, some output, w.renames, w.format⟩
    | _ => throw .usage

/-- Reads a command line. -/
def parse (words : List String) : Except Refusal Request := do
  let (globals, words) ← globalOptions {} words
  if globals.help then throw .help
  match words with
  | "export" :: rest => (← readWords {} rest).request globals.verbose
  | _ => throw .usage

end ElmCodec.Command
