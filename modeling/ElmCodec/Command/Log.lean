import ElmCodec.Text.Quoted

/-!
# The log of the command line

Log entries have a level and a message.  A line of the log shows the level, filled
up with blanks, and then the message.  Without the whole log, only warnings and
errors are shown.  Control sequences for terminals are left out of all that is
printed.
-/

namespace ElmCodec.Command

/-- The level of a log entry. -/
inductive Level where
  | debug | info | warning | error
deriving DecidableEq

/-- The name of a level, filled up to seven characters. -/
def Level.column : Level → String
  | .debug => "DEBUG  "
  | .info => "INFO   "
  | .warning => "WARNING"
  | .error => "ERROR  "

/-- Whether entries of a level are shown without the whole log. -/
def Level.isSevere : Level → Bool
  | .warning | .error => true
  | _ => false

/-- A log entry. -/
structure LogEntry where
  /-- The level. -/
  level : Level
  /-- The message. -/
  message : String
deriving DecidableEq

/-- The line of a log entry. -/
def LogEntry.line (e : LogEntry) : String := e.level.column ++ " " ++ e.message ++ "\n"

/-- The length of the control sequence that a text starts with: an escape, a
bracket, digits and marks, and a letter. -/
def sequenceLength? : List Char → Option Nat
  | '\x1b' :: '[' :: rest =>
    let marks := rest.takeWhile fun c => c.isDigit || c == ';' || c == '?'
    match rest.drop marks.length with
    | c :: _ => if c.isAlpha then some (marks.length + 3) else none
    | [] => none
  | _ => none

/-- The text without control sequences, where the first `skip` characters belong
to one already found. -/
def plainFrom (skip : Nat) : List Char → List Char
  | [] => []
  | c :: rest =>
    match skip with
    | n + 1 => plainFrom n rest
    | 0 =>
      match sequenceLength? (c :: rest) with
      | some n => plainFrom (n - 1) rest
      | none => c :: plainFrom 0 rest

/-- The text without control sequences. -/
def plain (s : String) : String := String.ofList (plainFrom 0 s.toList)

/-- The log as it is printed. -/
def shownLog (verbose : Bool) (entries : List LogEntry) : String :=
  plain ("".intercalate
    ((entries.filter fun e => verbose || e.level.isSevere).map LogEntry.line))

example : plain "a\x1b[1;31mb" = "ab" := by decide

end ElmCodec.Command
