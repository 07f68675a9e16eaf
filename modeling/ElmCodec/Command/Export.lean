import ElmCodec.Command.Arguments
import ElmCodec.Command.Clock
import ElmCodec.Command.Log
import ElmCodec.Load.Source
import ElmCodec.Resolve.Convert

/-!
# The export command

The command loads a source, resolves a record class of it and writes the Elm
module to the standard output or to a file.  The text is complete before anything
is written, so a failure leaves no output.  Problems are logged as errors.  Faults
and an output file that cannot be opened end the run as they are.

An output path may lead anywhere in the file system.  Whether a file can be opened is
said by the names and directories on the way.  What else a system may refuse, for want
of permission or room, is left out.
-/

namespace ElmCodec.Command

/-- The version of the program. -/
def version : String := "0.1.0"

/-- The last name of a path, empty if the path ends in a slash. -/
def baseName (path : String) : String :=
  String.ofList ((Text.pieces '/' path.toList).getLastD [])

/-- The banner of the format with comments. -/
def commentBanner (source : String) (now : Clock) : List String :=
  ["-- Generated by py2elm v" ++ version, "-- Generation time: " ++ now.text,
    "-- Source file: " ++ baseName source]

/-! ## Output files -/

/-- Why an output file cannot be opened. -/
inductive OpenError where
  /-- A directory on the way is missing. -/
  | missing (path : String)
  /-- Something on the way is no directory. -/
  | notDirectory (path : String)
  /-- A directory stands there. -/
  | isDirectory (path : String)
  /-- A name is longer than the file system allows. -/
  | tooLong (path : String)
deriving DecidableEq

/-- The message of an open error. -/
def OpenError.message : OpenError → String
  | .missing path => "[Errno 2] No such file or directory: " ++ Text.quoted path
  | .notDirectory path => "[Errno 20] Not a directory: " ++ Text.quoted path
  | .isDirectory path => "[Errno 21] Is a directory: " ++ Text.quoted path
  | .tooLong path => "[Errno 36] File name too long: " ++ Text.quoted path

/-- The slashes at the start of a path as they are kept: two stay two, and more become
one. -/
def leadingSlashes (path : String) : String :=
  match (path.toList.takeWhile (· == '/')).length with
  | 0 => ""
  | 2 => "//"
  | _ => "/"

/-- An output path without empty names and single dots. -/
def outputPath (path : String) : String :=
  let text := leadingSlashes path ++ Text.joinWith "/" (Place.names path)
  if text = "" then "." else text

/-- Whether a name is longer than the file system allows. -/
def isLongName (name : String) : Bool := 255 < name.utf8ByteSize

/-- Follows names from a directory, each of which but the last has to lead to a
directory. -/
def follow (t : FileTree) (path : String) (here : Place) : List String → Except OpenError Place
  | [] => throw (.isDirectory path)
  | name :: rest =>
    let there := here.enter name
    if isLongName name then throw (.tooLong path)
    else if t.isDirectory there then follow t path there rest
    else if rest.isEmpty then pure there
    else if t.isFile there then throw (.notDirectory path)
    else throw (.missing path)

/-- The place of an output file that can be opened. -/
def openPlace (t : FileTree) (path : String) : Except OpenError Place :=
  if 4096 ≤ path.utf8ByteSize then throw (.tooLong path)
  else follow t path (t.start path) (Place.names path)

/-! ## Running the command -/

/-- How a run ended. -/
inductive Ending where
  /-- The module was written. -/
  | done
  /-- The arguments were refused. -/
  | refused (why : Refusal)
  /-- A problem was reported. -/
  | reported (e : Located Problem)
  /-- A fault ended the run. -/
  | broken (f : Fault)
  /-- The output file could not be opened. -/
  | unopened (e : OpenError)

/-- What a run did. -/
structure Outcome where
  /-- How it ended. -/
  ending : Ending
  /-- What it wrote to the standard output. -/
  output : String := ""
  /-- What it logged, whether shown or not. -/
  log : List LogEntry := []
  /-- Whether the whole log is shown. -/
  verbose : Bool := false
  /-- The file that it wrote, with the whole content. -/
  file : Option (Place × String) := none

/-- The exit code of a run. -/
def Outcome.exitCode (o : Outcome) : Nat :=
  match o.ending with
  | .done | .refused .help => 0
  | .refused .usage => 2
  | _ => 1

/-- The log as it is printed. -/
def Outcome.shownLog (o : Outcome) : String := Command.shownLog o.verbose o.log

/-- The ending of a run that failed. -/
def Ending.ofFailure : Failure → Ending
  | .problem e => .reported e
  | .fault f => .broken f

/-- The log entry of a failure.  Only problems are logged. -/
def failureEntries : Failure → List LogEntry
  | .problem e => [⟨.error, "Transpilation error: " ++ e.describe Problem.message⟩]
  | .fault _ => []

/-- The rename table as it is logged. -/
def shownRenames (renames : Renames) : String :=
  "\x7b" ++ Text.joinWith ", "
    (renames.map fun e => Text.quoted e.1 ++ ": " ++ Text.quoted e.2) ++ "\x7d"

/-- The log entries of loaded source files. -/
def loadEntries (w : Workspace) : List LogEntry :=
  w.loadedFiles.map fun f =>
    ⟨.debug, "Loaded source module " ++ f.1 ++ " from " ++ Place.text f.2⟩

/-- The formats that are known. -/
def knownFormats : List String := ["plain", "commented"]

/-- The warning about a format that is not known. -/
def formatEntries (format : String) : List LogEntry :=
  if knownFormats.contains format then []
  else [⟨.warning, "Unknown format: " ++ format ++ ". Using plain as default."⟩]

/-- The banner of a format. -/
def bannerFor (format source : String) (now : Clock) : List String :=
  if format = "commented" then commentBanner source now else Elm.defaultBanner

/-- The text of the Elm module of a request, or the failure, with the log. -/
def elmText (t : FileTree) (path : List Place) (now : Clock) (r : Request) :
    Except Failure String × List LogEntry :=
  let warnings := formatEntries r.format
  match (loadRecord t r.source r.definition).run { path := path } with
  | (.error e, w) => (.error e, warnings ++ loadEntries w ++ failureEntries e)
  | (.ok id, w) =>
    let renames := Renames.parse r.renames
    let notes : List LogEntry :=
      (if renames.isEmpty then [] else [⟨.info, "Renames: " ++ shownRenames renames⟩]) ++
        [⟨.info, "Transpiling " ++ r.definition ++ " from " ++ r.source⟩]
    let banner := bannerFor r.format r.source now
    let walk := fun p : Source.Program =>
      p.elmModule { renames := renames } banner (.cls (.declared id))
    let (result, session) := (walk (w.program.during walk {})).run {}
    let events := session.events.map fun e => ⟨.debug, e.message⟩
    let failed := match result with
      | .ok _ => []
      | .error e => failureEntries e
    (result, warnings ++ loadEntries w ++ notes ++ events ++ failed)

/-- Writes the text of a module where a request wants it. -/
def deliver (t : FileTree) (r : Request) (text : String) (log : List LogEntry) : Outcome :=
  match r.output with
  | none => { ending := .done, output := plain text, log := log, verbose := r.verbose }
  | some output =>
    let path := outputPath output
    let log := log ++ [⟨.info, "Exporting Elm module to " ++ path ++ "..."⟩]
    match openPlace t path with
    | .error e => { ending := .unopened e, log := log, verbose := r.verbose }
    | .ok place =>
      { ending := .done
        log := log ++ [⟨.info, "Elm module exported to " ++ path⟩]
        verbose := r.verbose
        file := some (place, text) }

/-- Runs a request. -/
def runRequest (t : FileTree) (path : List Place) (now : Clock) (r : Request) : Outcome :=
  match elmText t path now r with
  | (.error e, log) => { ending := .ofFailure e, log := log, verbose := r.verbose }
  | (.ok text, log) => deliver t r text log

/-- Runs a command line. -/
def run (t : FileTree) (path : List Place) (now : Clock) (words : List String) : Outcome :=
  match parse words with
  | .error why => { ending := .refused why }
  | .ok r => runRequest t path now r

end ElmCodec.Command
