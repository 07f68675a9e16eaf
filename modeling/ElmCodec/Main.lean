import ElmCodec.Command.Export
import ElmCodec.Reader.File
import Std.Time.DateTime.Timestamp

/-!
# The program

Reads the files below the working directory and those that the command line names, runs
the command line on them, and carries out what the run decided: the text on the standard
output, the log on the standard error, the file that is written, and the exit code.
Hidden files below the working directory are left out.
-/

namespace ElmCodec

/-- What stands at a place that is no directory.  A file that is no text stops its
module. -/
def readFile (place : Place) : IO Entry := do
  if !sourceEnding.toList.isSuffixOf (place.getLastD "").toList then return .file []
  try
    return .file (Reader.definitions (← IO.FS.readFile place.text))
  catch _ =>
    return .file [⟨"", .raise "UnicodeDecodeError" "file is no text"⟩]

/-- The files and directories among entries of a directory, and below them. -/
partial def readEntries (place : Place) (entries : List IO.FS.DirEntry) :
    IO (List (Place × Entry)) := do
  let below ← (entries.filter fun e => e.fileName.toList.head? != some '.').mapM fun e => do
    let here := place ++ [e.fileName]
    if ← e.path.isDir then
      return (here, Entry.directory) :: (← readEntries here (← e.path.readDir).toList)
    else return [(here, ← readFile here)]
  return below.flatten

/-- The files and directories that names lead to, one after the other. -/
def readWay (here : Place) : List String → IO (List (Place × Entry))
  | [] => return []
  | name :: rest => do
    let there := here.enter name
    let path := (← IO.currentDir) / there.text
    let found ←
      if ← path.isDir then pure [(there, Entry.directory)]
      else if ← path.pathExists then pure [(there, ← readFile there)]
      else pure []
    return found ++ (← readWay there rest)

/-- The files below the working directory and on the way of some paths. -/
def readFiles (paths : List String) : IO FileTree := do
  let dir ← IO.currentDir
  let base := Place.names (toString dir)
  let below : FileTree := ⟨base, ← readEntries base (← dir.readDir).toList⟩
  let ways ← paths.mapM fun path => readWay (below.start path) (Place.names path)
  return { below with entries := below.entries ++ ways.flatten }

/-- The present time. -/
def readClock : IO Command.Clock := do
  let now ← Std.Time.Timestamp.now
  return .ofSeconds now.toSecondsSinceUnixEpoch.val.toNat

/-- How the program is called. -/
def usage : String :=
  "Usage: [--verbose] export SOURCE TYPE_NAME [OUTPUT] [--rename FROM:TO]... [--format FORMAT]"

/-- What an ending adds to the log. -/
def Command.Ending.notice? : Command.Ending → Option String
  | .refused _ => some usage
  | .broken f => some ("Error: " ++ f.message)
  | .unopened e => some ("Error: " ++ e.message)
  | .done | .reported _ => none

end ElmCodec

/-- Runs the command line. -/
def main (words : List String) : IO UInt32 := do
  let files ← ElmCodec.readFiles words
  let outcome := ElmCodec.Command.run files [files.base] (← ElmCodec.readClock) words
  IO.print outcome.output
  IO.eprint outcome.shownLog
  if let some text := outcome.ending.notice? then IO.eprintln text
  if let some (place, text) := outcome.file then IO.FS.writeFile place.text text
  return outcome.exitCode.toUInt32
