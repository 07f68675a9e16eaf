import ElmCodec.Source.Definition

/-!
# File trees

A *place* is a list of names, from the root of the file system down.  A path is a text.
It is read as a place by following its names from the root or, if it does not start
there, from the working directory, where empty names and single dots lead nowhere and
two dots lead back.  Above the root there is nothing, and two dots stay at the root.

A source file holds definitions.  Directories are there by themselves, because
something is in them, or because the working directory is.  Links are left out, and so
are permissions: all files may be read and written.
-/

namespace ElmCodec

/-- A file or directory, by the names that lead to it. -/
abbrev Place := List String

/-- What stands at a place. -/
inductive Entry where
  /-- A source file. -/
  | file (content : List Source.Definition)
  /-- A directory. -/
  | directory

/-- The files and directories of a file system. -/
structure FileTree where
  /-- The working directory. -/
  base : Place
  /-- What is there, by place. -/
  entries : List (Place × Entry)

namespace Place

/-- The names in a path, without empty ones and single dots. -/
def names (path : String) : List String :=
  ((Text.pieces '/' path.toList).map String.ofList).filter fun n => n != "" && n != "."

/-- The place that a name leads to.  Two dots lead back. -/
def enter (here : Place) (name : String) : Place :=
  if name = ".." then here.dropLast else here ++ [name]

/-- The place that names lead to, one after the other. -/
def walk (here : Place) (names : List String) : Place := names.foldl enter here

/-- Whether a path starts at the root of the file system. -/
def isAbsolute (path : String) : Bool := path.toList.head? == some '/'

/-- The absolute path of a place. -/
def text (p : Place) : String := "/" ++ Text.joinWith "/" p

end Place

namespace FileTree

/-- The definitions in the file at a place. -/
def content? (t : FileTree) (p : Place) : Option (List Source.Definition) :=
  match t.entries.lookup p with
  | some (.file content) => some content
  | _ => none

/-- Whether a file stands at a place. -/
def isFile (t : FileTree) (p : Place) : Bool := (t.content? p).isSome

/-- Whether a directory stands at a place. -/
def isDirectory (t : FileTree) (p : Place) : Bool :=
  p.isPrefixOf t.base || t.entries.any fun entry =>
    match entry.2 with
    | .directory => p.isPrefixOf entry.1
    | .file _ => p.isPrefixOf entry.1 && p.length < entry.1.length

/-- The directory from which the names in a path are followed. -/
def start (t : FileTree) (path : String) : Place := if Place.isAbsolute path then [] else t.base

/-- The place of a path. -/
def place (t : FileTree) (path : String) : Place := (t.start path).walk (Place.names path)

example : place ⟨["work"], []⟩ "lib/.././/shop.py" = ["work", "shop.py"] := by decide
example : place ⟨["work"], []⟩ "/srv/../../shop.py" = ["shop.py"] := by decide

/-- The modules that the files import, by their dotted names. -/
def importedNames (t : FileTree) : List String :=
  t.entries.flatMap fun entry =>
    match entry.2 with
    | .file content => content.filterMap fun d =>
      match d.statement with
      | .importFrom source _ => some source
      | _ => none
    | .directory => []

end FileTree

end ElmCodec
