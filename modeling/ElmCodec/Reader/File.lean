import ElmCodec.Reader.Scope

/-!
# Source files

A Python file as the definitions it makes.  Only declarations are read: imports,
classes with annotated fields, functions by name, synonyms of types, constants,
type variables and exceptions that are raised.  Other statements, and the bodies of
functions, make no definition.  A field whose type is not understood stops the
module with an exception that names it.
-/

namespace ElmCodec.Reader

open Source (ClassExpr Definition Statement FieldExpr Value)

/-- A line with the lines that are indented below it. -/
structure Block where
  /-- The line. -/
  head : List Token
  /-- The lines below. -/
  body : List Line

/-- The blocks of a file.  Lines before the first block are left out. -/
def blocks (lines : List Line) : List Block :=
  (lines.foldr (fun line (done, below) =>
    if 0 < line.indent then (done, line :: below) else (⟨line.tokens, below⟩ :: done, []))
    ([], [])).1

/-- The lines directly below the head of a block. -/
def Block.direct (b : Block) : List (List Token) :=
  match b.body with
  | [] => []
  | first :: _ => (b.body.filter fun line => line.indent == first.indent).map Line.tokens

/-! ## Fields and classes -/

/-- The tag in the metadata of a field, if it has one. -/
def tag? (scope : Scope) (default : Expr) : Option TagValue :=
  match default with
  | .applied base .round args =>
    if fullName? scope base == some "dataclasses.field" then
      args.findSome? fun arg =>
        match arg with
        | .named "metadata" (.items .curly entries) => entries.findSome? fun entry =>
          match entry with
          | .entry (.text "tag") (.text s) => some (.text s)
          | .entry (.text "tag") _ => some .other
          | _ => none
        | _ => none
    else none
  | _ => none

/-- What a line of a class body is. -/
inductive BodyLine where
  /-- A field. -/
  | field (f : FieldExpr)
  /-- A field whose type is not understood. -/
  | unclear (name : String)
  /-- Anything else. -/
  | other

/-- Reads a line of a class body. -/
def bodyLine (scope : Scope) (tokens : List Token) : BodyLine :=
  match tokens with
  | .name n :: .mark ':' :: rest =>
    if !isName n then .other
    else
      match Expr.read? rest with
      | none => .unclear n
      | some (e, rest) =>
        match type? scope scope.moment e, rest with
        | none, _ => .unclear n
        | some t, .mark '=' :: rest =>
          .field ⟨n, t, (Expr.read? rest).bind fun d => tag? scope d.1⟩
        | some t, _ => .field ⟨n, t, none⟩
  | _ => .other

/-- The fields of a class body, or the name of the first that is not understood. -/
def bodyFields (scope : Scope) (lines : List (List Token)) : Except String (List FieldExpr) := do
  let fields ← lines.mapM fun tokens =>
    match bodyLine scope tokens with
    | .field f => pure [f]
    | .unclear n => throw n
    | .other => pure []
  return fields.flatten

/-- The bases of a class that are classes of the file or of other files. -/
def ownBase? (scope : Scope) (e : Expr) : Option String :=
  match e with
  | .name n | .applied (.name n) .square _ =>
    if (fullName? scope (.name n)).isSome || n == "object" then none else some n
  | _ => none

/-- The library classes that make an enumeration. -/
def enumerationBases : List String :=
  ["enum.Enum", "enum.IntEnum", "enum.StrEnum", "enum.Flag", "enum.IntFlag"]

/-- The full name of a base or decorator, without its arguments. -/
def headName? (scope : Scope) (e : Expr) : Option String :=
  match e with
  | .applied base _ _ => fullName? scope base
  | e => fullName? scope e

/-- The type variables that a generic class lists. -/
def listedVariables (scope : Scope) (bases : List Expr) : List String :=
  bases.flatMap fun e =>
    match e with
    | .applied base .square args =>
      if fullName? scope base == some "typing.Generic" then
        args.filterMap fun arg => match arg with
          | .name n => some n
          | _ => none
      else []
    | _ => []

/-- The names that a class body assigns. -/
def assignedNames (body : List (List Token)) : List String :=
  body.filterMap fun tokens =>
    match tokens with
    | .name n :: .mark '=' :: _ => some n
    | _ => none

/-- The statement that declares a class, by its decorators, bases and body. -/
def classStatement (scope : Scope) (decorators : List Expr) (name : String) (header : List Token)
    (body : List (List Token)) : Statement :=
  let bases := match Expr.read? (.name name :: header) with
    | some (.applied _ .round args, _) => args
    | _ => []
  let names := bases.filterMap (headName? scope)
  let isRecord := (decorators.filterMap (headName? scope)).contains "dataclasses.dataclass"
  if !isRecord && names.any enumerationBases.contains then .enumeration name (assignedNames body)
  else if !isRecord && names.contains "typing.Protocol" then .protocol name
  else
    match bodyFields scope body with
    | .ok fields =>
      .declare ⟨isRecord, name, bases.filterMap (ownBase? scope), listedVariables scope bases, fields⟩
    | .error field =>
      .raise "SyntaxError" ("type of " ++ name ++ "." ++ field ++ " is not understood")

/-! ## Imports -/

/-- The dotted name that some tokens spell, and the tokens after it. -/
def dottedName (spelled : String) : List Token → String × List Token
  | .name n :: rest =>
    if n == "import" || n == "as" then (spelled, .name n :: rest) else dottedName (spelled ++ n) rest
  | .mark '.' :: rest => dottedName (spelled ++ ".") rest
  | rest => (spelled, rest)

/-- Imported names with the names that they are given. -/
def importedNames : List Token → List (String × String)
  | .name n :: .name "as" :: .name target :: rest => (n, target) :: importedNames rest
  | .name n :: rest => (n, n) :: importedNames rest
  | .mark '*' :: rest => ("*", "*") :: importedNames rest
  | _ :: rest => importedNames rest
  | [] => []

/-- What `import` adds to a scope.  Only library modules are understood. -/
def importScope (scope : Scope) (tokens : List Token) : Scope :=
  let (module, rest) := dottedName "" tokens
  if !libraryModules.contains module then scope
  else
    match rest with
    | .name "as" :: .name target :: _ => scope.insert target (.library module)
    | _ =>
      let first := String.ofList (Text.cut '.' module.toList).1
      scope.insert first (.library first)

/-! ## Statements -/

/-- What has been read of a file. -/
structure Reading where
  /-- The meanings of names so far. -/
  scope : Scope := []
  /-- The decorators before the next declaration. -/
  decorators : List Expr := []
  /-- The definitions so far. -/
  definitions : List Definition := []

/-- Adds a definition. -/
def Reading.define (r : Reading) (target : String) (statement : Statement) : Reading :=
  { scope := r.scope.insert target .own
    definitions := r.definitions ++ [⟨target, statement⟩] }

/-- The numbers in the fields of an object. -/
def objectFields? (args : List Expr) : Option (List (String × Int)) :=
  args.mapM fun arg =>
    match arg with
    | .named key (.number n) => some (key, n)
    | _ => none

/-- The statement that gives a name to an expression. -/
def assigned? (scope : Scope) (e : Expr) : Option Statement :=
  match value? e, e with
  | some v, _ => some (.value v)
  | none, .applied base .round args =>
    match fullName? scope base, base, args with
    | some "typing.TypeVar", _, .text t :: _ => some (.typeVar t)
    | some "typing.NewType", _, [.text t, e] => (type? scope .now e).map (.newType t)
    | none, .name cls, args => (objectFields? args).map (.object cls)
    | _, _, _ => none
  | none, e => (type? scope .now e).map .synonym

/-- Reads what a name is assigned. -/
def Reading.assign (r : Reading) (target : String) (tokens : List Token) : Reading :=
  match Expr.read? tokens with
  | some (e, []) => (assigned? r.scope e).elim r (r.define target)
  | _ => r

/-- Takes in the names that are imported from a module. -/
def Reading.importNames (r : Reading) (module : String) (names : List (String × String)) : Reading :=
  names.foldl
    (fun r n =>
      if libraryModules.contains module then
        { r with scope := r.scope.insert n.2 (.library (module ++ "." ++ n.1)) }
      else r.define n.2 (.importFrom module n.1)) r

/-- The statement that raises what an expression makes. -/
def raised? : Expr → Option Statement
  | .name kind => some (.raise kind "")
  | .applied (.name kind) .round [] => some (.raise kind "")
  | .applied (.name kind) .round [.text message] => some (.raise kind message)
  | _ => none

/-- Takes in a block. -/
def Reading.step (r : Reading) (b : Block) : Reading :=
  match b.head with
  | .mark '@' :: rest =>
    { r with decorators := r.decorators ++ ((Expr.read? rest).map Prod.fst).toList }
  | .name "class" :: .name n :: header =>
    r.define n (classStatement r.scope r.decorators n header b.direct)
  | .name "def" :: .name n :: _ | .name "async" :: .name "def" :: .name n :: _ =>
    r.define n (.function n)
  | .name "import" :: rest => { r with scope := importScope r.scope rest }
  | .name "from" :: rest =>
    match dottedName "" rest with
    | (module, .name "import" :: names) => r.importNames module (importedNames names)
    | _ => r
  | .name "raise" :: rest =>
    match (Expr.read? rest).bind fun e => raised? e.1 with
    | some statement => r.define "" statement
    | none => r
  | .name n :: .mark '=' :: rest => r.assign n rest
  | .name n :: .mark ':' :: rest =>
    match Expr.read? rest with
    | some (_, .mark '=' :: rest) => r.assign n rest
    | _ => r
  | _ => r

/-- The definitions of a file. -/
def definitions (text : String) : List Definition :=
  ((blocks (lines text)).foldl Reading.step {}).definitions

end ElmCodec.Reader
