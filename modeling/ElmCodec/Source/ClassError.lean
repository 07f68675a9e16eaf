import ElmCodec.Text.Cut
import ElmCodec.Text.Quoted

/-!
# Errors of class declarations

Why a class cannot be made from its bases and its body.
-/

namespace ElmCodec.Source

/-- Why a class cannot be made. -/
inductive ClassError where
  /-- A form or union is a base. -/
  | closedBase (shown : String)
  /-- An object that is no class is a base, and what its class says to that. -/
  | objectBase (message : String)
  /-- Something after a form among the bases is no class. -/
  | laterObject
  /-- A named copy of a type is a base. -/
  | newTypeBase (name base : String)
  /-- An object is a base without what its class needs for that. -/
  | unfitBase (kind name : String)
  /-- The bases have kinds that do not go together. -/
  | kindConflict
  /-- An enumeration with members is a base. -/
  | fullEnumeration (name base : String)
  /-- The last base of an enumeration is none. -/
  | mixedEnumeration
  /-- A base allows no descendants. -/
  | finalBase (name : String)
  /-- The objects of the bases are stored in ways that do not go together. -/
  | layoutConflict
  /-- A base is named twice. -/
  | repeatedBase (name : String)
  /-- The bases have no order of search. -/
  | inconsistentBases (names : List String)
  /-- Something that is no type variable is given to a generic class. -/
  | notVariables
  /-- A type variable is given to a generic class twice. -/
  | repeatedVariables
  /-- The bases use type variables that the class does not list. -/
  | unlistedVariables (missing listed : List String)
  /-- The module of a class is not loaded when its annotations are read. -/
  | noNamespace
  /-- The value that a field has already can change. -/
  | changingDefault (kind field : String)
  /-- The tag of a field belongs to an ancestor. -/
  | inheritedTag (owner field : String)
  /-- The arguments for new objects of a record are not known. -/
  | noSignature (shown : String)
  /-- A record is a class of classes. -/
  | metaclassRecord (shown : String)
  /-- A member of an enumeration is named twice. -/
  | repeatedMember (name : String) (number : Nat)
  /-- A member of an enumeration has a name that is set aside. -/
  | reservedMember (name : String)
  /-- Members of an enumeration have names that no member can have. -/
  | invalidMembers (names : List String)
  /-- A member of an enumeration, which is no list, has the name of one. -/
  | listMember (kind : String)
deriving DecidableEq

/-- The message of an error of a class declaration. -/
def ClassError.message : ClassError → String
  | .closedBase shown => "Cannot subclass " ++ shown
  | .objectBase message => message
  | .laterObject => "issubclass() arg 1 must be a class"
  | .newTypeBase name base =>
    "Cannot subclass an instance of NewType. Perhaps you were looking for: \x60" ++ name ++
      " = NewType(" ++ Text.quoted name ++ ", " ++ base ++ ")\x60"
  | .unfitBase kind name => "'" ++ kind ++ "' object has no attribute '" ++ name ++ "'"
  | .kindConflict =>
    "metaclass conflict: the metaclass of a derived class must be a (non-strict) subclass of " ++
      "the metaclasses of all its bases"
  | .fullEnumeration name base => "<enum " ++ Text.quoted name ++ "> cannot extend " ++ base
  | .mixedEnumeration =>
    "new enumerations should be created as " ++
      "\x60EnumName([mixin_type, ...] [data_type,] enum_type)\x60"
  | .finalBase name => "type '" ++ name ++ "' is not an acceptable base type"
  | .layoutConflict => "multiple bases have instance lay-out conflict"
  | .repeatedBase name => "duplicate base class " ++ name
  | .inconsistentBases names =>
    "Cannot create a consistent method resolution\norder (MRO) for bases " ++
      Text.joinWith ", " names
  | .notVariables =>
    "Parameters to Generic[...] must all be type variables or parameter specification variables."
  | .repeatedVariables => "Parameters to Generic[...] must all be unique"
  | .unlistedVariables missing listed =>
    "Some type variables (" ++ Text.joinWith ", " missing ++ ") are not listed in Generic[" ++
      Text.joinWith ", " listed ++ "]"
  | .noNamespace => "'NoneType' object has no attribute '__dict__'"
  | .changingDefault kind field =>
    "mutable default <class '" ++ kind ++ "'> for field " ++ field ++
      " is not allowed: use default_factory"
  | .inheritedTag owner field =>
    "type object '" ++ owner ++ "' has no attribute '" ++ field ++ "'"
  | .noSignature shown => "no signature found for builtin type " ++ shown
  | .metaclassRecord shown => "callable " ++ shown ++ " is not supported by signature"
  | .repeatedMember name number =>
    Text.quoted name ++ " already defined as " ++ toString number
  | .reservedMember name =>
    "_sunder_ names, such as " ++ Text.quoted name ++ ", are reserved for future Enum use"
  | .invalidMembers names =>
    "invalid enum member name(s) " ++ Text.joinWith "," (names.map Text.quoted)
  | .listMember kind => Text.quoted kind ++ " object is not iterable"

end ElmCodec.Source
