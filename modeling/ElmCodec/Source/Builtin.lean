import ElmCodec.Source.Annot

/-!
# Builtin names

The objects that a name stands for unless a module binds it: constants, classes and
functions.  Two names may stand for one class.
-/

namespace ElmCodec.Source

/-- The builtin classes that have constructors of their own and can be named. -/
def Builtin.common : List Builtin :=
  [.bool, .int, .float, .str, .bytes, .bytearray, .complex, .object, .list, .tuple, .dict, .set,
    .frozenset, .type]

/-- The names of the remaining builtin classes. -/
def Builtin.otherNames : List String :=
  ["classmethod", "enumerate", "filter", "map", "memoryview", "property", "range", "reversed",
    "slice", "staticmethod", "super", "zip",
    "ArithmeticError", "AssertionError", "AttributeError", "BaseException", "BaseExceptionGroup",
    "BlockingIOError", "BrokenPipeError", "BufferError", "BytesWarning", "ChildProcessError",
    "ConnectionAbortedError", "ConnectionError", "ConnectionRefusedError", "ConnectionResetError",
    "DeprecationWarning", "EOFError", "EncodingWarning", "Exception", "ExceptionGroup",
    "FileExistsError", "FileNotFoundError", "FloatingPointError", "FutureWarning", "GeneratorExit",
    "ImportError", "ImportWarning", "IndentationError", "IndexError", "InterruptedError",
    "IsADirectoryError", "KeyError", "KeyboardInterrupt", "LookupError", "MemoryError",
    "ModuleNotFoundError", "NameError", "NotADirectoryError", "NotImplementedError", "OSError",
    "OverflowError", "PendingDeprecationWarning", "PermissionError", "ProcessLookupError",
    "RecursionError", "ReferenceError", "ResourceWarning", "RuntimeError", "RuntimeWarning",
    "StopAsyncIteration", "StopIteration", "SyntaxError", "SyntaxWarning", "SystemError",
    "SystemExit", "TabError", "TimeoutError", "TypeError", "UnboundLocalError",
    "UnicodeDecodeError", "UnicodeEncodeError", "UnicodeError", "UnicodeTranslateError",
    "UnicodeWarning", "UserWarning", "ValueError", "Warning", "ZeroDivisionError"]

/-- The second names of builtin classes. -/
def Builtin.synonyms : List (String × String) :=
  [("EnvironmentError", "OSError"), ("IOError", "OSError")]

/-- The names of the builtin functions. -/
def routineNames : List String :=
  ["__build_class__", "__import__", "abs", "aiter", "all", "anext", "any", "ascii", "bin",
    "breakpoint", "callable", "chr", "compile", "delattr", "dir", "divmod", "eval", "exec", "format",
    "getattr", "globals", "hasattr", "hash", "hex", "id", "input", "isinstance", "issubclass", "iter",
    "len", "locals", "max", "min", "next", "oct", "open", "ord", "pow", "print", "repr", "round",
    "setattr", "sorted", "sum", "vars"]

/-- The builtin objects that are shown by a fixed text, with the names of their
classes. -/
def namedObjects : List (String × String × String) :=
  [("NotImplemented", "NotImplementedType", "NotImplemented"),
    ("exit", "Quitter", "Use exit() or Ctrl-D (i.e. EOF) to exit"),
    ("quit", "Quitter", "Use quit() or Ctrl-D (i.e. EOF) to exit"),
    ("help", "_Helper", "Type help() for interactive help, or help(object) for help about object.")]

/-- The module of a builtin function. -/
def routineModule (name : String) : String := if name = "open" then "io" else "builtins"

namespace Annot

/-- The constant that a name stands for everywhere. -/
def constant? (name : String) : Option Annot :=
  if name == "None" then some (.value .nothing)
  else if name == "True" || name == "__debug__" then some (.value (.bool true))
  else if name == "False" then some (.value (.bool false))
  else none

/-- The class that a name stands for unless a module binds it. -/
def builtinClass? (name : String) : Option Builtin :=
  let name := (Builtin.synonyms.lookup name).getD name
  (Builtin.common.find? fun b => b.name == name).or
    (if Builtin.otherNames.contains name then some (.other name) else none)

/-- The builtin object that a name stands for unless a module binds it. -/
def builtin? (name : String) : Option Annot :=
  match builtinClass? name, namedObjects.lookup name with
  | some b, _ => some (.cls (.builtin b))
  | none, some (kind, shown) => some (.object (namedObjects.findIdx (·.1 == name)) kind shown true)
  | none, none =>
    if routineNames.contains name then some (.routine (routineModule name) name)
    else if name == "Ellipsis" then some .ellipsis
    else if name == "__name__" then some (text "builtins")
    else if name == "__package__" then some (text "")
    else none

end Annot

end ElmCodec.Source
