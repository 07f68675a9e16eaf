import ElmCodec.Command.Arguments
import ElmCodec.Command.Clock
import ElmCodec.Command.Export
import ElmCodec.Command.Log
import ElmCodec.Elm.Agreement
import ElmCodec.Elm.Block
import ElmCodec.Elm.Literal
import ElmCodec.Elm.Module
import ElmCodec.Elm.Type
import ElmCodec.Load.FileTree
import ElmCodec.Load.Source
import ElmCodec.Load.Workspace
import ElmCodec.Located
import ElmCodec.Main
import ElmCodec.Naming
import ElmCodec.Proofs.ClassGraph
import ElmCodec.Proofs.Closed
import ElmCodec.Proofs.Codec
import ElmCodec.Proofs.Conversion
import ElmCodec.Proofs.Declaration
import ElmCodec.Proofs.Emission
import ElmCodec.Proofs.Registry
import ElmCodec.Proofs.Resolution
import ElmCodec.Proofs.Results
import ElmCodec.Proofs.RoundTrip
import ElmCodec.Proofs.Spelling
import ElmCodec.Proofs.Token
import ElmCodec.Proofs.Walk
import ElmCodec.Proofs.Word
import ElmCodec.Proofs.Written
import ElmCodec.Reader.Expr
import ElmCodec.Reader.File
import ElmCodec.Reader.Grammar
import ElmCodec.Reader.Scope
import ElmCodec.Reader.Token
import ElmCodec.Resolve.Convert
import ElmCodec.Resolve.Exported
import ElmCodec.Resolve.Failure
import ElmCodec.Resolve.Registry
import ElmCodec.Source.Ancestor
import ElmCodec.Source.Annot
import ElmCodec.Source.Attribute
import ElmCodec.Source.Base
import ElmCodec.Source.Builtin
import ElmCodec.Source.ClassError
import ElmCodec.Source.Definition
import ElmCodec.Source.Equality
import ElmCodec.Source.Eval
import ElmCodec.Source.EvalError
import ElmCodec.Source.Hint
import ElmCodec.Source.Label
import ElmCodec.Source.Lineage
import ElmCodec.Source.Memory
import ElmCodec.Source.Program
import ElmCodec.Source.Raised
import ElmCodec.Source.Reference
import ElmCodec.Source.Shape
import ElmCodec.Source.Subscript
import ElmCodec.Source.Union
import ElmCodec.Source.Value
import ElmCodec.Source.Variable
import ElmCodec.Table
import ElmCodec.Tag
import ElmCodec.Text.Case
import ElmCodec.Text.CaseTable
import ElmCodec.Text.Cut
import ElmCodec.Text.Name
import ElmCodec.Text.NameTable
import ElmCodec.Text.Normal
import ElmCodec.Text.NormalTable
import ElmCodec.Text.Printable
import ElmCodec.Text.Quoted
import ElmCodec.Proofs.Calls
import ElmCodec.Proofs.Bisimilar
import ElmCodec.Proofs.History
import ElmCodec.Proofs.Acceptance
import ElmCodec.Proofs.Discovery
import ElmCodec.Proofs.Renames
import ElmCodec.Proofs.Typing
import ElmCodec.Proofs.Comparison
import ElmCodec.Proofs.Lines
import ElmCodec.Proofs.Contract
import ElmCodec.Proofs.Clash
import ElmCodec.Proofs.Table
import ElmCodec.Proofs.Recursion
import ElmCodec.Proofs.Rendering
import ElmCodec.Proofs.FieldNames
import ElmCodec.Proofs.Evaluation
import ElmCodec.Proofs.Lineage
import ElmCodec.Proofs.Hierarchy
import ElmCodec.Proofs.Loading
import ElmCodec.Proofs.Hints
import ElmCodec.Proofs.Cut
import ElmCodec.Proofs.Tag
import ElmCodec.Proofs.Wire
import ElmCodec.Proofs.Literal
import ElmCodec.Proofs.Members
import ElmCodec.Proofs.Within
import ElmCodec.Proofs.References
import ElmCodec.Proofs.Flat
import ElmCodec.Proofs.Sameness
import ElmCodec.Proofs.Nullable
import ElmCodec.Proofs.Abbreviation
import ElmCodec.Proofs.RenameTable
import ElmCodec.Proofs.Convention
import ElmCodec.Proofs.Longest
import ElmCodec.Proofs.PrivateModules
import ElmCodec.Proofs.Isolation
import ElmCodec.Proofs.OutputPath
import ElmCodec.Proofs.Export
