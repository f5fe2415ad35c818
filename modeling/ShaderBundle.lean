import ShaderBundle.Action
import ShaderBundle.Bytecode
import ShaderBundle.CommandLine
import ShaderBundle.Config
import ShaderBundle.CrossCompiler
import ShaderBundle.Failure
import ShaderBundle.Files.Fault
import ShaderBundle.Files.Path
import ShaderBundle.Files.Tree
import ShaderBundle.Generate
import ShaderBundle.Go.Literal
import ShaderBundle.Go.Module
import ShaderBundle.Json.Depth
import ShaderBundle.Json.Reader
import ShaderBundle.Json.Value
import ShaderBundle.Json.Writer
import ShaderBundle.Number.Binary64
import ShaderBundle.Number.Layout
import ShaderBundle.Number.Shortest
import ShaderBundle.Proofs.Action.Laws
import ShaderBundle.Proofs.Files.Walk
import ShaderBundle.Proofs.Files.Operations
import ShaderBundle.Proofs.Files.Scratch
import ShaderBundle.Proofs.Files.Folder
import ShaderBundle.Proofs.Files.Holding
import ShaderBundle.Proofs.Files.Move
import ShaderBundle.Proofs.Tools.Outputs
import ShaderBundle.Proofs.Tools.Bytecode
import ShaderBundle.Proofs.Generate.Discovery
import ShaderBundle.Proofs.Generate.Stages
import ShaderBundle.Proofs.Generate.Confinement
import ShaderBundle.Proofs.Generate.Atomic
import ShaderBundle.Proofs.Generate.Placed
import ShaderBundle.Proofs.Generate.Behaviour
import ShaderBundle.Proofs.Generate.Provenance
import ShaderBundle.Proofs.Go.Scanner
import ShaderBundle.Proofs.Go.Lexeme
import ShaderBundle.Proofs.Go.Reader
import ShaderBundle.Proofs.Go.Outline
import ShaderBundle.Proofs.Go.Written
import ShaderBundle.Proofs.Go.Fields
import ShaderBundle.Proofs.Go.Lossless
import ShaderBundle.Proofs.Go.Comments
import ShaderBundle.Proofs.Go.Quoting
import ShaderBundle.Proofs.Go.Characters
import ShaderBundle.Reflection.Basic
import ShaderBundle.Reflection.Reader
import ShaderBundle.Shader.DataType
import ShaderBundle.Shader.Rendered
import ShaderBundle.Shader.Sources
import ShaderBundle.Shader.Stage
import ShaderBundle.Shader.Target
import ShaderBundle.Template.Access
import ShaderBundle.Template.Arithmetic
import ShaderBundle.Template.Check
import ShaderBundle.Template.Grammar
import ShaderBundle.Template.Lexer
import ShaderBundle.Template.Literal
import ShaderBundle.Template.Mention
import ShaderBundle.Template.Node
import ShaderBundle.Template.Placeholder
import ShaderBundle.Template.Reader
import ShaderBundle.Template.Render
import ShaderBundle.Template.Scope
import ShaderBundle.Template.Token
import ShaderBundle.Template.Value
import ShaderBundle.Text.Blank
import ShaderBundle.Text.Display
import ShaderBundle.Text.Encoding
import ShaderBundle.Text.Hexadecimal
import ShaderBundle.Text.Identifier
import ShaderBundle.Text.LetterCase
import ShaderBundle.Text.Printable
import ShaderBundle.Text.Quoted
import ShaderBundle.Text.Ranges
import ShaderBundle.Text.Search
import ShaderBundle.Text.WordChar
import ShaderBundle.Workbench.Description
import ShaderBundle.Workbench.Report
import ShaderBundle.Workbench.Session
import ShaderBundle.Workbench.Toolbox
import ShaderBundle.Workbench.Workspace
import ShaderBundle.Main
import ShaderBundle.Proofs.Tools.CrossCompiler
import ShaderBundle.Proofs.Action.Conduct
import ShaderBundle.Proofs.Generate.Steps
import ShaderBundle.Proofs.Tools.Conduct
import ShaderBundle.Proofs.Generate.Trace
import ShaderBundle.Proofs.Generate.Reports
import ShaderBundle.Proofs.Files.Listing
import ShaderBundle.Proofs.Files.Likeness
import ShaderBundle.Proofs.Generate.Variables
import ShaderBundle.Proofs.Generate.Concurrence
import ShaderBundle.Proofs.Generate.Diagnostics
import ShaderBundle.Proofs.Action.Yielding
import ShaderBundle.Proofs.Files.Below
import ShaderBundle.Proofs.Generate.Reproduction
import ShaderBundle.Proofs.Template.Standalone
import ShaderBundle.Proofs.Generate.Reading
import ShaderBundle.Proofs.Tools.Lookup
import ShaderBundle.Proofs.Generate.Craft
import ShaderBundle.Proofs.Generate.Making
import ShaderBundle.Proofs.Generate.Regeneration
import ShaderBundle.Proofs.Generate.Insertion
import ShaderBundle.Proofs.Reflection.Demand
import ShaderBundle.Proofs.Reflection.Acceptance
import ShaderBundle.Proofs.Reflection.Inputs
import ShaderBundle.Proofs.Reflection.Layout
import ShaderBundle.Proofs.Reflection.Names
import ShaderBundle.Proofs.Text.Occurrences
import ShaderBundle.Proofs.Generate.Exports
import ShaderBundle.Proofs.Reflection.Precedence
import ShaderBundle.Proofs.Reflection.Defaults
import ShaderBundle.Proofs.Template.Parts
import ShaderBundle.Proofs.Text.Utf8
import ShaderBundle.Proofs.Text.Words
import ShaderBundle.Proofs.Template.Spelling
import ShaderBundle.Proofs.Template.Lexing
import ShaderBundle.Proofs.Template.Parsing
import ShaderBundle.Proofs.Template.Substitution
import ShaderBundle.Proofs.Generate.Enumeration
import ShaderBundle.Proofs.Shader.Lifetime
import ShaderBundle.Proofs.Template.Draft
import ShaderBundle.Proofs.Template.Rendering
import ShaderBundle.Proofs.Template.Strictness
import ShaderBundle.Proofs.Template.Labels
import ShaderBundle.Proofs.Template.Naturality
import ShaderBundle.Proofs.Template.Spans
import ShaderBundle.Proofs.Template.Positions
import ShaderBundle.Proofs.Shader.Lines
import ShaderBundle.Proofs.Shader.Versions
import ShaderBundle.Proofs.Go.ByteLiteral
import ShaderBundle.Proofs.Shader.Respelling
