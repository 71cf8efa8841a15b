import SelectionTypes.Calendar.Moment
import SelectionTypes.CommandLine.Arguments
import SelectionTypes.CommandLine.Command
import SelectionTypes.CommandLine.Run
import SelectionTypes.CommandLine.Suggestion
import SelectionTypes.Decimal.Arithmetic
import SelectionTypes.Decimal.Binary64
import SelectionTypes.Decimal.Digit
import SelectionTypes.Decimal.Reading
import SelectionTypes.Decimal.Shortest
import SelectionTypes.Decimal.Written
import SelectionTypes.Document.Basic
import SelectionTypes.Document.Directives
import SelectionTypes.Document.Excerpt
import SelectionTypes.Document.Lexer
import SelectionTypes.Document.Literal
import SelectionTypes.Document.Parser
import SelectionTypes.Document.Printer
import SelectionTypes.Document.Source
import SelectionTypes.Document.Token
import SelectionTypes.Export.Alias
import SelectionTypes.Export.Declaration
import SelectionTypes.Export.Name
import SelectionTypes.Generation.GlobalTypes
import SelectionTypes.Generation.Operations
import SelectionTypes.Generation.References
import SelectionTypes.Generation.SupportingTypes
import SelectionTypes.Generation.Variables
import SelectionTypes.Main
import SelectionTypes.Naming.CaseStyle
import SelectionTypes.Naming.TypeNames
import SelectionTypes.Proofs.CommandLine.FailedModules
import SelectionTypes.Proofs.CommandLine.LostModules
import SelectionTypes.Proofs.CommandLine.ModuleFiles
import SelectionTypes.Proofs.CommandLine.Run
import SelectionTypes.Proofs.Export.AliasNames
import SelectionTypes.Proofs.Export.Collection
import SelectionTypes.Proofs.Export.Declaration
import SelectionTypes.Proofs.Export.Denotation
import SelectionTypes.Proofs.Export.Distinct
import SelectionTypes.Proofs.Export.Duplicates
import SelectionTypes.Proofs.Export.Interception
import SelectionTypes.Proofs.Export.Keys
import SelectionTypes.Proofs.Export.OptimizedOrigins
import SelectionTypes.Proofs.Export.Origins
import SelectionTypes.Proofs.Export.Progress
import SelectionTypes.Proofs.Export.References
import SelectionTypes.Proofs.Export.Rendering
import SelectionTypes.Proofs.Export.Standing
import SelectionTypes.Proofs.Generation.Aliases
import SelectionTypes.Proofs.Generation.EnumReferences
import SelectionTypes.Proofs.Generation.ExportedKeys
import SelectionTypes.Proofs.Generation.Flattening
import SelectionTypes.Proofs.Generation.GlobalReferences
import SelectionTypes.Proofs.Generation.Imports
import SelectionTypes.Proofs.Generation.InputReferences
import SelectionTypes.Proofs.Generation.Operations
import SelectionTypes.Proofs.Generation.Runs
import SelectionTypes.Proofs.Generation.Sections
import SelectionTypes.Proofs.Generation.SupportingTypes
import SelectionTypes.Proofs.Generation.Warnings
import SelectionTypes.Proofs.Generation.WrittenTexts
import SelectionTypes.Proofs.Naming.CaseStyle
import SelectionTypes.Proofs.Naming.Identifiers
import SelectionTypes.Proofs.Naming.Numbers
import SelectionTypes.Proofs.Naming.Suffixes
import SelectionTypes.Proofs.Schema.Build
import SelectionTypes.Proofs.Schema.Closure
import SelectionTypes.Proofs.Schema.Implementation
import SelectionTypes.Proofs.Schema.WellFormed
import SelectionTypes.Proofs.Schema.WrittenFields
import SelectionTypes.Proofs.Selection.Collection
import SelectionTypes.Proofs.Selection.Distribution
import SelectionTypes.Proofs.Selection.Groups
import SelectionTypes.Proofs.Selection.Inline
import SelectionTypes.Proofs.Selection.Inlined
import SelectionTypes.Proofs.Selection.KnownFields
import SelectionTypes.Proofs.Selection.Lookup
import SelectionTypes.Proofs.Selection.Merge
import SelectionTypes.Proofs.Selection.MergedExports
import SelectionTypes.Proofs.Selection.NormalForm
import SelectionTypes.Proofs.Selection.Optimized
import SelectionTypes.Proofs.Selection.OptimizedValidity
import SelectionTypes.Proofs.Selection.PropertyNames
import SelectionTypes.Proofs.Selection.Reading
import SelectionTypes.Proofs.Selection.Repetition
import SelectionTypes.Proofs.Selection.Shape
import SelectionTypes.Proofs.Selection.Spreads
import SelectionTypes.Proofs.Selection.Validity
import SelectionTypes.Proofs.Support.Lists
import SelectionTypes.Proofs.Support.Outcome
import SelectionTypes.Proofs.Text.Comment
import SelectionTypes.Proofs.Text.Occurrence
import SelectionTypes.Proofs.Text.Parts
import SelectionTypes.Proofs.TypeScript.Nullability
import SelectionTypes.Proofs.TypeScript.Occurrence
import SelectionTypes.Proofs.Workspace.FilePath
import SelectionTypes.Proofs.Workspace.FileTree
import SelectionTypes.Proofs.Workspace.ModuleImports
import SelectionTypes.Proofs.Workspace.SiblingModules
import SelectionTypes.Proofs.Workspace.Specifiers
import SelectionTypes.Schema.ArgumentProblem
import SelectionTypes.Schema.Basic
import SelectionTypes.Schema.Build
import SelectionTypes.Schema.Closure
import SelectionTypes.Schema.Constant
import SelectionTypes.Schema.DefinitionRules
import SelectionTypes.Schema.InputCycles
import SelectionTypes.Schema.Introspection
import SelectionTypes.Schema.Resolution
import SelectionTypes.Schema.Suggestion
import SelectionTypes.Schema.TypeProblem
import SelectionTypes.Schema.TypeRules
import SelectionTypes.Schema.Writing
import SelectionTypes.Selection.Distribution
import SelectionTypes.Selection.Error
import SelectionTypes.Selection.FragmentTable
import SelectionTypes.Selection.Inline
import SelectionTypes.Selection.Merge
import SelectionTypes.Selection.Optimized
import SelectionTypes.Selection.Shape
import SelectionTypes.Settings.Basic
import SelectionTypes.Settings.Data
import SelectionTypes.Settings.Loading
import SelectionTypes.Settings.Problem
import SelectionTypes.Settings.Reading
import SelectionTypes.Settings.Writing
import SelectionTypes.Text.Base64
import SelectionTypes.Text.Blank
import SelectionTypes.Text.CodePoint
import SelectionTypes.Text.Comment
import SelectionTypes.Text.HiddenTable
import SelectionTypes.Text.LetterCase
import SelectionTypes.Text.LetterTables
import SelectionTypes.Text.Lines
import SelectionTypes.Text.Newlines
import SelectionTypes.Text.Occurrence
import SelectionTypes.Text.Parts
import SelectionTypes.Text.Shown
import SelectionTypes.TypeScript.Declaration
import SelectionTypes.TypeScript.Nullability
import SelectionTypes.TypeScript.TypeExpr
import SelectionTypes.Workspace.DocumentFiles
import SelectionTypes.Workspace.FilePath
import SelectionTypes.Workspace.FileTree
import SelectionTypes.Workspace.SiblingModules
import SelectionTypes.Yaml.Character
import SelectionTypes.Yaml.Collection
import SelectionTypes.Yaml.Failure
import SelectionTypes.Yaml.Lexer
import SelectionTypes.Yaml.Node
import SelectionTypes.Yaml.Number
import SelectionTypes.Yaml.Reading
import SelectionTypes.Yaml.Scalar
import SelectionTypes.Yaml.Tag
import SelectionTypes.Yaml.Timestamp
import SelectionTypes.Yaml.Token
