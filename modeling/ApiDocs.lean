import ApiDocs.CommandLine.Arguments
import ApiDocs.CommandLine.Command
import ApiDocs.CommandLine.Parameter
import ApiDocs.Convert.Converter
import ApiDocs.Convert.Inputs
import ApiDocs.Convert.Outline
import ApiDocs.Failure
import ApiDocs.Files.Disk
import ApiDocs.Files.Environment
import ApiDocs.Files.Path
import ApiDocs.Hooks.Basic
import ApiDocs.Hooks.Handle
import ApiDocs.Hooks.Script
import ApiDocs.Log.Console
import ApiDocs.Log.Logger
import ApiDocs.Main
import ApiDocs.Markup.Block
import ApiDocs.Markup.Code
import ApiDocs.Markup.Inline
import ApiDocs.Model.Declaration
import ApiDocs.Model.Hidden
import ApiDocs.Model.Store
import ApiDocs.Model.Tree
import ApiDocs.Number.Double
import ApiDocs.Number.Shortest
import ApiDocs.Ordered
import ApiDocs.Plugins.Analytics
import ApiDocs.Plugins.BuiltIn
import ApiDocs.Plugins.Fault
import ApiDocs.Plugins.Plugin
import ApiDocs.Run.Application
import ApiDocs.Settings.ConfigFile
import ApiDocs.Settings.Options
import ApiDocs.Settings.Value
import ApiDocs.Site.Address
import ApiDocs.Site.Fragment
import ApiDocs.Site.Page
import ApiDocs.Site.Render
import ApiDocs.Site.Stylesheet
import ApiDocs.Source.Expression
import ApiDocs.Source.Formatted
import ApiDocs.Source.Lexer
import ApiDocs.Source.Literal
import ApiDocs.Source.Operator
import ApiDocs.Source.Pattern
import ApiDocs.Source.Printer
import ApiDocs.Source.Reader
import ApiDocs.Source.Statement
import ApiDocs.Source.Target
import ApiDocs.Source.Token
import ApiDocs.Source.Tree
import ApiDocs.Text.CaseTable
import ApiDocs.Text.Character
import ApiDocs.Text.Escape
import ApiDocs.Text.IdentifierTable
import ApiDocs.Text.Lines
import ApiDocs.Text.Normal
import ApiDocs.Text.NormalTable
import ApiDocs.Text.PrintableTable
import ApiDocs.Text.Quoted
import ApiDocs.Text.Similar
import ApiDocs.Text.Utf8
import ApiDocs.Text.WordTable
import ApiDocs.Yaml.Base64
import ApiDocs.Yaml.Document
import ApiDocs.Yaml.Lexer
import ApiDocs.Yaml.Node
import ApiDocs.Yaml.Number
import ApiDocs.Yaml.Property
import ApiDocs.Yaml.Scalar
import ApiDocs.Yaml.Tag
import ApiDocs.Yaml.Timestamp
import ApiDocs.Yaml.Token
import ApiDocs.Proofs.Ordered
import ApiDocs.Proofs.Hooks.DispatchOrder
import ApiDocs.Proofs.Hooks.History
import ApiDocs.Proofs.Hooks.Chronicle
import ApiDocs.Proofs.Hooks.Registry
import ApiDocs.Proofs.Hooks.Dispatch
import ApiDocs.Proofs.Hooks.Once
import ApiDocs.Proofs.Computation
import ApiDocs.Proofs.Convert.Building
import ApiDocs.Proofs.Convert.OutlineShape
import ApiDocs.Proofs.Convert.Project
import ApiDocs.Proofs.Files.Tree
import ApiDocs.Proofs.Files.Changes
import ApiDocs.Proofs.Files.Names
import ApiDocs.Proofs.Convert.Inputs
import ApiDocs.Proofs.Site.Writing
import ApiDocs.Proofs.Site.Survival
import ApiDocs.Proofs.Site.Addresses
import ApiDocs.Proofs.Markup.Tags
import ApiDocs.Proofs.Markup.Spans
import ApiDocs.Proofs.Markup.Rendered
import ApiDocs.Proofs.Site.Pieces
import ApiDocs.Proofs.Site.Listeners
import ApiDocs.Proofs.Site.Links
import ApiDocs.Proofs.Site.Effects
import ApiDocs.Proofs.Site.Outcome
import ApiDocs.Proofs.Site.Completion
import ApiDocs.Proofs.Convert.Messages
import ApiDocs.Proofs.Run.Stages
import ApiDocs.Proofs.Run.ExitCode
import ApiDocs.Proofs.Site.Distinct
import ApiDocs.Proofs.Convert.Unattended
import ApiDocs.Proofs.Convert.FileWise
import ApiDocs.Proofs.Files.Absence
import ApiDocs.Proofs.Convert.Absence
import ApiDocs.Proofs.Convert.BadFiles
import ApiDocs.Proofs.Convert.Projection
import ApiDocs.Proofs.Markup.Written
import ApiDocs.Proofs.Site.Injection
import ApiDocs.Proofs.Convert.Events
import ApiDocs.Proofs.Settings.Mapping
import ApiDocs.Proofs.Settings.ConfigFile
import ApiDocs.Proofs.Settings.Layers
import ApiDocs.Proofs.Run.Preparation
import ApiDocs.Proofs.Settings.Verbosity
import ApiDocs.Proofs.Convert.Verbosity
import ApiDocs.Proofs.Site.Verbosity
import ApiDocs.Proofs.Plugins.Verbosity
import ApiDocs.Proofs.Run.Verbosity
import ApiDocs.Proofs.Markup.Tokens
import ApiDocs.Proofs.Markup.Marking
import ApiDocs.Proofs.Markup.Wording
import ApiDocs.Proofs.Markup.Nesting
import ApiDocs.Proofs.Files.Directories
import ApiDocs.Proofs.Site.Insertions
import ApiDocs.Proofs.Site.OutputDirectory
import ApiDocs.Proofs.Markup.LineForms
import ApiDocs.Proofs.Markup.FirstParagraph
import ApiDocs.Proofs.Markup.Parts
import ApiDocs.Proofs.Model.Forest
import ApiDocs.Proofs.Model.Traversal
import ApiDocs.Proofs.Model.Hiding
import ApiDocs.Proofs.Hooks.Removal
import ApiDocs.Proofs.Files.Listing
import ApiDocs.Proofs.Convert.Candidates
import ApiDocs.Proofs.Convert.Expansion
import ApiDocs.Proofs.Convert.CleanTrees
import ApiDocs.Proofs.Model.Enclosing
import ApiDocs.Proofs.Site.RelativeLinks
import ApiDocs.Proofs.Site.Wayfinding
import ApiDocs.Proofs.Settings.Typed
import ApiDocs.Proofs.Settings.Memory
import ApiDocs.Proofs.Settings.OptionStore
import ApiDocs.Proofs.Files.WorkingDirectory
import ApiDocs.Proofs.Files.Outline
import ApiDocs.Proofs.Convert.Anchoring
import ApiDocs.Proofs.Run.Inputs
import ApiDocs.Proofs.Convert.ModuleNames
import ApiDocs.Proofs.Plugins.Registry
import ApiDocs.Proofs.Plugins.Contributions
import ApiDocs.Proofs.Run.Loading
import ApiDocs.Proofs.Run.LoadingCalls
import ApiDocs.Proofs.Text.Marks
import ApiDocs.Proofs.Text.Decoding
import ApiDocs.Proofs.Browser.Tokens
import ApiDocs.Proofs.Browser.Scripts
import ApiDocs.Proofs.Plugins.Analytics
