import PageTokens.Builtin
import PageTokens.Callback
import PageTokens.CommandLine.Command
import PageTokens.CommandLine.Environment
import PageTokens.CommandLine.Footprint
import PageTokens.CommandLine.Listing
import PageTokens.CommandLine.Log
import PageTokens.CommandLine.Replace
import PageTokens.CommandLine.Run
import PageTokens.CommandLine.Switch
import PageTokens.CommandLine.Terminal
import PageTokens.CommandLine.Usage
import PageTokens.Configuration.Basic
import PageTokens.Configuration.Load
import PageTokens.Configuration.Shape
import PageTokens.Data.Basic
import PageTokens.Data.Json
import PageTokens.Data.JsonReader
import PageTokens.Data.Shape
import PageTokens.Delimiters
import PageTokens.Dictionary
import PageTokens.Event
import PageTokens.Files.Glob
import PageTokens.Files.Path
import PageTokens.Files.Tree
import PageTokens.HookPolicy
import PageTokens.Host
import PageTokens.Main
import PageTokens.Number.Numeral
import PageTokens.Number.Shortest
import PageTokens.Occurrence
import PageTokens.Parameter
import PageTokens.Registry
import PageTokens.RenderHook
import PageTokens.Replacer
import PageTokens.Request
import PageTokens.Substitution
import PageTokens.Text.Basic
import PageTokens.Text.Blank
import PageTokens.Text.Case
import PageTokens.Text.CaseTable
import PageTokens.Text.Cut
import PageTokens.Text.LetterTable
import PageTokens.Text.Quoted
import PageTokens.Text.VisibilityTable
import PageTokens.Token
import PageTokens.Toml.Document
import PageTokens.Toml.Lexeme
import PageTokens.Toml.Scalar
import PageTokens.Toml.Table
import PageTokens.Proofs.Search
import PageTokens.Proofs.Grammar
import PageTokens.Proofs.Pass
import PageTokens.Proofs.Splice
import PageTokens.Proofs.Separation
import PageTokens.Proofs.Fields
import PageTokens.Proofs.Layout
import PageTokens.Proofs.RoundTrip
import PageTokens.Proofs.Dispatch
import PageTokens.Proofs.Declared
import PageTokens.Proofs.Staging
import PageTokens.Proofs.Interference
import PageTokens.Proofs.Failures
import PageTokens.Proofs.Marks
import PageTokens.Proofs.Faults
import PageTokens.Proofs.Changes
import PageTokens.Proofs.Closed
import PageTokens.Proofs.Automatic
import PageTokens.Proofs.Checked
import PageTokens.Proofs.Places
import PageTokens.Proofs.Ascending
import PageTokens.Proofs.Repeats
import PageTokens.Proofs.Batch
import PageTokens.Proofs.Inputs
import PageTokens.Proofs.Frame
import PageTokens.Proofs.Respelling
import PageTokens.Proofs.ByteOrder
import PageTokens.Proofs.FiniteMap
import PageTokens.Proofs.Leniency
import PageTokens.Proofs.Concatenation
import PageTokens.Proofs.NormalForm
import PageTokens.Proofs.Rereading
import PageTokens.Proofs.Legibility
import PageTokens.Proofs.Reporting
import PageTokens.Proofs.Problems
import PageTokens.Proofs.Overriding
import PageTokens.Proofs.Walk
import PageTokens.Proofs.Patterns
import PageTokens.Proofs.Descent
import PageTokens.Proofs.Gathering
import PageTokens.Proofs.Ancestry
import PageTokens.Proofs.Chronicle
import PageTokens.Proofs.Discovery
import PageTokens.Proofs.JsonText
