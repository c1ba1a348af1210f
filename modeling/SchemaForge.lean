import SchemaForge.Calendar.Date
import SchemaForge.Calendar.Instant
import SchemaForge.CommandLine.Arguments
import SchemaForge.CommandLine.Log
import SchemaForge.CommandLine.Program
import SchemaForge.CommandLine.Table
import SchemaForge.Config
import SchemaForge.DataType.Basic
import SchemaForge.DataType.Decode
import SchemaForge.DataType.Encode
import SchemaForge.Decimal.Exact
import SchemaForge.Decimal.Layout
import SchemaForge.Decimal.Rounded
import SchemaForge.Decimal.Shortest
import SchemaForge.Diagnostic
import SchemaForge.Extension.Bridge
import SchemaForge.Extension.Callback
import SchemaForge.Extension.Marshal
import SchemaForge.Extension.Registrations
import SchemaForge.Extension.ResultKind
import SchemaForge.FilePath
import SchemaForge.FileTree
import SchemaForge.Generate.Artifact
import SchemaForge.Generate.Generator
import SchemaForge.Generate.Sink
import SchemaForge.Generate.Stage
import SchemaForge.Input
import SchemaForge.Json.Printer
import SchemaForge.Json.Reader
import SchemaForge.Json.Value
import SchemaForge.Main
import SchemaForge.NameMap
import SchemaForge.Proofs.Calendar.Days
import SchemaForge.Proofs.Calendar.Stamps
import SchemaForge.Proofs.CommandLine
import SchemaForge.Proofs.Config
import SchemaForge.Proofs.DataType.Faults
import SchemaForge.Proofs.DataType.Fields
import SchemaForge.Proofs.DataType.RoundTrip
import SchemaForge.Proofs.Decimal.Whole
import SchemaForge.Proofs.Extension.Copies
import SchemaForge.Proofs.Extension.Dates
import SchemaForge.Proofs.Extension.Entries
import SchemaForge.Proofs.Extension.HostCalls
import SchemaForge.Proofs.Extension.Loading
import SchemaForge.Proofs.Extension.Refusals
import SchemaForge.Proofs.Extension.RoundTrip
import SchemaForge.Proofs.FilePath
import SchemaForge.Proofs.FileTree
import SchemaForge.Proofs.Generate.Agreement
import SchemaForge.Proofs.Generate.Apart
import SchemaForge.Proofs.Generate.ArtifactExtension
import SchemaForge.Proofs.Generate.DocumentOrder
import SchemaForge.Proofs.Generate.FileNames
import SchemaForge.Proofs.Generate.Prepared
import SchemaForge.Proofs.Generate.Progress
import SchemaForge.Proofs.Generate.Stages
import SchemaForge.Proofs.Input
import SchemaForge.Proofs.Json.Alike
import SchemaForge.Proofs.Json.CompactSpelling
import SchemaForge.Proofs.Json.Keys
import SchemaForge.Proofs.Json.Literal
import SchemaForge.Proofs.Json.LiteralText
import SchemaForge.Proofs.Json.Nulls
import SchemaForge.Proofs.Json.ReaderKeys
import SchemaForge.Proofs.Json.SpelledReading
import SchemaForge.Proofs.Json.Spelling
import SchemaForge.Proofs.NameMap
import SchemaForge.Proofs.Outcome
import SchemaForge.Proofs.Render.Calls
import SchemaForge.Proofs.Render.Exposure
import SchemaForge.Proofs.Render.Failures
import SchemaForge.Proofs.Render.Frozen
import SchemaForge.Proofs.Render.Isolation
import SchemaForge.Proofs.Render.Overlay
import SchemaForge.Proofs.Render.TagCalls
import SchemaForge.Proofs.Render.Transparency
import SchemaForge.Proofs.Schema.Alphabetized
import SchemaForge.Proofs.Schema.DocumentOrder
import SchemaForge.Proofs.Schema.Entry
import SchemaForge.Proofs.Schema.ExtrasOrder
import SchemaForge.Proofs.Schema.Language
import SchemaForge.Proofs.Schema.Literals
import SchemaForge.Proofs.Schema.Locality
import SchemaForge.Proofs.Schema.MemberOrder
import SchemaForge.Proofs.Schema.Names
import SchemaForge.Proofs.Schema.Reading
import SchemaForge.Proofs.Schema.Reordered
import SchemaForge.Proofs.Schema.Shape
import SchemaForge.Proofs.Schema.Splitting
import SchemaForge.Proofs.Schema.TypeGraph
import SchemaForge.Proofs.Schema.WellFormed
import SchemaForge.Proofs.Script.Tables
import SchemaForge.Proofs.Script.Trace
import SchemaForge.Proofs.SourcePlace
import SchemaForge.Proofs.Template.Alike
import SchemaForge.Proofs.Template.Answers
import SchemaForge.Proofs.Template.Calls
import SchemaForge.Proofs.Template.Lockstep
import SchemaForge.Proofs.Template.Sites
import SchemaForge.Proofs.Text.Blank
import SchemaForge.Proofs.Text.ByteOrder
import SchemaForge.Proofs.Text.SmallLetters
import SchemaForge.Proofs.Text.Utf8
import SchemaForge.Proofs.TypeExpr.Forms
import SchemaForge.Proofs.TypeExpr.Inverse
import SchemaForge.Proofs.Yaml.ReaderKeys
import SchemaForge.Render.Context
import SchemaForge.Render.Renderer
import SchemaForge.Schema.Basic
import SchemaForge.Schema.Document
import SchemaForge.Schema.Registry
import SchemaForge.Schema.Structure
import SchemaForge.Script.Format
import SchemaForge.Script.Frame
import SchemaForge.Script.Heap
import SchemaForge.Script.Library
import SchemaForge.Script.Library.Chunks
import SchemaForge.Script.Library.Computer
import SchemaForge.Script.Library.Encoding
import SchemaForge.Script.Library.Files
import SchemaForge.Script.Library.Maths
import SchemaForge.Script.Library.Packing
import SchemaForge.Script.Library.Strings
import SchemaForge.Script.Library.Tables
import SchemaForge.Script.Library.Values
import SchemaForge.Script.Machine
import SchemaForge.Script.Native
import SchemaForge.Script.Number
import SchemaForge.Script.Operation
import SchemaForge.Script.Pattern
import SchemaForge.Script.Program
import SchemaForge.Script.Reader
import SchemaForge.Script.Session
import SchemaForge.Script.Token
import SchemaForge.Script.Value
import SchemaForge.System
import SchemaForge.Template.Arguments
import SchemaForge.Template.Arithmetic
import SchemaForge.Template.Basic
import SchemaForge.Template.Builtins
import SchemaForge.Template.Compile
import SchemaForge.Template.DateFilter
import SchemaForge.Template.Expression
import SchemaForge.Template.Failure
import SchemaForge.Template.ListFilters
import SchemaForge.Template.Listing
import SchemaForge.Template.Margins
import SchemaForge.Template.NumberFilters
import SchemaForge.Template.Path
import SchemaForge.Template.Reader
import SchemaForge.Template.Render
import SchemaForge.Template.Scope
import SchemaForge.Template.Symbols
import SchemaForge.Template.TextFilters
import SchemaForge.Template.Value
import SchemaForge.Text.Blank
import SchemaForge.Text.Case
import SchemaForge.Text.CaseTable
import SchemaForge.Text.Grapheme
import SchemaForge.Text.Listing
import SchemaForge.Text.MarkTable
import SchemaForge.Text.Search
import SchemaForge.Text.Utf8
import SchemaForge.Text.Width
import SchemaForge.TypeExpr
import SchemaForge.Word
import SchemaForge.Yaml.Lexer
import SchemaForge.Yaml.Node
import SchemaForge.Yaml.Reader
import SchemaForge.Yaml.Scalar
import SchemaForge.Yaml.Token
