import SymbolIndex.Category
import SymbolIndex.Delimiters
import SymbolIndex.Failure
import SymbolIndex.Glob
import SymbolIndex.Json.Basic
import SymbolIndex.Json.Field
import SymbolIndex.Json.Number
import SymbolIndex.Json.Printer
import SymbolIndex.Json.Reader
import SymbolIndex.Lookup
import SymbolIndex.Query.Basic
import SymbolIndex.Query.Filter
import SymbolIndex.Query.Symbols
import SymbolIndex.Reader
import SymbolIndex.Record.Basic
import SymbolIndex.Record.Decode
import SymbolIndex.Record.Payload
import SymbolIndex.Regex.Basic
import SymbolIndex.Regex.Bracket
import SymbolIndex.Regex.Escape
import SymbolIndex.Regex.Flags
import SymbolIndex.Regex.Look
import SymbolIndex.Regex.Matching
import SymbolIndex.Regex.Reader
import SymbolIndex.Regex.Size
import SymbolIndex.Regex.Token
import SymbolIndex.Settings
import SymbolIndex.Store.Database
import SymbolIndex.Store.Memory
import SymbolIndex.Store.Tables
import SymbolIndex.Symbol.Basic
import SymbolIndex.Symbol.Json
import SymbolIndex.Text.Blank
import SymbolIndex.Text.CodeSet
import SymbolIndex.Text.Digits
import SymbolIndex.Text.Folding
import SymbolIndex.Text.GeneralCategory
import SymbolIndex.Text.GeneralCategory.Table
import SymbolIndex.Text.Lowercase
import SymbolIndex.Text.Lowercase.Table
import SymbolIndex.Text.Property
import SymbolIndex.Text.Property.Table
import SymbolIndex.Text.Quoted
import SymbolIndex.Text.RangeTable
import SymbolIndex.Text.Sorted
import SymbolIndex.Text.Split
import SymbolIndex.Text.Utf8
import SymbolIndex.Text.WritingSystem
import SymbolIndex.Toml.Basic
import SymbolIndex.Toml.Reader
import SymbolIndex.Toml.Scalar
import SymbolIndex.CommandLine.Invocation
import SymbolIndex.CommandLine.Report
import SymbolIndex.CommandLine.Run
import SymbolIndex.Main
import SymbolIndex.Proofs.CommandLine.Output
import SymbolIndex.Proofs.Reader.NamedMembers
import SymbolIndex.Proofs.Reader.Listings
import SymbolIndex.Proofs.Reader.Inherited
import SymbolIndex.Proofs.BreadthFirst
import SymbolIndex.Proofs.Reader.Supertypes
import SymbolIndex.Proofs.Record.RoundTrip
import SymbolIndex.Proofs.Record.Undetailed
import SymbolIndex.Proofs.Store.Operations
import SymbolIndex.Proofs.Store.RawAnswers
import SymbolIndex.Proofs.Store.Joined
import SymbolIndex.Proofs.CommandLine.Import
import SymbolIndex.Proofs.CommandLine.Presence
import SymbolIndex.Proofs.Outcomes
import SymbolIndex.Proofs.Query.LetterCase
import SymbolIndex.Proofs.Reader.InPlace
import SymbolIndex.Proofs.Reader.Isolation
import SymbolIndex.Proofs.Reader.Removals
import SymbolIndex.Proofs.Reader.RequiredModules
import SymbolIndex.Proofs.Reader.Spelling
import SymbolIndex.Proofs.Store.Reindexing
import SymbolIndex.Proofs.Record.Payload
import SymbolIndex.Proofs.Reader.Assembly
import SymbolIndex.Proofs.Reader.Visits
import SymbolIndex.Proofs.Query.Names
import SymbolIndex.Proofs.Record.NormalForm
import SymbolIndex.Proofs.Record.Replacing
