import Phrasebook.ClassPrefix
import Phrasebook.CommandLine.Arguments
import Phrasebook.CommandLine.Run
import Phrasebook.CommandLine.Usage
import Phrasebook.Diagnostic
import Phrasebook.Diagnostic.Format
import Phrasebook.Disk
import Phrasebook.Disk.Replacement
import Phrasebook.Emitted.AccessorClass
import Phrasebook.Emitted.LanguageModule
import Phrasebook.Emitted.LookupBody
import Phrasebook.Emitted.LookupModule
import Phrasebook.Emitted.LookupTable
import Phrasebook.Emitted.Skeleton
import Phrasebook.Event
import Phrasebook.Failure
import Phrasebook.Failure.Report
import Phrasebook.Generation
import Phrasebook.Identifier
import Phrasebook.Json.Reader
import Phrasebook.Json.Token
import Phrasebook.Json.Value
import Phrasebook.Json.Writer
import Phrasebook.Locale
import Phrasebook.Locale.Code
import Phrasebook.Locale.Display
import Phrasebook.Locale.DisplayFile
import Phrasebook.Locale.Groups
import Phrasebook.Locale.Reference
import Phrasebook.Main
import Phrasebook.Path
import Phrasebook.PhraseFile
import Phrasebook.Phrases
import Phrasebook.Proofs.ClassNames
import Phrasebook.Proofs.ClassPrefix
import Phrasebook.Proofs.CommandLine
import Phrasebook.Proofs.Diagnostic.Line
import Phrasebook.Proofs.Diagnostic.Object
import Phrasebook.Proofs.Disk.Directories
import Phrasebook.Proofs.Disk.Entries
import Phrasebook.Proofs.Disk.Lengths
import Phrasebook.Proofs.Disk.Names
import Phrasebook.Proofs.Disk.Places
import Phrasebook.Proofs.Disk.Refusals
import Phrasebook.Proofs.Disk.Replacement
import Phrasebook.Proofs.Disk.Standing
import Phrasebook.Proofs.Disk.Walk
import Phrasebook.Proofs.Emitted.Bindings
import Phrasebook.Proofs.Emitted.Bundles
import Phrasebook.Proofs.Emitted.Codes
import Phrasebook.Proofs.Emitted.Decorators
import Phrasebook.Proofs.Emitted.Descriptions
import Phrasebook.Proofs.Emitted.Lines
import Phrasebook.Proofs.Emitted.LookupBody
import Phrasebook.Proofs.Emitted.LookupModule
import Phrasebook.Proofs.Emitted.LookupTable
import Phrasebook.Proofs.Emitted.Members
import Phrasebook.Proofs.Emitted.Modules
import Phrasebook.Proofs.Emitted.Requests
import Phrasebook.Proofs.Emitted.Resolution
import Phrasebook.Proofs.Emitted.Skeleton
import Phrasebook.Proofs.Emitted.Source
import Phrasebook.Proofs.Emitted.Statements
import Phrasebook.Proofs.Emitted.Tripled
import Phrasebook.Proofs.Failure
import Phrasebook.Proofs.Generation.Acceptance
import Phrasebook.Proofs.Generation.Again
import Phrasebook.Proofs.Generation.Contents
import Phrasebook.Proofs.Generation.Discovery
import Phrasebook.Proofs.Generation.Encodable
import Phrasebook.Proofs.Generation.Failing
import Phrasebook.Proofs.Generation.Inheritance
import Phrasebook.Proofs.Generation.Integrity
import Phrasebook.Proofs.Generation.Outputs
import Phrasebook.Proofs.Generation.Requirements
import Phrasebook.Proofs.Generation.Respelling
import Phrasebook.Proofs.Generation.Running
import Phrasebook.Proofs.Generation.Stages
import Phrasebook.Proofs.Generation.Template
import Phrasebook.Proofs.Generation.Variant
import Phrasebook.Proofs.Generation.Writing
import Phrasebook.Proofs.Json.FlatObject
import Phrasebook.Proofs.Json.Literal
import Phrasebook.Proofs.Json.Spacing
import Phrasebook.Proofs.Json.Written
import Phrasebook.Proofs.Locale.Code
import Phrasebook.Proofs.Locale.Groups
import Phrasebook.Proofs.Locale.Partition
import Phrasebook.Proofs.Locale.Spelling
import Phrasebook.Proofs.Outcome
import Phrasebook.Proofs.PhraseFile.Content
import Phrasebook.Proofs.PhraseFile.Discovery
import Phrasebook.Proofs.PhraseFile.Faults
import Phrasebook.Proofs.PhraseFile.Loading
import Phrasebook.Proofs.PhraseFile.Naming
import Phrasebook.Proofs.PhraseFile.Stable
import Phrasebook.Proofs.Phrases
import Phrasebook.Proofs.Schema
import Phrasebook.Proofs.Settings.Entries
import Phrasebook.Proofs.Settings.Loading
import Phrasebook.Proofs.Settings.Refusals
import Phrasebook.Proofs.Text.Ascii
import Phrasebook.Proofs.Text.Case
import Phrasebook.Proofs.Text.Cut
import Phrasebook.Proofs.Text.Encodable
import Phrasebook.Proofs.Text.Normal
import Phrasebook.Proofs.Text.Order
import Phrasebook.Proofs.Text.Recasing
import Phrasebook.Proofs.Text.Surrogates
import Phrasebook.Proofs.Toml.Keys
import Phrasebook.Proofs.Toml.Reading
import Phrasebook.Proofs.Utf8
import Phrasebook.Schema
import Phrasebook.Settings
import Phrasebook.Settings.File
import Phrasebook.Text
import Phrasebook.Text.Case
import Phrasebook.Text.Document
import Phrasebook.Text.Normal
import Phrasebook.Text.Quoted
import Phrasebook.Toml.Reader
import Phrasebook.Toml.Scalar
import Phrasebook.Toml.Value
import Phrasebook.Trouble
import Phrasebook.Unicode.CaseIgnorable
import Phrasebook.Unicode.CaseMap
import Phrasebook.Unicode.Cased
import Phrasebook.Unicode.CombiningClass
import Phrasebook.Unicode.Compatibility
import Phrasebook.Unicode.Composite
import Phrasebook.Unicode.IdentifierContinue
import Phrasebook.Unicode.IdentifierStart
import Phrasebook.Unicode.Lowercase
import Phrasebook.Unicode.Property
import Phrasebook.Unicode.Unprintable
import Phrasebook.Unicode.Uppercase
import Phrasebook.Utf8
