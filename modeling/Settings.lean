import Settings.Binary.Basic
import Settings.Binary.Rounding
import Settings.Binary.Shortest
import Settings.Coercion
import Settings.Command.Basic
import Settings.Command.Error
import Settings.Command.Plugins
import Settings.Command.Request
import Settings.Command.Run
import Settings.ConversionError
import Settings.Decimal
import Settings.Environment.File
import Settings.Environment.Overrides
import Settings.Environment.Value
import Settings.Files.FileSystem
import Settings.Files.Path
import Settings.Files.Snapshot
import Settings.Interchange
import Settings.Json
import Settings.Literal.Duration
import Settings.Literal.Integer
import Settings.Literal.MemorySize
import Settings.Literal.Number
import Settings.Literal.Reading
import Settings.Literal.Tag
import Settings.Loading
import Settings.Main
import Settings.Outcome
import Settings.Plugin
import Settings.Proofs.Binary.Nearest
import Settings.Proofs.Binary.Shortest
import Settings.Proofs.CanonicalText
import Settings.Proofs.Commands.Listing
import Settings.Proofs.Commands.Schema
import Settings.Proofs.Commands.Secrets
import Settings.Proofs.Commands.Shown
import Settings.Proofs.Digits
import Settings.Proofs.Discovery
import Settings.Proofs.Failures
import Settings.Proofs.Files.Paths
import Settings.Proofs.Files.Trees
import Settings.Proofs.Literals
import Settings.Proofs.MaskedText
import Settings.Proofs.Masking
import Settings.Proofs.Properties.Escape
import Settings.Proofs.Properties.Export
import Settings.Proofs.Splitting
import Settings.Proofs.Splitting.Grammar
import Settings.Proofs.Splitting.Scanner
import Settings.Proofs.Splitting.Segments
import Settings.Proofs.Tables
import Settings.Proofs.Tags
import Settings.Properties.Basic
import Settings.Properties.Escape
import Settings.Properties.Lines
import Settings.Rendering
import Settings.Store.Basic
import Settings.Store.Enumeration
import Settings.Store.Error
import Settings.Table
import Settings.Text.Alphanumeric
import Settings.Text.Blank
import Settings.Text.Case
import Settings.Text.Case.Context
import Settings.Text.Case.Lower
import Settings.Text.Case.Upper
import Settings.Text.Digits
import Settings.Text.Listing
import Settings.Text.Printable
import Settings.Text.Quoted
import Settings.Text.Ranges
import Settings.Text.Split
import Settings.Transfer
import Settings.Tree
import Settings.Tree.Flatten
import Settings.Tree.Override
import Settings.Typed
import Settings.Value.Basic
import Settings.Value.Duration
import Settings.Value.EnumSet
import Settings.Value.MemorySize
import Settings.Value.Secret
import Settings.Value.Tag
import Settings.Word
import Settings.Yaml.Anchor
import Settings.Yaml.Block
import Settings.Yaml.Document
import Settings.Yaml.Gap
import Settings.Yaml.Glyph
import Settings.Yaml.Layout
import Settings.Yaml.Node
import Settings.Yaml.Plain
import Settings.Yaml.Property
import Settings.Yaml.Quoted
import Settings.Yaml.Scalar
import Settings.Yaml.Token
import Settings.Yaml.Written
import Settings.Proofs.Durations
import Settings.Proofs.Typing
import Settings.Proofs.StoredTypes
import Settings.Proofs.StoreRuns
import Settings.Proofs.Agreement
import Settings.Proofs.Integers
import Settings.Proofs.Properties.Concatenation
import Settings.Proofs.Properties.Unicode
import Settings.Proofs.Durations.Machine
import Settings.Proofs.Properties.Refusals
import Settings.Proofs.Durations.Spelling
import Settings.Proofs.Durations.Overruns
import Settings.Proofs.Properties.Layout
import Settings.Proofs.Properties.Folding
import Settings.Proofs.Properties.Utf16
import Settings.Proofs.Files.Additions
import Settings.Proofs.Discovery.Additions
import Settings.Proofs.MemorySizes
import Settings.Proofs.Flattening
import Settings.Proofs.EnumSets
import Settings.Proofs.Enumerations
import Settings.Proofs.Splitting.Correspondence
import Settings.Proofs.Items
import Settings.Proofs.LetterCase
import Settings.Proofs.Splitting.Joining
import Settings.Proofs.Joining
import Settings.Proofs.Durations.Compounds
import Settings.Proofs.Transfer
import Settings.Proofs.Durations.Written
import Settings.Proofs.Numerals
import Settings.Proofs.Binary.Decimals
import Settings.Proofs.Binary.Extremes
import Settings.Proofs.Floats
