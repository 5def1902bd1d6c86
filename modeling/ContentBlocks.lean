import ContentBlocks.Address.Basic
import ContentBlocks.Address.Percent
import ContentBlocks.Address.Punycode
import ContentBlocks.Batch.Document
import ContentBlocks.Batch.Run
import ContentBlocks.Block.Basic
import ContentBlocks.Block.Check
import ContentBlocks.Block.Decode
import ContentBlocks.Block.Encode
import ContentBlocks.Block.Key
import ContentBlocks.Block.Outline
import ContentBlocks.Block.Stats
import ContentBlocks.Calendar.Basic
import ContentBlocks.Command.Arguments
import ContentBlocks.Command.Report
import ContentBlocks.Command.Terminal
import ContentBlocks.Conversion.Block
import ContentBlocks.Conversion.Document
import ContentBlocks.Conversion.FenceInfo
import ContentBlocks.Conversion.Highlight
import ContentBlocks.Conversion.Inline
import ContentBlocks.Conversion.Keyed
import ContentBlocks.Conversion.Notice
import ContentBlocks.Decimal.Nearest
import ContentBlocks.Decimal.Shortest
import ContentBlocks.Digest.Sha256
import ContentBlocks.Json.Printer
import ContentBlocks.Json.Prose
import ContentBlocks.Json.Reader
import ContentBlocks.Json.Value
import ContentBlocks.Main
import ContentBlocks.Markdown.Autolink
import ContentBlocks.Markdown.Block
import ContentBlocks.Markdown.Definition
import ContentBlocks.Markdown.Destination
import ContentBlocks.Markdown.Emphasis
import ContentBlocks.Markdown.Html
import ContentBlocks.Markdown.Inline
import ContentBlocks.Markdown.Line
import ContentBlocks.Markdown.Mark
import ContentBlocks.Markdown.Preset
import ContentBlocks.Markdown.Reader
import ContentBlocks.Markup.Node
import ContentBlocks.Readers
import ContentBlocks.Schema.Issue
import ContentBlocks.Schema.Scalar
import ContentBlocks.Settings.Basic
import ContentBlocks.Settings.Layers
import ContentBlocks.Slug
import ContentBlocks.Source.Basic
import ContentBlocks.Source.Header
import ContentBlocks.Storage.Discovery
import ContentBlocks.Storage.Disk
import ContentBlocks.Storage.Path
import ContentBlocks.Text.CharNames
import ContentBlocks.Text.CharReference
import ContentBlocks.Text.Class
import ContentBlocks.Text.ClassTable
import ContentBlocks.Text.Letter
import ContentBlocks.Text.LetterTable
import ContentBlocks.Text.Numeral
import ContentBlocks.Text.Quoted
import ContentBlocks.Text.Utf8
import ContentBlocks.Yaml.BlockText
import ContentBlocks.Yaml.Document
import ContentBlocks.Yaml.Failure
import ContentBlocks.Yaml.Layout
import ContentBlocks.Yaml.Node
import ContentBlocks.Yaml.Place
import ContentBlocks.Yaml.PlainText
import ContentBlocks.Yaml.Property
import ContentBlocks.Yaml.QuotedText
import ContentBlocks.Yaml.Reader
import ContentBlocks.Yaml.Scalar
import ContentBlocks.Yaml.Token
import ContentBlocks.Yaml.Value
import ContentBlocks.Proofs.Conversion.Leaves
import ContentBlocks.Proofs.Conversion.Keys
import ContentBlocks.Proofs.Conversion.WellFormed
import ContentBlocks.Proofs.Block.Shape
import ContentBlocks.Proofs.Conversion.Outline
import ContentBlocks.Proofs.Conversion.Renaming
import ContentBlocks.Proofs.Storage.Writing
import ContentBlocks.Proofs.Storage.Discovery
import ContentBlocks.Proofs.Batch.Output
import ContentBlocks.Proofs.Batch.Sources
import ContentBlocks.Proofs.Batch.Run
import ContentBlocks.Proofs.Batch.Slugs
import ContentBlocks.Proofs.Block.RoundTrip
import ContentBlocks.Proofs.Conversion.Calls
import ContentBlocks.Proofs.Conversion.Trigger
import ContentBlocks.Proofs.Json.Fields
import ContentBlocks.Proofs.Text.Case
import ContentBlocks.Proofs.Text.Pieces
import ContentBlocks.Proofs.Conversion.Quotation
import ContentBlocks.Proofs.Conversion.Refusal
import ContentBlocks.Proofs.Conversion.Composition
import ContentBlocks.Proofs.Source.Header
import ContentBlocks.Proofs.Conversion.Dropped
import ContentBlocks.Proofs.Command.Ending
import ContentBlocks.Proofs.Settings.Layers
import ContentBlocks.Proofs.Command.Agreement
import ContentBlocks.Proofs.Source.EmptyHeader
import ContentBlocks.Proofs.Conversion.Highlights
import ContentBlocks.Proofs.Block.Acceptance
import ContentBlocks.Proofs.Settings.Fields
import ContentBlocks.Proofs.Storage.Listing
import ContentBlocks.Proofs.Text.Encoding
import ContentBlocks.Proofs.Batch.Fingerprint
import ContentBlocks.Proofs.Conversion.Tables
import ContentBlocks.Proofs.Command.Building
import ContentBlocks.Proofs.Block.Counts
import ContentBlocks.Proofs.Conversion.Images
import ContentBlocks.Proofs.Text.Lower
import ContentBlocks.Proofs.Text.Runs
import ContentBlocks.Proofs.Text.Names
import ContentBlocks.Proofs.Conversion.InfoLine
import ContentBlocks.Proofs.Conversion.Attributes
import ContentBlocks.Proofs.Command.OutlineLines
