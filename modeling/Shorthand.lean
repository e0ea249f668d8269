import Shorthand.Abbreviation.Node
import Shorthand.Abbreviation.Parser
import Shorthand.Abbreviation.Printer
import Shorthand.Abbreviation.Reader
import Shorthand.Abbreviation.Views
import Shorthand.CommandLine
import Shorthand.Completion.Extract
import Shorthand.Completion.Items
import Shorthand.Extension
import Shorthand.Files.Table
import Shorthand.Files.Tree
import Shorthand.GrammarAt
import Shorthand.Json.Printer
import Shorthand.Json.Reader
import Shorthand.Main
import Shorthand.Server.Dispatch
import Shorthand.Text.Blank
import Shorthand.Text.Numeral
import Shorthand.Text.Word
import Shorthand.Proofs.Document.Offset
import Shorthand.Proofs.Json.Distinct
import Shorthand.Proofs.Extension.LastDefinition
import Shorthand.Proofs.Session.RoundTrip
import Shorthand.Proofs.Server.Documents
import Shorthand.Proofs.Server.Watching
import Shorthand.Proofs.Server.Interleaving
import Shorthand.Proofs.Abbreviation.Steps
import Shorthand.Proofs.Abbreviation.PrintedElement
import Shorthand.Proofs.Abbreviation.RoundTrip
import Shorthand.Proofs.Abbreviation.Conclusive
import Shorthand.Proofs.Abbreviation.Errors
import Shorthand.Proofs.Abbreviation.Tokens
import Shorthand.Proofs.Abbreviation.Nesting
import Shorthand.Proofs.Tag.Reading
import Shorthand.Proofs.Tag.Places
import Shorthand.Proofs.Tag.Innermost
import Shorthand.Proofs.Markup.RenderedTags
import Shorthand.Proofs.Markup.Replacement
import Shorthand.Proofs.Markup.TooLarge
import Shorthand.Proofs.Completion.Edits
import Shorthand.Proofs.Markup.Numbering
import Shorthand.Proofs.Markup.WrittenOut
import Shorthand.Proofs.Abbreviation.Traversal
import Shorthand.Proofs.Markup.WholeSnippet
import Shorthand.Proofs.Markup.Slots
import Shorthand.Proofs.Markup.Verbatim
import Shorthand.Proofs.Tag.OpaqueBody
import Shorthand.Proofs.Grammar.StyleElement
import Shorthand.Proofs.Markup.EscapedText
import Shorthand.Proofs.TabStop.Drafts
import Shorthand.Proofs.Markup.TabStops
import Shorthand.Proofs.Markup.Indentation
import Shorthand.Proofs.Stylesheet.Values
import Shorthand.Proofs.Stylesheet.Parts
import Shorthand.Proofs.Stylesheet.Known
import Shorthand.Proofs.Stylesheet.Complete
import Shorthand.Proofs.Completion.TagEnds
import Shorthand.Proofs.Completion.Brackets
import Shorthand.Proofs.Completion.BraceText
import Shorthand.Proofs.Document.Inverse
import Shorthand.Proofs.Document.Monotone
import Shorthand.Proofs.Snippet.Substitution
import Shorthand.Proofs.Text.Order
import Shorthand.Proofs.Completion.Suggestions
import Shorthand.Proofs.Path.Location
import Shorthand.Proofs.Markup.LongNumerals
import Shorthand.Proofs.Markup.AttributeNames
import Shorthand.Proofs.Tag.Offsets
import Shorthand.Proofs.Document.Table
