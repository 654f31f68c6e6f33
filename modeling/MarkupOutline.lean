import MarkupOutline.Draft.Basic
import MarkupOutline.Draft.Outline
import MarkupOutline.Draft.Stored
import MarkupOutline.Draft.WellFormed
import MarkupOutline.Elements
import MarkupOutline.Entries
import MarkupOutline.Formatting
import MarkupOutline.Html.Construction.Adoption
import MarkupOutline.Html.Construction.Basic
import MarkupOutline.Html.Construction.Body
import MarkupOutline.Html.Construction.Dispatch
import MarkupOutline.Html.Construction.Tables
import MarkupOutline.Html.Foreign
import MarkupOutline.Html.Frame
import MarkupOutline.Html.Reference.Decoding
import MarkupOutline.Html.Reference.Names
import MarkupOutline.Html.Token.Basic
import MarkupOutline.Html.Token.Scanning
import MarkupOutline.Json.Basic
import MarkupOutline.Json.Reading
import MarkupOutline.Json.Writing
import MarkupOutline.Markup
import MarkupOutline.Node
import MarkupOutline.Notice
import MarkupOutline.Options.Basic
import MarkupOutline.Options.Reading
import MarkupOutline.Options.Supplied
import MarkupOutline.Proofs.Reading.Placed
import MarkupOutline.Proofs.Render.Blocks
import MarkupOutline.Proofs.Render.Locality
import MarkupOutline.Proofs.Render.Markup
import MarkupOutline.Proofs.Render.Parts
import MarkupOutline.Proofs.Render.Payload
import MarkupOutline.Proofs.Render.Plain
import MarkupOutline.Proofs.Render.Unambiguous
import MarkupOutline.Proofs.Text.Escaping
import MarkupOutline.Proofs.Text.Lines
import MarkupOutline.Proofs.Text.Splitting
import MarkupOutline.Proofs.Text.Quotation
import MarkupOutline.Proofs.Text.Trimming
import MarkupOutline.Render.Buffer
import MarkupOutline.Render.Layout
import MarkupOutline.Render.Outline
import MarkupOutline.Render.Place
import MarkupOutline.Render.Writing
import MarkupOutline.Scope
import MarkupOutline.Tailed.Basic
import MarkupOutline.Tailed.Conversion
import MarkupOutline.Text.Blank
import MarkupOutline.Text.Escape
import MarkupOutline.Text.Indent
import MarkupOutline.Text.Lines
import MarkupOutline.Text.Printable
import MarkupOutline.Text.Quoted
import MarkupOutline.Value.Basic
import MarkupOutline.Value.Decimal
import MarkupOutline.Value.Scalar
import MarkupOutline.Version
import MarkupOutline.Proofs.Reading.Reread
import MarkupOutline.Proofs.Reading.Elements
import MarkupOutline.Proofs.Reading.Settled
import MarkupOutline.Proofs.Text.References
import MarkupOutline.Proofs.Reading.Tokens
import MarkupOutline.Proofs.Reading.TextTokens
import MarkupOutline.Proofs.Reading.Stacks
import MarkupOutline.Proofs.Reading.Grounds
import MarkupOutline.Proofs.Reading.Formatting
import MarkupOutline.Proofs.Reading.Orderly
import MarkupOutline.Proofs.Reading.Closing
import MarkupOutline.Proofs.Reading.EndTags
import MarkupOutline.Proofs.Reading.Opening
import MarkupOutline.Proofs.Reading.StartTags
import MarkupOutline.Proofs.Reading.Taking
import MarkupOutline.Proofs.Reading.Content
import MarkupOutline.Proofs.Reading.Runs
import MarkupOutline.Proofs.Reading.TextElements
import MarkupOutline.Proofs.Reading.Rebuilding
import MarkupOutline.Proofs.Reading.Renderings
import MarkupOutline.Proofs.Idempotence
import MarkupOutline.Proofs.Reading.Edges
import MarkupOutline.Proofs.Reading.Trimming
import MarkupOutline.Proofs.Reading.Fragments
import MarkupOutline.Proofs.Render.Hiding
import MarkupOutline.Proofs.Conversion.Faults
import MarkupOutline.Proofs.Json.Strings
import MarkupOutline.Proofs.Json.Values
import MarkupOutline.Proofs.Json.Trees
import MarkupOutline.Proofs.Construction.Carrying
import MarkupOutline.Proofs.Construction.Rules
import MarkupOutline.Proofs.Construction.Origins
import MarkupOutline.Proofs.Conversion.Totality
import MarkupOutline.Proofs.Text.Deepening
import MarkupOutline.Proofs.Render.Nesting
import MarkupOutline.Proofs.Render.Ancestors
import MarkupOutline.Proofs.Text.Margins
import MarkupOutline.Proofs.Render.Alignment
import MarkupOutline.Proofs.Render.Preformatted
import MarkupOutline.Proofs.Render.Quoting
import MarkupOutline.Proofs.Options.Choices
import MarkupOutline.Proofs.Scope.Runs
import MarkupOutline.Proofs.Scope.Brackets
import MarkupOutline.Proofs.Scope.Isolation
import MarkupOutline.Proofs.Scope.Arguments
import MarkupOutline.Proofs.Render.Foreign
import MarkupOutline.Proofs.Traversal
import MarkupOutline.Proofs.Json.Fields
import MarkupOutline.Proofs.Json.Grammar
import MarkupOutline.Proofs.Json.Canonical
import MarkupOutline.Proofs.Render.Levels
import MarkupOutline.Proofs.Render.Comments
import MarkupOutline.Proofs.Render.Flat
import MarkupOutline.Proofs.Render.Spacing
import MarkupOutline.Proofs.Conversion.Conservation
import MarkupOutline.Proofs.Construction.Sources
import MarkupOutline.Proofs.Conversion.Names
import MarkupOutline.Proofs.Options.Notices
import MarkupOutline.Proofs.Options.Resolved
import MarkupOutline.Proofs.Render.Escapes
