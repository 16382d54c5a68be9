import ComponentDocs.Command.Run
import ComponentDocs.Document.Renderer
import ComponentDocs.Files.Changes
import ComponentDocs.Main
import ComponentDocs.Proofs.Document.Conformance
import ComponentDocs.Proofs.Document.Delivery
import ComponentDocs.Proofs.Document.Distinct
import ComponentDocs.Proofs.Document.Grammar
import ComponentDocs.Proofs.Document.Headings
import ComponentDocs.Proofs.Document.Layout
import ComponentDocs.Proofs.Document.Parity
import ComponentDocs.Proofs.Document.Proper
import ComponentDocs.Proofs.Document.Reuse
import ComponentDocs.Proofs.Document.Rule
import ComponentDocs.Proofs.Document.Slots
import ComponentDocs.Proofs.Document.Text
import ComponentDocs.Proofs.Document.Traversal
import ComponentDocs.Proofs.Document.View
import ComponentDocs.Proofs.Json.RoundTrip
import ComponentDocs.Proofs.Json.Tokens
import ComponentDocs.Proofs.Markup.Balance
import ComponentDocs.Proofs.Markup.Blanks
import ComponentDocs.Proofs.Markup.Pen
import ComponentDocs.Proofs.Markup.Reader
import ComponentDocs.Proofs.Markup.WellFormed
import ComponentDocs.Proofs.Markup.Xml
import ComponentDocs.Proofs.Offering
import ComponentDocs.Proofs.Steps
import ComponentDocs.Snapshot.Request
import ComponentDocs.Proofs.Vocabulary
import ComponentDocs.Proofs.Document.Displayed
import ComponentDocs.Proofs.Files.Holding
import ComponentDocs.Proofs.Files.Writing
import ComponentDocs.Proofs.Command.Publication
import ComponentDocs.Proofs.Document.Refusal
import ComponentDocs.Proofs.Json.Cursor
import ComponentDocs.Proofs.Json.Members
import ComponentDocs.Proofs.Outcomes
import ComponentDocs.Proofs.Snapshot.Gathering
import ComponentDocs.Proofs.Snapshot.Keeping
import ComponentDocs.Proofs.Snapshot.Settling
import ComponentDocs.Proofs.Snapshot.Insertion
import ComponentDocs.Proofs.Snapshot.KeyOrder
import ComponentDocs.Proofs.Document.NoSnapshot
import ComponentDocs.Proofs.Command.Originals
import ComponentDocs.Proofs.Json.Normal
import ComponentDocs.Proofs.Json.SkippedTokens
import ComponentDocs.Proofs.Json.SkippedValues
import ComponentDocs.Proofs.Snapshot.Streaming
import ComponentDocs.Proofs.Snapshot.StreamedRecords
import ComponentDocs.Proofs.Snapshot.TwoSteps
import ComponentDocs.Proofs.Markup.Indentation
import ComponentDocs.Proofs.Document.Indentation
import ComponentDocs.Proofs.Markup.Nesting
import ComponentDocs.Proofs.Document.Hooks
import ComponentDocs.Proofs.Snapshot.CategoryTag
import ComponentDocs.Proofs.Snapshot.Degradation
import ComponentDocs.Proofs.Document.Objects
import ComponentDocs.Proofs.Text.Bytes
import ComponentDocs.Proofs.Markup.Closing
import ComponentDocs.Proofs.Document.Truncation
import ComponentDocs.Proofs.Files.Order
import ComponentDocs.Proofs.Files.Reordering
import ComponentDocs.Proofs.Files.Pattern
import ComponentDocs.Proofs.Command.Selection
import ComponentDocs.Proofs.Files.Relative
import ComponentDocs.Proofs.Command.Repetition
import ComponentDocs.Proofs.Document.Lookup
import ComponentDocs.Proofs.Component.Relationships
import ComponentDocs.Proofs.Command.Modes
import ComponentDocs.Proofs.Command.Log
import ComponentDocs.Proofs.Json.Continuation
import ComponentDocs.Proofs.Json.Depth
import ComponentDocs.Proofs.Snapshot.ProvidedApis
import ComponentDocs.Proofs.Snapshot.Wrapping
import ComponentDocs.Proofs.Component.Merging
import ComponentDocs.Proofs.Command.Replacement
import ComponentDocs.Proofs.Document.FileName
import ComponentDocs.Proofs.Files.Parts
import ComponentDocs.Proofs.Command.Confinement
import ComponentDocs.Proofs.Files.Descent
import ComponentDocs.Proofs.Files.Literal
import ComponentDocs.Proofs.Command.Directories
import ComponentDocs.Proofs.Document.Content
import ComponentDocs.Proofs.Document.Refinement
import ComponentDocs.Proofs.Document.Told
import ComponentDocs.Proofs.Component.References
