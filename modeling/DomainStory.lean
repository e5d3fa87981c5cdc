import DomainStory.Command.Options
import DomainStory.Command.Run
import DomainStory.Config
import DomainStory.Decimal.Reading
import DomainStory.Decimal.Shortest
import DomainStory.Diagram.Arrange
import DomainStory.Diagram.Basic
import DomainStory.Diagram.Codec
import DomainStory.Diagram.Compose
import DomainStory.Diagram.Route
import DomainStory.Geometry.Bounds
import DomainStory.Geometry.Point
import DomainStory.Geometry.Scalar
import DomainStory.Json.Basic
import DomainStory.Json.Numeral
import DomainStory.Json.Printer
import DomainStory.Json.Reader
import DomainStory.Json.Record
import DomainStory.Layout.Algorithm
import DomainStory.Layout.Canvas
import DomainStory.Layout.Force
import DomainStory.Layout.Grid
import DomainStory.Layout.Levels
import DomainStory.Layout.Network
import DomainStory.Outline
import DomainStory.Proofs.List
import DomainStory.Proofs.Story.NameMatch
import DomainStory.Proofs.Story.Pass
import DomainStory.Proofs.Story.Reading
import DomainStory.Proofs.Story.RoundTrip
import DomainStory.Proofs.Story.TrailingGroup
import DomainStory.Proofs.Story.WellFormed
import DomainStory.Proofs.Story.WrittenLine
import DomainStory.Proofs.Text.Lowercase
import DomainStory.Proofs.Text.Trim
import DomainStory.Refusal
import DomainStory.Session.Basic
import DomainStory.Session.Edit
import DomainStory.Story.Basic
import DomainStory.Story.Codec
import DomainStory.Story.Line
import DomainStory.Story.NameMatch
import DomainStory.Story.Reading
import DomainStory.Story.StepGrammar
import DomainStory.Story.TrailingGroup
import DomainStory.Story.Writing
import DomainStory.Summary
import DomainStory.Table
import DomainStory.Text.Alphanumeric
import DomainStory.Text.Blank
import DomainStory.Text.Casing
import DomainStory.Text.CodeRange
import DomainStory.Text.Lowercase
import DomainStory.Text.Natural
import DomainStory.Text.Pieces
import DomainStory.View
import DomainStory.Viewport
import DomainStory.Main
import DomainStory.Proofs.Diagram.Content
import DomainStory.Proofs.Diagram.Placing
import DomainStory.Proofs.Session.Consistency
import DomainStory.Proofs.Geometry.Exact
import DomainStory.Proofs.Session.Seating
import DomainStory.Proofs.Story.HeaderCut
import DomainStory.Proofs.Diagram.Edges
import DomainStory.Proofs.Diagram.Routing
import DomainStory.Proofs.Diagram.Fanning
import DomainStory.Proofs.Session.Narrative
import DomainStory.Proofs.Story.LineFilter
import DomainStory.Proofs.Story.Namesakes
import DomainStory.Proofs.Story.Accounting
import DomainStory.Proofs.Diagram.Restriction
import DomainStory.Proofs.Layout.Refusal
import DomainStory.Proofs.Layout.Search
import DomainStory.Proofs.Session.Refusal
import DomainStory.Proofs.Session.Places
import DomainStory.Proofs.Session.Controls
import DomainStory.Proofs.Command.Status
import DomainStory.Proofs.Story.Inert
import DomainStory.Proofs.Diagram.Composition
import DomainStory.Proofs.Story.StepLayout
import DomainStory.Proofs.Layout.Columns
import DomainStory.Proofs.Layout.Distance
import DomainStory.Proofs.Story.BestMatch
import DomainStory.Proofs.Story.NamedAction
import DomainStory.Proofs.Story.LegibleStep
import DomainStory.Proofs.Json.Merge
import DomainStory.Proofs.Config.Overrides
import DomainStory.Proofs.Layout.Places
import DomainStory.Proofs.Diagram.Arranging
import DomainStory.Proofs.Diagram.Rerouting
import DomainStory.Proofs.Story.ActorGrammar
import DomainStory.Proofs.Geometry.Field
import DomainStory.Proofs.Layout.Spacing
import DomainStory.Proofs.Layout.Momentum
import DomainStory.Proofs.Viewport
import DomainStory.Proofs.Diagram.Clipping
import DomainStory.Proofs.Text.Natural
import DomainStory.Proofs.Json.Integer
import DomainStory.Proofs.View.Selector
import DomainStory.Proofs.Session.Zoom
import DomainStory.Proofs.Layout.Outcome
import DomainStory.Proofs.View.Navigation
import DomainStory.Proofs.Story.NoteTag
import DomainStory.Proofs.Json.Record
import DomainStory.Proofs.Story.Codec
import DomainStory.Proofs.Diagram.Codec
