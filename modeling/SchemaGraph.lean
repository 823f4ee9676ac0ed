import SchemaGraph.Command.Basic
import SchemaGraph.Command.Check
import SchemaGraph.Command.Form
import SchemaGraph.Config.File
import SchemaGraph.Config.Settings
import SchemaGraph.DataType
import SchemaGraph.Ddl.Export
import SchemaGraph.Ddl.Script
import SchemaGraph.Decimal.Notation
import SchemaGraph.Decimal.Numeral
import SchemaGraph.Decimal.Shortest
import SchemaGraph.Decode.Checked
import SchemaGraph.Decode.Fault
import SchemaGraph.Decode.Scalar
import SchemaGraph.Diagram
import SchemaGraph.Editing.Basic
import SchemaGraph.Editing.Call
import SchemaGraph.Editing.Change
import SchemaGraph.Editing.Load
import SchemaGraph.Editing.Relationship
import SchemaGraph.Editing.Table
import SchemaGraph.Failure
import SchemaGraph.Json.Basic
import SchemaGraph.Json.Reader
import SchemaGraph.Json.Shown
import SchemaGraph.Json.Writer
import SchemaGraph.Layout.Basic
import SchemaGraph.Layout.Order
import SchemaGraph.Layout.Placement
import SchemaGraph.Layout.Rank
import SchemaGraph.Layout.Wire
import SchemaGraph.Logging
import SchemaGraph.Project
import SchemaGraph.Proofs.Command.Commute
import SchemaGraph.Proofs.Command.Ids
import SchemaGraph.Proofs.Command.Refused
import SchemaGraph.Proofs.Command.Run
import SchemaGraph.Proofs.Command.Updates
import SchemaGraph.Proofs.DataType.Grammar
import SchemaGraph.Proofs.Ddl.Compilable
import SchemaGraph.Proofs.Ddl.ConstraintNames
import SchemaGraph.Proofs.Ddl.ForeignKeys
import SchemaGraph.Proofs.Ddl.Part
import SchemaGraph.Proofs.Ddl.References
import SchemaGraph.Proofs.Ddl.Relabeled
import SchemaGraph.Proofs.Ddl.Styles
import SchemaGraph.Proofs.Decode.Valid
import SchemaGraph.Proofs.Diagram.Cells
import SchemaGraph.Proofs.Diagram.Markup
import SchemaGraph.Proofs.Diagram.Names
import SchemaGraph.Proofs.Diagram.Ports
import SchemaGraph.Proofs.Editing.Bulk
import SchemaGraph.Proofs.Editing.Cascade
import SchemaGraph.Proofs.Editing.Collision
import SchemaGraph.Proofs.Editing.Commute
import SchemaGraph.Proofs.Editing.Connect
import SchemaGraph.Proofs.Editing.Decided
import SchemaGraph.Proofs.Editing.Draft
import SchemaGraph.Proofs.Editing.Drawn
import SchemaGraph.Proofs.Editing.Effect
import SchemaGraph.Proofs.Editing.Ensures
import SchemaGraph.Proofs.Editing.Entries
import SchemaGraph.Proofs.Editing.Failing
import SchemaGraph.Proofs.Editing.Free
import SchemaGraph.Proofs.Editing.Ids
import SchemaGraph.Proofs.Editing.Independent
import SchemaGraph.Proofs.Editing.Link
import SchemaGraph.Proofs.Editing.Linked
import SchemaGraph.Proofs.Editing.Load
import SchemaGraph.Proofs.Editing.LoadRefused
import SchemaGraph.Proofs.Editing.Refused
import SchemaGraph.Proofs.Editing.Rename
import SchemaGraph.Proofs.Editing.Typed
import SchemaGraph.Proofs.Editing.Update
import SchemaGraph.Proofs.Editing.Wiring
import SchemaGraph.Proofs.Layout.BackEdges
import SchemaGraph.Proofs.Layout.Barycenter
import SchemaGraph.Proofs.Layout.Boxes
import SchemaGraph.Proofs.Layout.Columns
import SchemaGraph.Proofs.Layout.Defined
import SchemaGraph.Proofs.Layout.Layers
import SchemaGraph.Proofs.Layout.LongestPath
import SchemaGraph.Proofs.Layout.Lookups
import SchemaGraph.Proofs.Layout.NewIds
import SchemaGraph.Proofs.Layout.Placement
import SchemaGraph.Proofs.Layout.Ranking
import SchemaGraph.Proofs.Layout.Relabeled
import SchemaGraph.Proofs.Layout.Restyled
import SchemaGraph.Proofs.Layout.Routes
import SchemaGraph.Proofs.Layout.Search
import SchemaGraph.Proofs.Layout.Tallies
import SchemaGraph.Proofs.Layout.Total
import SchemaGraph.Proofs.Partial
import SchemaGraph.Proofs.Project.Calls
import SchemaGraph.Proofs.Project.History
import SchemaGraph.Proofs.Project.Recency
import SchemaGraph.Proofs.Project.Runs
import SchemaGraph.Proofs.Project.Steps
import SchemaGraph.Proofs.Project.Store
import SchemaGraph.Proofs.Relationship.Between
import SchemaGraph.Proofs.Relationship.Derived
import SchemaGraph.Proofs.Relationship.DerivedIds
import SchemaGraph.Proofs.Relationship.Ends
import SchemaGraph.Proofs.Relationship.Mark
import SchemaGraph.Proofs.Relationship.Redrawn
import SchemaGraph.Proofs.Relationship.References
import SchemaGraph.Proofs.Relationship.Rules
import SchemaGraph.Proofs.Relationship.Selected
import SchemaGraph.Proofs.Relationship.Signatures
import SchemaGraph.Proofs.Relationship.Turned
import SchemaGraph.Proofs.Schema.Deep
import SchemaGraph.Proofs.Schema.Outline
import SchemaGraph.Proofs.Schema.Stored
import SchemaGraph.Proofs.Schema.Written
import SchemaGraph.Proofs.Service.Answers
import SchemaGraph.Proofs.Service.Commands
import SchemaGraph.Proofs.Service.Snapshots
import SchemaGraph.Proofs.Snapshot.Refused
import SchemaGraph.Proofs.Snapshot.RoundTrip
import SchemaGraph.Proofs.Text.Forms
import SchemaGraph.Proofs.Text.Words
import SchemaGraph.Proofs.Validation.Names
import SchemaGraph.Proofs.Validation.Repeats
import SchemaGraph.Relationship
import SchemaGraph.Schema.Basic
import SchemaGraph.Schema.Check
import SchemaGraph.Service.Message
import SchemaGraph.Service.Route
import SchemaGraph.Service.Server
import SchemaGraph.Session
import SchemaGraph.Snapshot.Reader
import SchemaGraph.Snapshot.Writer
import SchemaGraph.Template
import SchemaGraph.Text.Case.Table
import SchemaGraph.Text.Encoding
import SchemaGraph.Text.Normal
import SchemaGraph.Text.Printable
import SchemaGraph.Text.Symbol
import SchemaGraph.Validation
import SchemaGraph.Yaml.Meaning
import SchemaGraph.Yaml.Node
import SchemaGraph.Yaml.Number
import SchemaGraph.Yaml.Property
import SchemaGraph.Yaml.Scalar
import SchemaGraph.Yaml.Source
import SchemaGraph.Yaml.Tag
import SchemaGraph.Yaml.Time
import SchemaGraph.Yaml.Token
import SchemaGraph.Yaml.Value
