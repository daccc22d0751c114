import TransitMap.Bend
import TransitMap.CommandLine.Configuration
import TransitMap.CommandLine.FileAccess
import TransitMap.CommandLine.Options
import TransitMap.CommandLine.Run
import TransitMap.Data.Entries
import TransitMap.Data.Json
import TransitMap.Data.Pretty
import TransitMap.Data.Toml
import TransitMap.Data.Toml.Moment
import TransitMap.Data.Toml.Scalar
import TransitMap.Data.Toml.Table
import TransitMap.Data.Toml.Text
import TransitMap.Data.Value
import TransitMap.Decimal.Real
import TransitMap.Decimal.Scaled
import TransitMap.Decimal.Shortest
import TransitMap.Direction
import TransitMap.Document.Assembly
import TransitMap.Document.Basic
import TransitMap.Drawing.BendPath
import TransitMap.Drawing.Offset
import TransitMap.Drawing.Parallel
import TransitMap.Drawing.Reduction
import TransitMap.Drawing.Schedule
import TransitMap.Drawing.Synthesis
import TransitMap.Drawing.Template
import TransitMap.Drawing.TemplateFile
import TransitMap.Failure
import TransitMap.Layout.Basic
import TransitMap.Layout.Echelon
import TransitMap.Layout.Equality
import TransitMap.Layout.LinearSystem
import TransitMap.Layout.Placement
import TransitMap.Layout.Snapping
import TransitMap.Layout.Stacking
import TransitMap.Main
import TransitMap.Network.Alignment
import TransitMap.Network.Basic
import TransitMap.Network.Endpoint
import TransitMap.Network.Shape
import TransitMap.Palette
import TransitMap.Plane.Cubic
import TransitMap.Plane.Length
import TransitMap.Plane.Mirror
import TransitMap.Plane.Nearest
import TransitMap.Plane.Path
import TransitMap.Plane.Point
import TransitMap.Rendering
import TransitMap.Scalar
import TransitMap.Settings
import TransitMap.Settings.File
import TransitMap.Source.Command
import TransitMap.Source.Complaint
import TransitMap.Source.Diagnostic
import TransitMap.Source.Draft
import TransitMap.Source.Resolution
import TransitMap.Source.Soundness
import TransitMap.Source.Span
import TransitMap.Source.Statement
import TransitMap.Source.Token
import TransitMap.StationIds
import TransitMap.StationIds.File
import TransitMap.Text.Blank
import TransitMap.Text.Bytes
import TransitMap.Text.Escape
import TransitMap.Text.Integer
import TransitMap.Text.Split
import TransitMap.Proofs.Drawing.BendPath
import TransitMap.Proofs.Drawing.Parallel
import TransitMap.Proofs.Drawing.Synthesis
import TransitMap.Proofs.Layout.Alignment
import TransitMap.Proofs.Layout.Search
import TransitMap.Proofs.Layout.Stacking
import TransitMap.Proofs.Drawing.Schedule
import TransitMap.Proofs.Drawing.Readiness
import TransitMap.Proofs.Source.Declaration
import TransitMap.Proofs.Source.Reading
import TransitMap.Proofs.Layout.Position
import TransitMap.Proofs.Document.Assembly
import TransitMap.Proofs.Document.Identifiers
import TransitMap.Proofs.Layout.LinearSystem
import TransitMap.Proofs.Layout.Independence
import TransitMap.Proofs.Layout.Placement
import TransitMap.Proofs.Layout.Sketch
import TransitMap.Proofs.Source.Tiling
import TransitMap.Proofs.Source.LineBreak
import TransitMap.Proofs.Layout.Difference
import TransitMap.Proofs.Layout.Elimination
import TransitMap.Proofs.Layout.Optimum
import TransitMap.Proofs.Layout.Offsets
import TransitMap.Proofs.Layout.Restatement
import TransitMap.Proofs.Layout.Exactness
import TransitMap.Proofs.Layout.Rounding
import TransitMap.Proofs.Layout.Translation
import TransitMap.Proofs.Drawing.Reordering
import TransitMap.Proofs.Source.SharedCommand
import TransitMap.Proofs.Source.SharedDraft
import TransitMap.Proofs.Source.SharedNetwork
import TransitMap.Proofs.Source.Annotation
import TransitMap.Proofs.Source.ConstraintReferences
import TransitMap.Proofs.Source.Labels
import TransitMap.Proofs.Source.References
import TransitMap.Proofs.Layout.UnitPivot
import TransitMap.Proofs.Layout.Meaning
import TransitMap.Proofs.Drawing.Turn
import TransitMap.Proofs.Drawing.Placed
import TransitMap.Proofs.Drawing.Alongside
import TransitMap.Proofs.Drawing.Backward
import TransitMap.Proofs.Source.Connection
import TransitMap.Proofs.Text
import TransitMap.Proofs.Source.Findings
import TransitMap.Proofs.Source.Sum
import TransitMap.Proofs.Source.Spelling
import TransitMap.Proofs.Source.Printing
import TransitMap.Proofs.Source.Fault
import TransitMap.Proofs.Drawing.Precedence
import TransitMap.Proofs.Document.Extent
import TransitMap.Proofs.Network.History
import TransitMap.Proofs.Drawing.Fitting
import TransitMap.Proofs.Plane.Nearest
import TransitMap.Proofs.Source.Items
