import Charting.Main
import Charting.Numeric.Exact
import Charting.Proofs.Data.Selection
import Charting.Proofs.Interaction.ParamStore
import Charting.Proofs.Data.Aggregation
import Charting.Proofs.Scene.Preparation
import Charting.Proofs.Scene.Sources
import Charting.Proofs.Mark.Drawing
import Charting.Proofs.Scene.Facet
import Charting.Proofs.Scene.Rows
import Charting.Proofs.Interaction.AllOrNothing
import Charting.Proofs.Data.Order
import Charting.Proofs.Mark.Order
import Charting.Proofs.Scene.Groups
import Charting.Proofs.Mark.Congruence
import Charting.Proofs.Encoding.Resolution
import Charting.Proofs.Scene.Faceting
import Charting.Proofs.Scene.FacetTypes
import Charting.Proofs.Numeric.Double
import Charting.Proofs.Scene.LegendStacks
import Charting.Proofs.Scene.Alignment
import Charting.Proofs.Interaction.Controls
import Charting.Proofs.Data.Filtering
import Charting.Proofs.Data.Names
import Charting.Proofs.Encoding.Reading
import Charting.Proofs.Document.Filters
import Charting.Proofs.Document.Spellings
import Charting.Proofs.Time.Calendar
import Charting.Proofs.Time.Timestamp
import Charting.Proofs.Graphics.Reader
import Charting.Proofs.Graphics.Pictures
import Charting.Proofs.Scale.Domains
import Charting.Proofs.Scale.TickLabels
import Charting.Proofs.Indexed.Run
import Charting.Proofs.Scale.LinearTicks
import Charting.Proofs.Time.TickBoundaries
import Charting.Proofs.Time.NiceDomains
import Charting.Proofs.Scene.FacetGrids
import Charting.Proofs.Mark.DrawOrder
import Charting.Proofs.Mark.Series
import Charting.Proofs.Data.GroupTables
import Charting.Proofs.Scale.Bands
import Charting.Proofs.Guide.Legends
import Charting.Proofs.Scene.LegendGaps
import Charting.Proofs.Data.Pushing
import Charting.Proofs.Data.Records
import Charting.Proofs.Data.Keys
import Charting.Proofs.Interaction.UnreadParams
import Charting.Proofs.Graphics.LegendBodies
import Charting.Proofs.Encoding.Inference
import Charting.Proofs.Scene.CellLookup
import Charting.Proofs.Numeric.Comparison
import Charting.Proofs.Time.Numerals
import Charting.Proofs.Data.Comparison
