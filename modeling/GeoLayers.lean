import GeoLayers.Main
import GeoLayers.Server.Respond
import GeoLayers.Proofs.Geometry.Roles
import GeoLayers.Proofs.Where.NestedQuery
import GeoLayers.Proofs.Where.Rewriting
import GeoLayers.Proofs.Where.RoundTrip
import GeoLayers.Proofs.Where.WholeText
import GeoLayers.Proofs.Query.Binding
import GeoLayers.Proofs.Query.TableFlags
import GeoLayers.Proofs.Query.Placeholders
import GeoLayers.Proofs.Query.Paging
import GeoLayers.Proofs.Query.TablePages
import GeoLayers.Proofs.Query.Grouping
import GeoLayers.Proofs.Query.CountPage
import GeoLayers.Proofs.Settings.Limits
import GeoLayers.Proofs.Query.Resolution
import GeoLayers.Proofs.Edit.Isolation
import GeoLayers.Proofs.Edit.Effect
import GeoLayers.Proofs.Edit.WholeNumbers
import GeoLayers.Proofs.Classification.Breaks
import GeoLayers.Proofs.Classification.Optimal
import GeoLayers.Proofs.Query.Counting
import GeoLayers.Proofs.Geometry.Placement
import GeoLayers.Proofs.Database.Permission
import GeoLayers.Proofs.Server.Reading
import GeoLayers.Proofs.Catalog.Questions
import GeoLayers.Proofs.Server.Validation
import GeoLayers.Proofs.Server.Guard
import GeoLayers.Proofs.Geometry.Wkt.Scan
import GeoLayers.Proofs.Geometry.Closed
import GeoLayers.Proofs.Geometry.ReadBack
import GeoLayers.Proofs.Geometry.Vertices
import GeoLayers.Proofs.Geometry.Oriented
import GeoLayers.Proofs.Edit.Insertion
import GeoLayers.Proofs.Edit.Assignment
import GeoLayers.Proofs.Classification.Values
import GeoLayers.Proofs.Registry.Acceptance
import GeoLayers.Proofs.Classification.Quantile
import GeoLayers.Proofs.Catalog.Memory
import GeoLayers.Proofs.Query.TableText
import GeoLayers.Proofs.Calendar.Texts
import GeoLayers.Proofs.Statement.Quote
import GeoLayers.Proofs.Edit.SentBack
