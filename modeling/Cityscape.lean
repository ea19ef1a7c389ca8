import Cityscape.Main
import Cityscape.TileImage.Draw
import Cityscape.TileImage.Equality
import Cityscape.TileImage.Realize
import Cityscape.TileImage.Render
import Cityscape.Proofs.Grid.Storage
import Cityscape.Proofs.Case.Exclusion
import Cityscape.Proofs.Frame.Windows
import Cityscape.Proofs.TileImage.Validity
import Cityscape.Proofs.TileImage.NormalForm
import Cityscape.Proofs.TileImage.Preservation
import Cityscape.Proofs.TileImage.Realization
import Cityscape.Proofs.TileImage.Enumeration
import Cityscape.Proofs.TileImage.Builder
import Cityscape.Proofs.TileImage.Sharing
import Cityscape.Proofs.TileImage.Kind
import Cityscape.Proofs.TileImage.LastVariant
import Cityscape.Proofs.TileImage.Coverage
import Cityscape.Proofs.TileImage.Overlap
import Cityscape.Proofs.TileImage.Stillness
import Cityscape.Proofs.TileImage.Locality
import Cityscape.Proofs.TileImage.NestedSprites
import Cityscape.Proofs.TileImage.Motion
import Cityscape.Proofs.TileImage.Enumerator
import Cityscape.Proofs.TileImage.Clean
import Cityscape.Proofs.Frame.Views
import Cityscape.Proofs.TileSet
import Cityscape.Proofs.Markup.Reading
import Cityscape.Proofs.Markup.Validity
import Cityscape.Proofs.Markup.CellSize
import Cityscape.Proofs.Markup.Truncation
import Cityscape.Proofs.Markup.AttributeOrder
import Cityscape.Proofs.Markup.TileEntries
import Cityscape.Proofs.Markup.ShortForm
import Cityscape.Proofs.CommandLine.Listing
import Cityscape.Proofs.Route.Budget
import Cityscape.Proofs.Route.Shift
import Cityscape.Proofs.Route.History
import Cityscape.Proofs.Traffic.Cheapest
import Cityscape.Proofs.Traffic.Border
import Cityscape.Proofs.Traffic.Flags
import Cityscape.Proofs.Traffic.Everywhere
import Cityscape.Proofs.Traffic.RoadEnd
import Cityscape.Proofs.Traffic.Loading
import Cityscape.Proofs.City.Congestion
import Cityscape.Proofs.City.Invariant
import Cityscape.Proofs.City.Plan
