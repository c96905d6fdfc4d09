import PlotLabels.Hash.Sha3
import PlotLabels.Random.ChaCha
import PlotLabels.Random.Draw
import PlotLabels.Vocabulary
import PlotLabels.Style
import PlotLabels.Label
import PlotLabels.Candidate
import PlotLabels.Text.CodeSet
import PlotLabels.Text.Alphanumeric
import PlotLabels.Text.Cased
import PlotLabels.Text.CaseMap
import PlotLabels.Text.GraphemeExtend
import PlotLabels.Text.Printable
import PlotLabels.Text.Quoted
import PlotLabels.Text.WordCase
import PlotLabels.Decimal.Shortest
import PlotLabels.Decimal.Text
import PlotLabels.Json.Number
import PlotLabels.Json.Value
import PlotLabels.Json.Read
import PlotLabels.Json.Write
import PlotLabels.Json.Decode
import PlotLabels.Error
import PlotLabels.Registry
import PlotLabels.Config
import PlotLabels.Allocator
import PlotLabels.Pool.Record
import PlotLabels.Pool.Decode
import PlotLabels.Pool.Encode
import PlotLabels.Logging.Settings
import PlotLabels.Logging.Targets
import PlotLabels.Command
import PlotLabels.Main
import PlotLabels.Proofs.Label.Compose
import PlotLabels.Proofs.Style.LabelSpace
import PlotLabels.Proofs.Candidate.Words
import PlotLabels.Proofs.Registry.Invariant
import PlotLabels.Proofs.Registry.Insert
import PlotLabels.Proofs.Allocator.Resolve
import PlotLabels.Proofs.Registry.Reachable
import PlotLabels.Proofs.Allocator.Run
import PlotLabels.Proofs.Allocator.Capacity
import PlotLabels.Proofs.Allocator.Order
import PlotLabels.Proofs.Text.WordCase
import PlotLabels.Proofs.Json.Object
import PlotLabels.Proofs.Json.Casing
import PlotLabels.Proofs.Json.Rename
import PlotLabels.Proofs.Pool.RoundTrip
import PlotLabels.Proofs.Seed.Salt
import PlotLabels.Proofs.Text.LowerCase
import PlotLabels.Proofs.Config.Overrides
import PlotLabels.Proofs.Label.Parse
import PlotLabels.Proofs.Logging.Targets
