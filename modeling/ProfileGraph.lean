import ProfileGraph.Main
import ProfileGraph.Proofs.Accounting
import ProfileGraph.Proofs.Building
import ProfileGraph.Proofs.CallRelation
import ProfileGraph.Proofs.Clamping
import ProfileGraph.Proofs.ComponentWeights
import ProfileGraph.Proofs.Condensation
import ProfileGraph.Proofs.Connections
import ProfileGraph.Proofs.Conservation
import ProfileGraph.Proofs.Countdown
import ProfileGraph.Proofs.Drawings
import ProfileGraph.Proofs.FadedCalls
import ProfileGraph.Proofs.FiniteSnapshots
import ProfileGraph.Proofs.Forests
import ProfileGraph.Proofs.FunctionLines
import ProfileGraph.Proofs.LargestShares
import ProfileGraph.Proofs.LineEndings
import ProfileGraph.Proofs.Magnitudes
import ProfileGraph.Proofs.Mending
import ProfileGraph.Proofs.MostCovered
import ProfileGraph.Proofs.OrderRanks
import ProfileGraph.Proofs.OrderedRounding
import ProfileGraph.Proofs.Orphans
import ProfileGraph.Proofs.Outcomes
import ProfileGraph.Proofs.PatternOrders
import ProfileGraph.Proofs.Payload
import ProfileGraph.Proofs.PruneBounds
import ProfileGraph.Proofs.PruneOutcomes
import ProfileGraph.Proofs.Quotients
import ProfileGraph.Proofs.Rebuilding
import ProfileGraph.Proofs.Recomputing
import ProfileGraph.Proofs.Refusals
import ProfileGraph.Proofs.RemovalErrors
import ProfileGraph.Proofs.RootOutflow
import ProfileGraph.Proofs.Searching
import ProfileGraph.Proofs.SelfCoverageBalance
import ProfileGraph.Proofs.Signs
import ProfileGraph.Proofs.SnapshotFiles
import ProfileGraph.Proofs.StuckNodes
import ProfileGraph.Proofs.Survival
import ProfileGraph.Proofs.Tallies
import ProfileGraph.Proofs.WeightBounds
