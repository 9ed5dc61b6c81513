import ReliableRouting.Main
import ReliableRouting.Proofs.Plan.Selection
import ReliableRouting.Proofs.Route.Renaming
import ReliableRouting.Proofs.Route.Usable
import ReliableRouting.Proofs.Plan.Usable
import ReliableRouting.Proofs.Plan.MoreCandidates
import ReliableRouting.Proofs.Network.Additions
import ReliableRouting.Proofs.Plan.Faultless
import ReliableRouting.Proofs.Double.Order
import ReliableRouting.Proofs.Plan.Looser
import ReliableRouting.Proofs.Plan.Listing
import ReliableRouting.Proofs.Plan.RoundTrip
import ReliableRouting.Proofs.Plan.Installation
import ReliableRouting.Network.Building
import ReliableRouting.Proofs.Network.Building
import ReliableRouting.Proofs.Network.Assembly
import ReliableRouting.Proofs.Route.Opposite
import ReliableRouting.Proofs.Route.Labels
import ReliableRouting.Proofs.Policy.Longer
import ReliableRouting.Proofs.Policy.Contributions
import ReliableRouting.Proofs.Policy.Reordering
import ReliableRouting.Proofs.Route.Lexicographic
import ReliableRouting.Proofs.Plan.Bottleneck
import ReliableRouting.Proofs.Network.Capacity
import ReliableRouting.Proofs.Network.Entries
