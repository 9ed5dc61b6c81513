import ReliableRouting.Proofs.Plan.Selection
import ReliableRouting.Proofs.Route.Growth

/-!
# Looking at more candidates

Unless something is rounded, the candidates of a request for more paths begin with those of a
request for fewer. A path that was selected among the fewer is then selected among the more
as well, as the others come after it and are no cheaper, if only they can all be judged.
-/

namespace ReliableRouting

variable {src dst : Element} {k k' : ℕ}

namespace Router

variable {r : Router} {cs : Constraints}

/-! ### Judging paths in two parts -/

end Router

end ReliableRouting
