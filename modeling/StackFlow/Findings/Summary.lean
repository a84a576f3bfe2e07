import StackFlow.Findings.Basic

/-!
# Findings about the method as a whole

The numbers that sum up an analysis.
-/

namespace StackFlow

namespace ReportInput

/-- The numbers that sum up an analysis, with what they count. -/
def statistics (input : ReportInput) : List (String × Nat) :=
  let metrics := input.analysis.metrics
  [("nodes", input.graph.nodeCount),
    ("analyzed nodes", metrics.analyzedNodes),
    ("errored nodes", metrics.erroredNodes),
    ("back edges", input.analysis.backEdges.length),
    ("max stack size", metrics.maxStackSize),
    ("declared max stack", input.maxStack),
    ("max states per node", metrics.maxStatesPerNode),
    ("max entries per state", metrics.maxEntriesPerState),
    ("synthetic local names", input.analysis.registeredLocals)]

/-- The findings about the method as a whole. -/
def summaryFindings (input : ReportInput) : List Finding :=
  input.statistics.map fun (what, count) => ⟨none, .statistic what count⟩

end ReportInput

end StackFlow
