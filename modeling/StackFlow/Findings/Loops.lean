import StackFlow.Findings.Types

/-!
# Findings about loops

Loops are not gone through again during the analysis. Instead, the states that go back along each
removed edge are compared with those with which the loop's header was entered: a loop is consistent
if it comes back to its header with types with which it was entered.
-/

namespace StackFlow

namespace ReportInput

/-- What is observed about the loop that an edge closes, given what is known about the header and
the node that closes the loop. -/
def loopObservations (label : LoopLabel) (header source : Option StackProperty) :
    List Observation :=
  match header, source with
  | some entry, some back =>
    if back.isErrored then [.loopNotAnalyzed label]
    else
      let mismatches := back.statesAfter.states.filter fun state =>
        !entry.statesBefore.layouts.contains state.types
      if mismatches.isEmpty then [.loopConsistent label]
      else mismatches.map fun state => .loopMismatch label state.signature
  | _, _ => [.loopNotAnalyzed label]

/-- The findings about the loop that an edge closes. They are about its header. -/
def edgeLoopFindings (input : ReportInput) (edge : Edge) : List Finding :=
  match input.graph.node? edge.source, input.graph.node? edge.target with
  | some source, some header =>
    (loopObservations ⟨source.offset, header.offset⟩ (input.analysis.property? edge.target)
      (input.analysis.property? edge.source)).map fun observation =>
        ⟨some (header.site edge.target), observation⟩
  | _, _ => []

/-- The findings about loops. -/
def loopFindings (input : ReportInput) : List Finding :=
  input.analysis.backEdges.flatMap input.edgeLoopFindings

end ReportInput

end StackFlow
