import StackFlow.Findings.Basic

/-!
# Findings about content

For each visited node: the states before and after it. Where edges meet, a state that arrives along
more than one of them hints that the branches compute the same, so that one of them may be dead.
-/

namespace StackFlow

namespace ReportInput

/-- Whether a predecessor hands on a state. -/
def delivers (input : ReportInput) (predecessor : NodeId) (state : StackState) : Bool :=
  match input.analysis.property? predecessor with
  | some property => property.statesAfter.contains state
  | none => false

/-- The number of edges along which a state arrives at a node. -/
def arrivals (input : ReportInput) (id : NodeId) (state : StackState) : Nat :=
  ((input.graph.predecessors id).filter fun predecessor =>
    input.delivers predecessor state).length

/-- The states that arrive at a node along more than one edge. -/
def repeatedArrivals (input : ReportInput) (id : NodeId) (property : StackProperty) :
    List Observation :=
  if (input.graph.predecessors id).length < 2 then []
  else property.statesBefore.states.filterMap fun state =>
    if 1 < input.arrivals id state then
      some (.repeatedArrival state.signature (input.arrivals id state))
    else none

/-- The findings about content. -/
def contentFindings (input : ReportInput) : List Finding :=
  input.analyzedNodes.flatMap fun (id, node, property) =>
    (.content property.statesBefore.signatures property.statesAfter.signatures ::
      input.repeatedArrivals id property).map fun observation =>
        ⟨some (node.site id), observation⟩

end ReportInput

end StackFlow
