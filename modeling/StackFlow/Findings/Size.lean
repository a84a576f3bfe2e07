import StackFlow.Findings.Basic

/-!
# Findings about stack sizes

For each node of the graph: the sizes of the stacks before it, whether its instruction failed,
whether a stack is larger than declared, and whether something is left when the method ends.
-/

namespace StackFlow

namespace StateSet

/-- The different sizes of the states in words, in ascending order. -/
def sizes (set : StateSet) : List Nat :=
  (set.states.map StackState.sizeInWords).eraseDups.mergeSort

end StateSet

namespace StackProperty

/-- What the sizes before a node say. -/
def sizeObservation (property : StackProperty) : Observation :=
  let sizes := property.statesBefore.sizes
  if 1 < sizes.length then .inconsistentSizes sizes else .stackSize sizes

/-- The size of the largest state before or after a node. -/
def largest (property : StackProperty) : Nat :=
  max property.statesBefore.maxSizeInWords property.statesAfter.maxSizeInWords

/-- The number of states after a node with something left. A thrown exception is not counted. -/
def leftover (property : StackProperty) (throws : Bool) : Nat :=
  (property.statesAfter.states.filter fun state =>
    !state.isEmpty && !(throws && state.length == 1)).length

/-- Whether the instruction of a node throws. -/
def throws (method : Method) (node : Node) : Bool :=
  match method.instruction? node.instruction with
  | some instruction => instruction.opcode == .throw
  | none => false

/-- What is observed about the sizes around a node. -/
def sizeObservations (property : StackProperty) (input : ReportInput) (node : Node) :
    List Observation :=
  let failure := match property.error with
    | some error => [.underflow error]
    | none => []
  let excess :=
    if input.maxStack < property.largest then
      [.exceedsMaxStack property.largest input.maxStack]
    else []
  let count := property.leftover (throws input.method node)
  let remains := if node.kind = .return ∧ 0 < count then [.notEmptyOnExit count] else []
  property.sizeObservation :: failure ++ excess ++ remains

end StackProperty

namespace ReportInput

/-- The findings about the sizes around a node. -/
def nodeSizeFindings (input : ReportInput) (id : NodeId) (node : Node) : List Finding :=
  let observations := match input.analysis.property? id with
    | some property => property.sizeObservations input node
    | none => [.notAnalyzed]
  observations.map fun observation => ⟨some (node.site id), observation⟩

/-- The findings about stack sizes. -/
def sizeFindings (input : ReportInput) : List Finding :=
  (input.graph.nodes.toList.mapIdx input.nodeSizeFindings).flatten

end ReportInput

end StackFlow
