import StackFlow.Stack.StateSet

/-!
# What is known about a node

The states before and after a node, and the numbers that sum up all nodes.
-/

namespace StackFlow

/-- What the analysis finds out about a node. -/
structure StackProperty where
  /-- The index of the node's instruction in the method. -/
  instruction : Option Nat
  /-- The states right before the instruction. -/
  statesBefore : StateSet
  /-- The states right after it; none if the instruction failed. -/
  statesAfter : StateSet
  /-- Why the instruction failed on one of the states before it. -/
  error : Option StackError

/-- Whether the instruction of a node failed. -/
def StackProperty.isErrored (property : StackProperty) : Bool := property.error.isSome

/-- Numbers that sum up an analysis. -/
structure Metrics where
  /-- The size of the largest stack in words. -/
  maxStackSize : Nat := 0
  /-- The greatest number of states before or after a node. -/
  maxStatesPerNode : Nat := 0
  /-- The greatest number of entries of a stack. -/
  maxEntriesPerState : Nat := 0
  /-- The number of nodes that have a property. -/
  analyzedNodes : Nat := 0
  /-- The number of nodes whose instruction failed. -/
  erroredNodes : Nat := 0
deriving Repr, DecidableEq

namespace Metrics

/-- Takes a set of states into account. -/
def recordSet (metrics : Metrics) (set : StateSet) : Metrics :=
  { metrics with
    maxStackSize := max metrics.maxStackSize set.maxSizeInWords
    maxStatesPerNode := max metrics.maxStatesPerNode set.length
    maxEntriesPerState := max metrics.maxEntriesPerState set.maxEntries }

/-- Takes a node into account. -/
def record (metrics : Metrics) (property : StackProperty) : Metrics :=
  let counted : Metrics :=
    { metrics with
      analyzedNodes := metrics.analyzedNodes + 1
      erroredNodes := metrics.erroredNodes + if property.isErrored then 1 else 0 }
  (counted.recordSet property.statesBefore).recordSet property.statesAfter

end Metrics

end StackFlow
