import StackFlow.Effect.Warnings
import StackFlow.Iteration
import StackFlow.Propagation.Property
import StackFlow.Propagation.RootStates

/-!
# Propagation of stack states

States flow from the roots along the edges. A node is visited once all edges that enter it have been
crossed: the states that its predecessors hand on are merged, and each of them is run through the
node's instruction. If the instruction fails on one of them, the node's outgoing edges are never
crossed, and what lies behind it is not visited.

Nodes to look at are kept on a list; a node whose edges have not all been crossed is dropped from it
and comes back with the edge that is crossed last. One look at the list is a step, so the whole
propagation is a step repeated often enough.
-/

namespace StackFlow

/-- What states are propagated through. -/
structure Problem where
  method : Method
  graph : FlowGraph
  settings : Settings

/-- The state of a propagation. -/
structure Propagation where
  /-- The nodes to look at, the next one first. -/
  worklist : List NodeId
  /-- What is known about each node so far. -/
  properties : Array (Option StackProperty)
  /-- Which edges have been crossed, by number up to the greatest in use. -/
  crossed : Array Bool
  names : LocalNames
  metrics : Metrics := {}
  /-- What was told so far, in order. -/
  log : Array Event := #[]

/-- What a visit of a node gives. -/
structure Visit where
  property : StackProperty
  names : LocalNames
  events : List Event

/-- Runs states through a function, in order, until one of them fails. -/
def runStates (run : StackState → Except StackError StackState) (done : StateSet) :
    List StackState → Except StackError StateSet
  | [] => .ok done
  | state :: states =>
    match run state with
    | .error error => .error error
    | .ok result => runStates run (done.insert result).2 states

/-- The warnings of an instruction that is run on states in order until it fails on one of them. -/
def runWarnings (environment : Environment) (instruction : Instruction) :
    List StackState → List Event
  | [] => []
  | state :: states =>
    match interpret environment instruction state with
    | .error _ => instruction.warnings environment.pool false
    | .ok _ =>
      instruction.warnings environment.pool true ++ runWarnings environment instruction states

/-- The property of a node with the given states before it. -/
def nodeProperty (environment : Environment) (method : Method) (node : Node)
    (statesBefore : StateSet) : StackProperty :=
  match method.instruction? node.instruction with
  | none =>
    { instruction := node.instruction, statesBefore, statesAfter := statesBefore, error := none }
  | some instruction =>
    match runStates (interpret environment instruction) .empty statesBefore.states with
    | .ok statesAfter =>
      { instruction := node.instruction, statesBefore, statesAfter, error := none }
    | .error error =>
      { instruction := node.instruction, statesBefore, statesAfter := .empty, error := some error }

namespace Propagation

/-- The propagation before its first step. -/
def initial (problem : Problem) : Propagation :=
  { worklist := problem.graph.roots
    properties := Array.replicate problem.graph.nodeCount none
    crossed := Array.replicate problem.graph.edgeSlots false
    names := { table := problem.method.locals } }

/-- What is known about a node. -/
def property? (propagation : Propagation) (id : NodeId) : Option StackProperty :=
  (propagation.properties[id]?).join

/-- Whether all edges that enter a node have been crossed. -/
def isReady (propagation : Propagation) (node : Node) : Bool :=
  node.incoming.all fun edge => propagation.crossed[edge]? == some true

/-- The states that the predecessors of a node hand on, merged in the order of the edges. -/
def mergedStates (propagation : Propagation) (graph : FlowGraph) (id : NodeId) : StateSet :=
  (graph.predecessors id).foldl
    (fun merged predecessor =>
      match propagation.property? predecessor with
      | some property => merged.extend property.statesAfter.states
      | none => merged)
    .empty

/-- What is told about predecessors that have nothing to hand on. -/
def mergeEvents (propagation : Propagation) (graph : FlowGraph) (id : NodeId) : List Event :=
  (graph.predecessors id).filterMap fun predecessor =>
    match propagation.property? predecessor with
    | some _ => none
    | none => some (.predecessorWithoutStates id predecessor)

/-- Merges the states before a node and runs them through its instruction. -/
def visit (propagation : Propagation) (problem : Problem) (id : NodeId) (node : Node) : Visit :=
  let isRoot := node.incoming.isEmpty
  let names :=
    if isRoot then node.rootNames problem.method problem.settings propagation.names
    else propagation.names
  let statesBefore :=
    if isRoot then node.rootStates problem.method problem.settings
    else propagation.mergedStates problem.graph id
  let arrival :=
    if isRoot then node.rootEvents problem.method problem.settings propagation.names id
    else propagation.mergeEvents problem.graph id
  let environment : Environment :=
    { pool := problem.method.pool, names, placeholder := problem.settings.placeholder }
  let property := nodeProperty environment problem.method node statesBefore
  let warnings :=
    match problem.method.instruction? node.instruction with
    | none => []
    | some instruction => runWarnings environment instruction statesBefore.states
  let label : NodeLabel := ⟨id, node.mnemonic, node.offset⟩
  let outcome :=
    match property.error with
    | some error => [.abandoned label error]
    | none => []
  { property
    names
    events := arrival ++ warnings ++
      [.visited label property.statesBefore.length property.statesAfter.length] ++ outcome }

/-- Crosses edges. -/
def crossAll (crossed : Array Bool) (edges : List EdgeId) : Array Bool :=
  edges.foldl (fun crossed edge => crossed.setIfInBounds edge true) crossed

/-- Visits a node and, unless its instruction failed, crosses its outgoing edges and goes on with
its successors before the rest of the list. -/
def settle (propagation : Propagation) (problem : Problem) (id : NodeId) (node : Node)
    (rest : List NodeId) : Propagation :=
  let visit := propagation.visit problem id node
  let proceeds := !visit.property.isErrored
  { worklist := if proceeds then problem.graph.successors id ++ rest else rest
    properties := propagation.properties.setIfInBounds id (some visit.property)
    crossed :=
      if proceeds then crossAll propagation.crossed node.outgoing else propagation.crossed
    names := visit.names
    metrics := propagation.metrics.record visit.property
    log := propagation.log ++ visit.events.toArray }

/-- Looks at the next node: a node that was visited, or whose edges have not all been crossed, is
dropped from the list. -/
def step (problem : Problem) (propagation : Propagation) : Propagation :=
  match propagation.worklist with
  | [] => propagation
  | id :: rest =>
    match problem.graph.node? id with
    | none => { propagation with worklist := rest }
    | some node =>
      if (propagation.property? id).isSome || !propagation.isReady node then
        { propagation with worklist := rest }
      else propagation.settle problem id node rest

/-- A number of steps after which the list is empty: it starts with the roots, and each edge adds
one node at most once. -/
def stepBound (graph : FlowGraph) : Nat := graph.nodeCount + graph.edges.size

/-- The propagation when all is done. -/
def final (problem : Problem) : Propagation :=
  iterate (step problem) (stepBound problem.graph) (initial problem)

end Propagation

end StackFlow
