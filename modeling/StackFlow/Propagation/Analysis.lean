import StackFlow.FlowGraph.BackEdges
import StackFlow.Propagation.Worklist

/-!
# Analysis of a method

The analysis takes the edges that close loops out of the graph, propagates states through what is
left, and keeps the removed edges, so that loops can be checked afterwards.
-/

namespace StackFlow

/-- What an analysis finds out about a method. -/
structure Analysis where
  /-- What is known about each node; nothing about those that were never visited. -/
  properties : Array (Option StackProperty)
  /-- The edges that were taken out because they close loops. -/
  backEdges : List Edge := []
  metrics : Metrics
  /-- The number of local variables that were given a name. -/
  registeredLocals : Nat
  /-- What was told on the way, in order. -/
  log : List Event

namespace Analysis

/-- What is known about a node. -/
def property? (analysis : Analysis) (id : NodeId) : Option StackProperty :=
  (analysis.properties[id]?).join

/-- The visited nodes with what is known about them, in the order of their numbers. -/
def analyzed (analysis : Analysis) : List (NodeId × StackProperty) :=
  (List.range analysis.properties.size).filterMap fun id =>
    (analysis.property? id).map fun property => (id, property)

/-- The result of a finished propagation. -/
def ofPropagation (graph : FlowGraph) (propagation : Propagation) : Analysis :=
  let metrics := propagation.metrics
  { properties := propagation.properties
    metrics
    registeredLocals := propagation.names.registeredCount
    log := propagation.log.toList ++
      [.finished metrics.analyzedNodes graph.nodeCount metrics.erroredNodes metrics.maxStackSize] }

end Analysis

/-- Analyzes a method whose graph has no loops, or none left. -/
def analyzeAcyclic (method : Method) (graph : FlowGraph) (settings : Settings) :
    Except Error Analysis :=
  match graph.validate method with
  | .error error => .error error
  | .ok () => .ok (.ofPropagation graph (.final { method, graph, settings }))

/-- Analyzes a method whose graph may have loops, and gives the graph without the edges that the
finder picks. A graph that refers to missing instructions is rejected before anything is removed. -/
def analyze (method : Method) (graph : FlowGraph) (finder : BackEdgeFinder) (settings : Settings) :
    Except Error (Analysis × FlowGraph) :=
  match graph.validate method with
  | .error error => .error error
  | .ok () =>
    let (backEdges, graph) := graph.removeBackEdges finder
    match analyzeAcyclic method graph settings with
    | .error error => .error error
    | .ok analysis =>
      .ok ({ analysis with
        backEdges
        log := .removedBackEdges backEdges.length :: analysis.log }, graph)

end StackFlow
