import StackFlow.FlowGraph.Basic
import StackFlow.Iteration

/-!
# Edges that close loops

A depth-first search finds the edges that lead back to a node which the search is still working on.
It starts at the nodes without predecessors and then at whatever is left, so it also breaks cycles
that no root reaches. The search is a step on a state that holds all there is to know: the colour of
each node, the path from the start to the current node, and the starts still to come.
-/

namespace StackFlow

/-- How far the search is with a node. -/
inductive Colour where
  /-- Not reached yet. -/
  | white
  /-- On the path to the current node. -/
  | grey
  /-- Done, with all that can be reached from it. -/
  | black
deriving Repr, DecidableEq

/-- A node on the path, with the number of its outgoing edges that were looked at. -/
structure Frame where
  node : NodeId
  next : Nat
deriving Repr, DecidableEq

/-- The state of a depth-first search. -/
structure Search where
  colours : Array Colour
  /-- The path to the current node, which comes first. -/
  frames : List Frame := []
  /-- The nodes to start from when the path is empty. -/
  starts : List NodeId
  /-- The edges found to close loops, newest first. -/
  found : List EdgeId := []
deriving Repr, DecidableEq

namespace Search

/-- The search before its first step. -/
def initial (graph : FlowGraph) : Search :=
  { colours := Array.replicate graph.nodeCount .white
    starts := graph.roots ++ graph.nodeIds }

/-- Whether a node has a colour. -/
def hasColour (search : Search) (node : NodeId) (colour : Colour) : Bool :=
  search.colours[node]? == some colour

/-- Begins the work on a node that was not reached yet. -/
def enter (search : Search) (node : NodeId) : Search :=
  { search with
    colours := search.colours.setIfInBounds node .grey
    frames := ⟨node, 0⟩ :: search.frames }

/-- Looks at the edge to a node: a new node is entered, and a node on the path shows that the edge
closes a loop. -/
def follow (search : Search) (id : EdgeId) (target : NodeId) : Search :=
  if search.hasColour target .white then search.enter target
  else if search.hasColour target .grey then { search with found := id :: search.found }
  else search

/-- One step: starts anew if the path is empty, looks at the next edge of the current node, or
leaves the node if there is none. -/
def step (graph : FlowGraph) (search : Search) : Search :=
  match search.frames with
  | [] =>
    match search.starts with
    | [] => search
    | start :: starts =>
      let search := { search with starts }
      if search.hasColour start .white then search.enter start else search
  | frame :: frames =>
    match (graph.outgoing frame.node)[frame.next]? with
    | some id =>
      let search := { search with frames := { frame with next := frame.next + 1 } :: frames }
      match graph.edge? id with
      | some edge => search.follow id edge.target
      | none => search
    | none =>
      { search with
        colours := search.colours.setIfInBounds frame.node .black
        frames }

/-- A number of steps after which the search is over: each start is taken once, each node is left
once, and each edge is looked at once. -/
def stepBound (graph : FlowGraph) : Nat := 3 * graph.nodeCount + graph.edges.size

end Search

/-- An algorithm that picks the edges which close loops. -/
abbrev BackEdgeFinder := FlowGraph → List EdgeId

namespace FlowGraph

/-- The edges that close loops by depth-first search, in the order in which they are found. -/
def depthFirstBackEdges : BackEdgeFinder := fun graph =>
  (iterate (Search.step graph) (Search.stepBound graph) (.initial graph)).found.reverse

/-- Removes edges by number and gives those that were there, in order. -/
def removeEdges (graph : FlowGraph) : List EdgeId → List Edge × FlowGraph
  | [] => ([], graph)
  | id :: ids =>
    match (removeEdgeInPlace id).runOn graph with
    | (.error _, graph) => graph.removeEdges ids
    | (.ok edge, graph) =>
      let (edges, graph) := graph.removeEdges ids
      (edge :: edges, graph)

/-- Removes the edges that a finder picks and gives those that were there. -/
def removeBackEdges (graph : FlowGraph) (finder : BackEdgeFinder) : List Edge × FlowGraph :=
  graph.removeEdges (finder graph)

end FlowGraph

end StackFlow
