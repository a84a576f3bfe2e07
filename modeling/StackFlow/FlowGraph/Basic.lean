import StackFlow.Method

/-!
# Flow graphs

A flow graph has a node for each instruction, and may have synthetic nodes besides; its edges say
which node control can go to next. Nodes and edges are numbered in the order in which they are
added. A removed edge leaves a hole behind, so that no number is ever used twice.

Each node lists the edges that enter and leave it, in the order of their numbers.
-/

namespace StackFlow

/-- The shape of a node. -/
inductive NodeKind where
  | simple | branch | switch | return | invoke | fieldGet | start | exit
deriving Repr, DecidableEq

/-- The shape of an instruction's node. -/
def NodeKind.ofOpcode : Opcode → NodeKind
  | .tableSwitch | .lookupSwitch => .switch
  | .getField | .getStatic => .fieldGet
  | .ifZero _ | .ifInts _ | .ifReferences _ | .ifNull | .ifNonNull => .branch
  | .returnValue _ | .returnVoid | .throw => .return
  | .invoke _ => .invoke
  | _ => .simple

/-- A node of a flow graph. -/
structure Node where
  /-- The offset of the node's instruction. Synthetic nodes choose one. -/
  offset : Nat
  mnemonic : String
  kind : NodeKind
  /-- The index of the node's instruction in the method. Synthetic nodes have none. -/
  instruction : Option Nat
  /-- The edges that lead to the node. -/
  incoming : List EdgeId := []
  /-- The edges that leave the node. -/
  outgoing : List EdgeId := []
deriving Repr, DecidableEq

namespace Node

/-- The node of the instruction at an index. -/
def ofInstruction (index : Nat) (instruction : Instruction) : Node :=
  { offset := instruction.offset
    mnemonic := instruction.opcode.mnemonic
    kind := .ofOpcode instruction.opcode
    instruction := some index }

/-- A node without an instruction. -/
def synthetic (kind : NodeKind) (offset : Nat) : Node :=
  { offset
    mnemonic := match kind with
      | .start => "start"
      | .exit => "exit"
      | _ => ""
    kind
    instruction := none }

end Node

/-- An edge of a flow graph. -/
structure Edge where
  source : NodeId
  target : NodeId
deriving Repr, DecidableEq

/-- A directed graph of nodes and edges. -/
structure FlowGraph where
  nodes : Array Node := #[]
  /-- The edges by number; a removed edge is `none`. -/
  edges : Array (Option Edge) := #[]
deriving Repr, DecidableEq

/-- A computation with a graph as its state, which is still there after an error. -/
abbrev GraphEdit := ExceptT Error (StateM FlowGraph)

namespace GraphEdit

variable {α : Type}

/-- The result of an edit and the graph after it. -/
def runOn (edit : GraphEdit α) (graph : FlowGraph) : Except Error α × FlowGraph :=
  edit.run.run graph

/-- The result of an edit and the graph after it, unless the edit fails. -/
def outcome (edit : GraphEdit α) (graph : FlowGraph) : Except Error (α × FlowGraph) :=
  match edit.runOn graph with
  | (.ok value, after) => .ok (value, after)
  | (.error error, _) => .error error

end GraphEdit

namespace FlowGraph

/-- The graph without nodes. -/
def empty : FlowGraph := {}

instance : Inhabited FlowGraph := ⟨empty⟩

/-- The node of a number. -/
def node? (graph : FlowGraph) (id : NodeId) : Option Node := graph.nodes[id]?

/-- The edge of a number, unless it was removed. -/
def edge? (graph : FlowGraph) (id : EdgeId) : Option Edge := (graph.edges[id]?).join

/-- The number of nodes. -/
def nodeCount (graph : FlowGraph) : Nat := graph.nodes.size

/-- The numbers of all nodes. -/
def nodeIds (graph : FlowGraph) : List NodeId := List.range graph.nodeCount

/-- The edges that were not removed, with their numbers. -/
def liveEdges (graph : FlowGraph) : List (EdgeId × Edge) :=
  (List.range graph.edges.size).filterMap fun id => (graph.edge? id).map fun edge => (id, edge)

/-- One more than the greatest number of an edge that was not removed, or zero if there is none. -/
def edgeSlots (graph : FlowGraph) : Nat :=
  (graph.liveEdges.map fun (id, _) => id + 1).max?.getD 0

/-- The number of edges that were not removed. -/
def edgeCount (graph : FlowGraph) : Nat := graph.liveEdges.length

/-- The edges that enter a node. -/
def incoming (graph : FlowGraph) (id : NodeId) : List EdgeId :=
  match graph.node? id with
  | some node => node.incoming
  | none => []

/-- The edges that leave a node. -/
def outgoing (graph : FlowGraph) (id : NodeId) : List EdgeId :=
  match graph.node? id with
  | some node => node.outgoing
  | none => []

/-- The targets of the edges that leave a node. -/
def successors (graph : FlowGraph) (id : NodeId) : List NodeId :=
  (graph.outgoing id).filterMap fun edge => (graph.edge? edge).map Edge.target

/-- The sources of the edges that enter a node. -/
def predecessors (graph : FlowGraph) (id : NodeId) : List NodeId :=
  (graph.incoming id).filterMap fun edge => (graph.edge? edge).map Edge.source

/-- The nodes that no edge enters. -/
def roots (graph : FlowGraph) : List NodeId :=
  graph.nodeIds.filter fun id => (graph.incoming id).isEmpty

/-- Adds a node and gives its number. -/
def addNode (graph : FlowGraph) (node : Node) : NodeId × FlowGraph :=
  (graph.nodeCount, { graph with nodes := graph.nodes.push node })

/-- Adds a node for each instruction of a method and gives their numbers. -/
def addInstructionNodes (graph : FlowGraph) (method : Method) : List NodeId × FlowGraph :=
  let added := method.instructions.toList.mapIdx Node.ofInstruction
  (List.range' graph.nodeCount added.length,
    { graph with nodes := graph.nodes ++ added.toArray })

/-- Fails unless the graph has a node. -/
def requireNode (id : NodeId) : GraphEdit Unit := do
  if (← get).nodeCount ≤ id then throw (.unknownNode id)

/-- Changes a node, if the graph has it. -/
def modifyNode (id : NodeId) (change : Node → Node) : GraphEdit Unit :=
  modify fun graph => { graph with nodes := graph.nodes.modify id change }

/-- Adds an edge between two nodes of the graph and gives its number. -/
def addEdgeInPlace (source target : NodeId) : GraphEdit EdgeId := do
  requireNode source
  requireNode target
  let id := (← get).edges.size
  modify fun graph => { graph with edges := graph.edges.push (some ⟨source, target⟩) }
  modifyNode source fun node => { node with outgoing := node.outgoing ++ [id] }
  modifyNode target fun node => { node with incoming := node.incoming ++ [id] }
  return id

/-- Takes an edge out of its slot, which is empty from then on, and gives the edge. -/
def takeEdge (id : EdgeId) : GraphEdit (Option Edge) :=
  modifyGet fun graph =>
    (graph.edge? id, { graph with edges := graph.edges.setIfInBounds id none })

/-- Removes an edge and gives it. -/
def removeEdgeInPlace (id : EdgeId) : GraphEdit Edge := do
  let some edge ← takeEdge id | throw (.unknownEdge id)
  modifyNode edge.source fun node => { node with outgoing := node.outgoing.filter (· ≠ id) }
  modifyNode edge.target fun node => { node with incoming := node.incoming.filter (· ≠ id) }
  return edge

/-- The number of an added edge and the graph with it. -/
def addEdge (graph : FlowGraph) (source target : NodeId) : Except Error (EdgeId × FlowGraph) :=
  (addEdgeInPlace source target).outcome graph

/-- A removed edge and the graph without it. -/
def removeEdge (graph : FlowGraph) (id : EdgeId) : Except Error (Edge × FlowGraph) :=
  (removeEdgeInPlace id).outcome graph

/-- The first node that refers to an instruction which a method with `count` instructions does not
have, with the index that it refers to. -/
def firstDangling? (graph : FlowGraph) (count : Nat) : Option (NodeId × Nat) :=
  graph.nodeIds.findSome? fun id => do
    let index ← (← graph.node? id).instruction
    if count ≤ index then some (id, index) else none

/-- Checks that each node refers to an instruction that the method has. -/
def validate (graph : FlowGraph) (method : Method) : Except Error Unit :=
  match graph.firstDangling? method.instructions.size with
  | none => .ok ()
  | some (id, index) => .error (.unknownInstruction id index)

end FlowGraph

end StackFlow
