import Mathlib.Data.List.Nodup
import StackFlow.FlowGraph.BackEdges

/-!
# Graphs that can be built

A graph is made by a sequence of calls: nodes are added without edges, edges are added between nodes
that are there, and edges are removed. A call that fails changes nothing: an edge is added after its
ends were found, and an edge that is not there leaves an empty slot as empty as it was. Each edge is
kept three times, by number and in the lists of its two ends. `WellFormed` says that the three agree
and that the lists are in ascending order. The empty graph is well-formed and each call keeps it so.
-/

namespace StackFlow

/-- A call that changes a graph. -/
inductive GraphCall where
  | addNode (offset : Nat) (mnemonic : String) (kind : NodeKind) (instruction : Option Nat)
  | addInstructionNodes (method : Method)
  | addEdge (source target : NodeId)
  | removeEdge (id : EdgeId)

/-- The graph after a call, which may have failed. -/
def GraphCall.perform (call : GraphCall) (graph : FlowGraph) : FlowGraph :=
  match call with
  | .addNode offset mnemonic kind instruction =>
    (graph.addNode { offset, mnemonic, kind, instruction }).2
  | .addInstructionNodes method => (graph.addInstructionNodes method).2
  | .addEdge source target => ((FlowGraph.addEdgeInPlace source target).runOn graph).2
  | .removeEdge id => ((FlowGraph.removeEdgeInPlace id).runOn graph).2

namespace GraphEdit

variable {α β : Type} {edit : GraphEdit α} {graph after : FlowGraph}

theorem runOn_bind (edit : GraphEdit α) (next : α → GraphEdit β) (graph : FlowGraph) :
    runOn (edit >>= next) graph =
      match edit.runOn graph with
      | (.ok value, after) => (next value).runOn after
      | (.error error, after) => (.error error, after) := by
  simp only [runOn, ExceptT.run_bind, StateT.run_bind]
  rcases edit.run.run graph with ⟨result, after⟩
  cases result <;> rfl

theorem outcome_eq_ok_iff {value : α} :
    edit.outcome graph = .ok (value, after) ↔ edit.runOn graph = (.ok value, after) := by
  unfold outcome
  split
  · next run => simp [run]
  · next run => simp [run]

theorem outcome_eq_error_iff {error : Error} :
    edit.outcome graph = .error error ↔ ∃ after, edit.runOn graph = (.error error, after) := by
  unfold outcome
  split
  · next run => simp [run]
  · next run => simp [run]

end GraphEdit

namespace FlowGraph

/-! ### What one call does -/

theorem runOn_requireNode_bind {α : Type} (id : NodeId) (next : Unit → GraphEdit α)
    (graph : FlowGraph) :
    GraphEdit.runOn (requireNode id >>= next) graph =
      if graph.nodeCount ≤ id then (.error (.unknownNode id), graph)
      else (next ()).runOn graph := by
  have required : (requireNode id).runOn graph = GraphEdit.runOn
      (if graph.nodeCount ≤ id then throw (.unknownNode id) else pure ()) graph := rfl
  rw [GraphEdit.runOn_bind, required]
  by_cases unknown : graph.nodeCount ≤ id
  · rw [if_pos unknown, if_pos unknown]
    rfl
  · rw [if_neg unknown, if_neg unknown]
    rfl

/-- The graph with a new edge between two of its nodes. -/
def withEdge (graph : FlowGraph) (source target : NodeId) : FlowGraph :=
  let leaving := graph.nodes.modify source fun node =>
    { node with outgoing := node.outgoing ++ [graph.edges.size] }
  let entering := leaving.modify target fun node =>
    { node with incoming := node.incoming ++ [graph.edges.size] }
  { nodes := entering, edges := graph.edges.push (some ⟨source, target⟩) }

/-- The graph without an edge that is in it. -/
def eraseEdge (graph : FlowGraph) (id : EdgeId) (edge : Edge) : FlowGraph :=
  let leaving := graph.nodes.modify edge.source fun node =>
    { node with outgoing := node.outgoing.filter (· ≠ id) }
  let entering := leaving.modify edge.target fun node =>
    { node with incoming := node.incoming.filter (· ≠ id) }
  { nodes := entering, edges := graph.edges.setIfInBounds id none }

theorem runOn_addEdgeInPlace (graph : FlowGraph) (source target : NodeId) :
    (addEdgeInPlace source target).runOn graph =
      if graph.nodeCount ≤ source then (.error (.unknownNode source), graph)
      else if graph.nodeCount ≤ target then (.error (.unknownNode target), graph)
      else (.ok graph.edges.size, graph.withEdge source target) := by
  rw [addEdgeInPlace, runOn_requireNode_bind, runOn_requireNode_bind]
  rfl

theorem runOn_takeEdge (graph : FlowGraph) (id : EdgeId) :
    (takeEdge id).runOn graph =
      (.ok (graph.edge? id), { graph with edges := graph.edges.setIfInBounds id none }) := rfl

/-- A slot without an edge is empty already, or is not there. -/
theorem setIfInBounds_of_edge?_eq_none {graph : FlowGraph} {id : EdgeId}
    (absent : graph.edge? id = none) : graph.edges.setIfInBounds id none = graph.edges := by
  rw [edge?, Option.join_eq_none_iff] at absent
  apply Array.ext_getElem?
  intro other
  rw [Array.getElem?_setIfInBounds]
  grind

theorem runOn_removeEdgeInPlace_of_none {graph : FlowGraph} {id : EdgeId}
    (absent : graph.edge? id = none) :
    (removeEdgeInPlace id).runOn graph = (.error (.unknownEdge id), graph) := by
  rw [removeEdgeInPlace, GraphEdit.runOn_bind, runOn_takeEdge, absent,
    setIfInBounds_of_edge?_eq_none absent]
  rfl

theorem runOn_removeEdgeInPlace_of_some {graph : FlowGraph} {id : EdgeId} {edge : Edge}
    (known : graph.edge? id = some edge) :
    (removeEdgeInPlace id).runOn graph = (.ok edge, graph.eraseEdge id edge) := by
  rw [removeEdgeInPlace, GraphEdit.runOn_bind, runOn_takeEdge, known]
  rfl

theorem addEdge_eq_ok_iff {graph result : FlowGraph} {source target : NodeId} {id : EdgeId} :
    graph.addEdge source target = .ok (id, result) ↔
      source < graph.nodeCount ∧ target < graph.nodeCount ∧ id = graph.edges.size ∧
        result = graph.withEdge source target := by
  rw [addEdge, GraphEdit.outcome_eq_ok_iff, runOn_addEdgeInPlace]
  split
  · next unknown => simp [Nat.not_lt.2 unknown]
  · next sourceKnown =>
    split
    · next unknown => simp [Nat.not_lt.2 unknown]
    · next targetKnown =>
      simp [Nat.lt_of_not_le sourceKnown, Nat.lt_of_not_le targetKnown, eq_comm]

theorem removeEdge_of_none {graph : FlowGraph} {id : EdgeId} (absent : graph.edge? id = none) :
    graph.removeEdge id = .error (.unknownEdge id) :=
  GraphEdit.outcome_eq_error_iff.2 ⟨_, runOn_removeEdgeInPlace_of_none absent⟩

theorem removeEdge_of_some {graph : FlowGraph} {id : EdgeId} {edge : Edge}
    (known : graph.edge? id = some edge) :
    graph.removeEdge id = .ok (edge, graph.eraseEdge id edge) :=
  GraphEdit.outcome_eq_ok_iff.2 (runOn_removeEdgeInPlace_of_some known)

theorem perform_addEdge_of_ok {graph result : FlowGraph} {source target : NodeId} {id : EdgeId}
    (added : graph.addEdge source target = .ok (id, result)) :
    (GraphCall.addEdge source target).perform graph = result :=
  congrArg Prod.snd (GraphEdit.outcome_eq_ok_iff.1 added)

/-- A call that adds an edge either succeeds or changes nothing. -/
theorem perform_addEdge_cases (graph : FlowGraph) (source target : NodeId) :
    (∃ id, graph.addEdge source target =
        .ok (id, (GraphCall.addEdge source target).perform graph)) ∨
      (GraphCall.addEdge source target).perform graph = graph := by
  simp only [addEdge, GraphEdit.outcome_eq_ok_iff, GraphCall.perform, runOn_addEdgeInPlace]
  split
  · exact .inr rfl
  · split
    · exact .inr rfl
    · exact .inl ⟨_, rfl⟩

theorem perform_removeEdge_of_none {graph : FlowGraph} {id : EdgeId}
    (absent : graph.edge? id = none) : (GraphCall.removeEdge id).perform graph = graph :=
  congrArg Prod.snd (runOn_removeEdgeInPlace_of_none absent)

theorem perform_removeEdge_of_some {graph : FlowGraph} {id : EdgeId} {edge : Edge}
    (known : graph.edge? id = some edge) :
    (GraphCall.removeEdge id).perform graph = graph.eraseEdge id edge :=
  congrArg Prod.snd (runOn_removeEdgeInPlace_of_some known)

/-! ### What many calls do -/

/-- The graph that a sequence of calls makes. -/
def ofCalls (calls : List GraphCall) : FlowGraph :=
  calls.foldl (fun graph call => call.perform graph) .empty

/-- Whether a graph can be made by calls. -/
def Built (graph : FlowGraph) : Prop := ∃ calls, graph = ofCalls calls

theorem Built.perform {graph : FlowGraph} (built : graph.Built) (call : GraphCall) :
    (call.perform graph).Built := by
  rcases built with ⟨calls, rfl⟩
  exact ⟨calls ++ [call], by simp [ofCalls]⟩

theorem Built.eraseEdge {graph : FlowGraph} {id : EdgeId} {edge : Edge} (built : graph.Built)
    (known : graph.edge? id = some edge) : (graph.eraseEdge id edge).Built := by
  rw [← perform_removeEdge_of_some known]
  exact built.perform (.removeEdge id)

/-! ### What can be looked up after a call -/

theorem lt_size_of_edge? {graph : FlowGraph} {id : EdgeId} {edge : Edge}
    (known : graph.edge? id = some edge) : id < graph.edges.size := by
  simp only [edge?, Option.join_eq_some_iff] at known
  exact (Array.getElem?_eq_some_iff.1 known).1

theorem lt_edgeSlots_of_edge? {graph : FlowGraph} {id : EdgeId} {edge : Edge}
    (known : graph.edge? id = some edge) : id < graph.edgeSlots := by
  have live : (id, edge) ∈ graph.liveEdges := by
    apply List.mem_filterMap.2
    exact ⟨id, List.mem_range.2 (lt_size_of_edge? known), by rw [known]; rfl⟩
  exact Nat.lt_of_succ_le (List.le_max?_getD_of_mem (List.mem_map_of_mem live))

theorem node?_eq_none_iff {graph : FlowGraph} {id : NodeId} :
    graph.node? id = none ↔ graph.nodeCount ≤ id :=
  Array.getElem?_eq_none_iff

theorem lt_nodeCount_of_node? {graph : FlowGraph} {id : NodeId} {node : Node}
    (known : graph.node? id = some node) : id < graph.nodeCount :=
  (Array.getElem?_eq_some_iff.1 known).1

theorem exists_node? {graph : FlowGraph} {id : NodeId} (inBounds : id < graph.nodeCount) :
    ∃ node, graph.node? id = some node :=
  ⟨_, Array.getElem?_eq_getElem inBounds⟩

theorem node?_addNode (graph : FlowGraph) (node : Node) (id : NodeId) :
    (graph.addNode node).2.node? id =
      if id = graph.nodeCount then some node else graph.node? id := by
  by_cases isNew : id = graph.nodes.size <;>
    simp [addNode, node?, nodeCount, Array.getElem?_push, isNew]

/-- An added edge shows up in the lists of its ends and changes nothing else about the nodes. -/
theorem node?_of_addEdge {graph result : FlowGraph} {source target : NodeId} {id : EdgeId}
    (added : graph.addEdge source target = .ok (id, result)) (other : NodeId) :
    result.node? other = (graph.node? other).map fun node =>
      { node with
        outgoing := if other = source then node.outgoing ++ [id] else node.outgoing
        incoming := if other = target then node.incoming ++ [id] else node.incoming } := by
  rcases addEdge_eq_ok_iff.1 added with ⟨_, _, rfl, rfl⟩
  simp only [withEdge, node?, Array.getElem?_modify, eq_comm (a := other)]
  by_cases isSource : source = other <;> by_cases isTarget : target = other <;>
    cases graph.nodes[other]? <;> simp [isSource, isTarget]

theorem edge?_of_addEdge {graph result : FlowGraph} {source target : NodeId} {id : EdgeId}
    (added : graph.addEdge source target = .ok (id, result)) (other : EdgeId) :
    result.edge? other = if other = id then some ⟨source, target⟩ else graph.edge? other := by
  rcases addEdge_eq_ok_iff.1 added with ⟨_, _, rfl, rfl⟩
  simp only [withEdge, edge?, Array.getElem?_push]
  by_cases isNew : other = graph.edges.size <;> simp [isNew]

theorem nodeCount_of_addEdge {graph result : FlowGraph} {source target : NodeId} {id : EdgeId}
    (added : graph.addEdge source target = .ok (id, result)) :
    result.nodeCount = graph.nodeCount := by
  rcases addEdge_eq_ok_iff.1 added with ⟨_, _, _, rfl⟩
  simp [withEdge, nodeCount]

/-- A removed edge vanishes from the lists of its ends and changes nothing else about the nodes. -/
theorem node?_eraseEdge (graph : FlowGraph) (id : EdgeId) (edge : Edge) (other : NodeId) :
    (graph.eraseEdge id edge).node? other = (graph.node? other).map fun node =>
      { node with
        outgoing :=
          if other = edge.source then node.outgoing.filter (· ≠ id) else node.outgoing
        incoming :=
          if other = edge.target then node.incoming.filter (· ≠ id) else node.incoming } := by
  simp only [eraseEdge, node?, Array.getElem?_modify, eq_comm (a := other)]
  by_cases isSource : edge.source = other <;> by_cases isTarget : edge.target = other <;>
    cases graph.nodes[other]? <;> simp [isSource, isTarget]

theorem edge?_eraseEdge (graph : FlowGraph) (id : EdgeId) (edge : Edge) (other : EdgeId) :
    (graph.eraseEdge id edge).edge? other = if other = id then none else graph.edge? other := by
  simp only [eraseEdge, edge?, Array.getElem?_setIfInBounds, eq_comm (a := other)]
  by_cases isErased : id = other
  · subst other
    by_cases inBounds : id < graph.edges.size <;> simp [inBounds]
  · simp [isErased]

theorem nodeCount_eraseEdge (graph : FlowGraph) (id : EdgeId) (edge : Edge) :
    (graph.eraseEdge id edge).nodeCount = graph.nodeCount := by
  simp [nodeCount, eraseEdge]

/-! ### Well-formed graphs -/

/-- Says that lists of edges by node hold, in ascending order, the edges with the node at the given
end. -/
structure Lists (graph : FlowGraph) (lists : NodeId → List EdgeId) (endpoint : Edge → NodeId) :
    Prop where
  mem_iff : ∀ node id, id ∈ lists node ↔ ∃ edge, graph.edge? id = some edge ∧ endpoint edge = node
  sorted : ∀ node, (lists node).Pairwise (· < ·)

/-- Says that the edges by number and the edges by node agree. -/
structure WellFormed (graph : FlowGraph) : Prop where
  outgoing : graph.Lists graph.outgoing Edge.source
  incoming : graph.Lists graph.incoming Edge.target
  source_lt : ∀ {id edge}, graph.edge? id = some edge → edge.source < graph.nodeCount
  target_lt : ∀ {id edge}, graph.edge? id = some edge → edge.target < graph.nodeCount

namespace Lists

variable {graph result : FlowGraph} {lists newLists : NodeId → List EdgeId}
  {endpoint : Edge → NodeId} {id : EdgeId} {edge : Edge}

theorem nodup (listed : graph.Lists lists endpoint) (node : NodeId) : (lists node).Nodup :=
  (listed.sorted node).imp Nat.ne_of_lt

theorem exists_edge (listed : graph.Lists lists endpoint) {node : NodeId}
    (member : id ∈ lists node) : ∃ edge, graph.edge? id = some edge ∧ endpoint edge = node :=
  (listed.mem_iff node id).1 member

theorem mem_endpoint (listed : graph.Lists lists endpoint) (known : graph.edge? id = some edge) :
    id ∈ lists (endpoint edge) :=
  (listed.mem_iff _ id).2 ⟨edge, known, rfl⟩

/-- Two nodes that list the same edge are the same. -/
theorem node_unique (listed : graph.Lists lists endpoint) {left right : NodeId}
    (inLeft : id ∈ lists left) (inRight : id ∈ lists right) : left = right := by
  rcases listed.exists_edge inLeft with ⟨leftEdge, leftKnown, rfl⟩
  rcases listed.exists_edge inRight with ⟨rightEdge, rightKnown, rfl⟩
  rw [leftKnown, Option.some.injEq] at rightKnown
  rw [rightKnown]

/-- A new edge goes to the end of one list. -/
theorem insert (listed : graph.Lists lists endpoint) (isNew : ∀ {other edge},
      graph.edge? other = some edge → other < id)
    (edges : ∀ other, result.edge? other = if other = id then some edge else graph.edge? other)
    (appended : ∀ node, newLists node =
      if node = endpoint edge then lists node ++ [id] else lists node) :
    result.Lists newLists endpoint := by
  have old_lt : ∀ {node other}, other ∈ lists node → other < id := by
    intro node other member
    rcases listed.exists_edge member with ⟨_, known, _⟩
    exact isNew known
  have absent : ∀ node, id ∉ lists node := fun node member => Nat.lt_irrefl _ (old_lt member)
  constructor
  · intro node other
    rw [appended, edges]
    by_cases isId : other = id
    · subst other
      by_cases isEnd : node = endpoint edge
      · simp [isEnd]
      · simp [isEnd, absent, eq_comm]
    · have old := listed.mem_iff node other
      by_cases isEnd : node = endpoint edge <;> simp [isEnd, isId] at old ⊢ <;> exact old
  · intro node
    rw [appended]
    split
    · rw [List.pairwise_append]
      refine ⟨listed.sorted node, List.pairwise_singleton _ _, ?_⟩
      intro other member last isLast
      rw [List.mem_singleton.1 isLast]
      exact old_lt member
    · exact listed.sorted node

/-- A removed edge is taken out of one list. -/
theorem erase (listed : graph.Lists lists endpoint) (known : graph.edge? id = some edge)
    (edges : ∀ other, result.edge? other = if other = id then none else graph.edge? other)
    (filtered : ∀ node, newLists node =
      if node = endpoint edge then (lists node).filter (· ≠ id) else lists node) :
    result.Lists newLists endpoint := by
  have elsewhere : ∀ {node}, node ≠ endpoint edge → id ∉ lists node := fun other member =>
    other (listed.node_unique member (listed.mem_endpoint known))
  constructor
  · intro node other
    rw [filtered, edges]
    by_cases isId : other = id
    · subst other
      by_cases isEnd : node = endpoint edge
      · simp [isEnd]
      · simp [isEnd, elsewhere isEnd]
    · have old := listed.mem_iff node other
      by_cases isEnd : node = endpoint edge <;> simp [isEnd, isId] at old ⊢ <;> exact old
  · intro node
    rw [filtered]
    split
    · exact (listed.sorted node).filter _
    · exact listed.sorted node

end Lists

/-- Nodes that are added without edges change no list. -/
theorem WellFormed.of_sameLists {graph result : FlowGraph} (wellFormed : graph.WellFormed)
    (edges : result.edges = graph.edges) (outgoing : result.outgoing = graph.outgoing)
    (incoming : result.incoming = graph.incoming) (grown : graph.nodeCount ≤ result.nodeCount) :
    result.WellFormed := by
  have edge?_eq : result.edge? = graph.edge? := by
    funext id
    simp only [edge?, edges]
  constructor
  · rw [outgoing]
    exact ⟨by simpa only [edge?_eq] using wellFormed.outgoing.mem_iff, wellFormed.outgoing.sorted⟩
  · rw [incoming]
    exact ⟨by simpa only [edge?_eq] using wellFormed.incoming.mem_iff, wellFormed.incoming.sorted⟩
  · intro id edge known
    rw [edge?_eq] at known
    exact Nat.lt_of_lt_of_le (wellFormed.source_lt known) grown
  · intro id edge known
    rw [edge?_eq] at known
    exact Nat.lt_of_lt_of_le (wellFormed.target_lt known) grown

theorem wellFormed_empty : empty.WellFormed := by
  constructor
  · constructor <;> simp [FlowGraph.outgoing, node?, edge?, empty]
  · constructor <;> simp [FlowGraph.incoming, node?, edge?, empty]
  · simp [edge?, empty]
  · simp [edge?, empty]

theorem WellFormed.addNode {graph : FlowGraph} (wellFormed : graph.WellFormed) {node : Node}
    (noIncoming : node.incoming = []) (noOutgoing : node.outgoing = []) :
    (graph.addNode node).2.WellFormed := by
  refine wellFormed.of_sameLists rfl ?_ ?_ ?_
  · funext id
    simp only [FlowGraph.outgoing, node?_addNode]
    by_cases isNew : id = graph.nodeCount
    · simp [isNew, noOutgoing, node?_eq_none_iff.2 (Nat.le_refl graph.nodeCount)]
    · simp [isNew]
  · funext id
    simp only [FlowGraph.incoming, node?_addNode]
    by_cases isNew : id = graph.nodeCount
    · simp [isNew, noIncoming, node?_eq_none_iff.2 (Nat.le_refl graph.nodeCount)]
    · simp [isNew]
  · simp [FlowGraph.addNode, nodeCount]

/-- Adding the nodes of a method is adding nodes one by one. -/
theorem addInstructionNodes_eq_foldl (graph : FlowGraph) (method : Method) :
    (graph.addInstructionNodes method).2 =
      (method.instructions.toList.mapIdx Node.ofInstruction).foldl
        (fun graph node => (graph.addNode node).2) graph := by
  have one_by_one : ∀ (nodes : List Node) (graph : FlowGraph),
      nodes.foldl (fun graph node => (graph.addNode node).2) graph =
        { graph with nodes := graph.nodes ++ nodes.toArray } := by
    intro nodes
    induction nodes with
    | nil => simp
    | cons node nodes ih =>
        intro graph
        rw [List.foldl_cons, ih]
        simp [FlowGraph.addNode]
  rw [one_by_one]
  rfl

theorem WellFormed.addInstructionNodes {graph : FlowGraph} (wellFormed : graph.WellFormed)
    (method : Method) : (graph.addInstructionNodes method).2.WellFormed := by
  rw [addInstructionNodes_eq_foldl]
  have noEdges : ∀ node ∈ method.instructions.toList.mapIdx Node.ofInstruction,
      node.incoming = [] ∧ node.outgoing = [] := by
    intro node member
    rcases List.mem_mapIdx.1 member with ⟨index, inBounds, rfl⟩
    exact ⟨rfl, rfl⟩
  generalize method.instructions.toList.mapIdx Node.ofInstruction = nodes at noEdges
  induction nodes generalizing graph with
  | nil => exact wellFormed
  | cons node nodes ih =>
      have first := noEdges node List.mem_cons_self
      apply ih (wellFormed.addNode first.1 first.2)
      intro other member
      exact noEdges other (List.mem_cons_of_mem _ member)

theorem WellFormed.addEdge {graph result : FlowGraph} {source target : NodeId} {id : EdgeId}
    (wellFormed : graph.WellFormed) (added : graph.addEdge source target = .ok (id, result)) :
    result.WellFormed := by
  rcases addEdge_eq_ok_iff.1 added with ⟨source_lt, target_lt, isId, _⟩
  have isNew : ∀ {other edge}, graph.edge? other = some edge → other < id := by
    intro other edge known
    rw [isId]
    exact lt_size_of_edge? known
  have edges := edge?_of_addEdge added
  constructor
  · apply wellFormed.outgoing.insert isNew edges
    intro node
    rcases exists_node? source_lt with ⟨sourceNode, sourceKnown⟩
    simp only [FlowGraph.outgoing, node?_of_addEdge added]
    by_cases isSource : node = source
    · simp [isSource, sourceKnown]
    · cases graph.node? node <;> simp [isSource]
  · apply wellFormed.incoming.insert isNew edges
    intro node
    rcases exists_node? target_lt with ⟨targetNode, targetKnown⟩
    simp only [FlowGraph.incoming, node?_of_addEdge added]
    by_cases isTarget : node = target
    · simp [isTarget, targetKnown]
    · cases graph.node? node <;> simp [isTarget]
  · intro other edge known
    rw [nodeCount_of_addEdge added]
    rw [edges] at known
    split at known
    · cases known
      exact source_lt
    · exact wellFormed.source_lt known
  · intro other edge known
    rw [nodeCount_of_addEdge added]
    rw [edges] at known
    split at known
    · cases known
      exact target_lt
    · exact wellFormed.target_lt known

theorem WellFormed.eraseEdge {graph : FlowGraph} {id : EdgeId} {edge : Edge}
    (wellFormed : graph.WellFormed) (known : graph.edge? id = some edge) :
    (graph.eraseEdge id edge).WellFormed := by
  have edges := edge?_eraseEdge graph id edge
  have remaining : ∀ {other otherEdge},
      (graph.eraseEdge id edge).edge? other = some otherEdge →
        graph.edge? other = some otherEdge := by
    intro other otherEdge otherKnown
    rw [edges] at otherKnown
    split at otherKnown
    · cases otherKnown
    · exact otherKnown
  constructor
  · apply wellFormed.outgoing.erase known edges
    intro node
    simp only [FlowGraph.outgoing, node?_eraseEdge]
    by_cases isSource : node = edge.source <;> cases graph.node? node <;> simp [isSource]
  · apply wellFormed.incoming.erase known edges
    intro node
    simp only [FlowGraph.incoming, node?_eraseEdge]
    by_cases isTarget : node = edge.target <;> cases graph.node? node <;> simp [isTarget]
  · intro other otherEdge otherKnown
    rw [nodeCount_eraseEdge]
    exact wellFormed.source_lt (remaining otherKnown)
  · intro other otherEdge otherKnown
    rw [nodeCount_eraseEdge]
    exact wellFormed.target_lt (remaining otherKnown)

theorem WellFormed.perform {graph : FlowGraph} (wellFormed : graph.WellFormed)
    (call : GraphCall) : (call.perform graph).WellFormed := by
  cases call with
  | addNode offset mnemonic kind instruction => exact wellFormed.addNode rfl rfl
  | addInstructionNodes method => exact wellFormed.addInstructionNodes method
  | addEdge source target =>
      rcases perform_addEdge_cases graph source target with ⟨id, added⟩ | unchanged
      · exact wellFormed.addEdge added
      · rw [unchanged]
        exact wellFormed
  | removeEdge id =>
      cases known : graph.edge? id with
      | none =>
          rw [perform_removeEdge_of_none known]
          exact wellFormed
      | some edge =>
          rw [perform_removeEdge_of_some known]
          exact wellFormed.eraseEdge known

/-- Every graph that calls can make is well-formed. -/
theorem Built.wellFormed {graph : FlowGraph} (built : graph.Built) : graph.WellFormed := by
  rcases built with ⟨calls, rfl⟩
  suffices kept : ∀ graph : FlowGraph, graph.WellFormed →
      (calls.foldl (fun graph call => call.perform graph) graph).WellFormed from
    kept empty wellFormed_empty
  induction calls with
  | nil => exact fun graph wellFormed => wellFormed
  | cons call calls ih => exact fun graph wellFormed => ih _ (wellFormed.perform call)

/-! ### Removing several edges -/

theorem removeEdges_cons_of_none {graph : FlowGraph} {id : EdgeId} {ids : List EdgeId}
    (absent : graph.edge? id = none) : graph.removeEdges (id :: ids) = graph.removeEdges ids := by
  rw [removeEdges, runOn_removeEdgeInPlace_of_none absent]

theorem removeEdges_cons_of_some {graph : FlowGraph} {id : EdgeId} {ids : List EdgeId}
    {edge : Edge} (known : graph.edge? id = some edge) :
    graph.removeEdges (id :: ids) =
      (edge :: ((graph.eraseEdge id edge).removeEdges ids).1,
        ((graph.eraseEdge id edge).removeEdges ids).2) := by
  rw [removeEdges, runOn_removeEdgeInPlace_of_some known]

/-- Exactly the edges that were to be removed are gone. -/
theorem edge?_removeEdges (graph : FlowGraph) (ids : List EdgeId) (id : EdgeId) :
    (graph.removeEdges ids).2.edge? id = if id ∈ ids then none else graph.edge? id := by
  induction ids generalizing graph with
  | nil => simp [removeEdges]
  | cons first ids ih =>
      cases known : graph.edge? first with
      | none =>
          rw [removeEdges_cons_of_none known, ih]
          by_cases isFirst : id = first
          · simp [isFirst, known]
          · simp [isFirst]
      | some edge =>
          rw [removeEdges_cons_of_some known, ih, edge?_eraseEdge]
          by_cases isFirst : id = first <;> simp [isFirst]

/-- The removed edges are those with one of the numbers. -/
theorem mem_removeEdges {graph : FlowGraph} {ids : List EdgeId} {edge : Edge} :
    edge ∈ (graph.removeEdges ids).1 ↔ ∃ id ∈ ids, graph.edge? id = some edge := by
  induction ids generalizing graph with
  | nil => simp [removeEdges]
  | cons first ids ih =>
      cases known : graph.edge? first with
      | none => simp [removeEdges_cons_of_none known, ih, known]
      | some firstEdge =>
          simp only [removeEdges_cons_of_some known, List.mem_cons, ih, edge?_eraseEdge]
          constructor
          · rintro (rfl | ⟨id, member, found⟩)
            · exact ⟨first, .inl rfl, known⟩
            · split at found
              · cases found
              · exact ⟨id, .inr member, found⟩
          · rintro ⟨id, rfl | member, found⟩
            · left
              rw [known] at found
              exact (Option.some.inj found).symm
            · by_cases isFirst : id = first
              · left
                rw [isFirst, known] at found
                exact (Option.some.inj found).symm
              · exact .inr ⟨id, member, by rw [if_neg isFirst, found]⟩

theorem Built.removeEdges {graph : FlowGraph} (built : graph.Built) (ids : List EdgeId) :
    (graph.removeEdges ids).2.Built := by
  induction ids generalizing graph with
  | nil => exact built
  | cons first ids ih =>
      cases known : graph.edge? first with
      | none =>
          rw [removeEdges_cons_of_none known]
          exact ih built
      | some edge =>
          rw [removeEdges_cons_of_some known]
          exact ih (built.eraseEdge known)

theorem nodeCount_removeEdges (graph : FlowGraph) (ids : List EdgeId) :
    (graph.removeEdges ids).2.nodeCount = graph.nodeCount := by
  induction ids generalizing graph with
  | nil => rfl
  | cons first ids ih =>
      cases known : graph.edge? first with
      | none => rw [removeEdges_cons_of_none known, ih]
      | some edge => rw [removeEdges_cons_of_some known, ih, nodeCount_eraseEdge]

/-- Removing edges changes nothing about a node that does not depend on its lists. -/
theorem map_node?_removeEdges {α : Type} (graph : FlowGraph) (ids : List EdgeId) (id : NodeId)
    (view : Node → α)
    (blind : ∀ node incoming outgoing, view { node with incoming, outgoing } = view node) :
    ((graph.removeEdges ids).2.node? id).map view = (graph.node? id).map view := by
  induction ids generalizing graph with
  | nil => rfl
  | cons first ids ih =>
      cases known : graph.edge? first with
      | none => rw [removeEdges_cons_of_none known, ih]
      | some edge =>
          rw [removeEdges_cons_of_some known, ih, node?_eraseEdge]
          cases graph.node? id with
          | none => rfl
          | some node => exact congrArg some (blind node _ _)

theorem validate_removeEdges (graph : FlowGraph) (method : Method) (ids : List EdgeId) :
    (graph.removeEdges ids).2.validate method = graph.validate method := by
  have instruction (node : NodeId) :
      ((graph.removeEdges ids).2.node? node).bind Node.instruction =
        (graph.node? node).bind Node.instruction := by
    have same := map_node?_removeEdges graph ids node Node.instruction fun _ _ _ => rfl
    simpa only [Option.bind_map, Function.id_comp] using congrArg (Option.bind · id) same
  have dangling : (graph.removeEdges ids).2.firstDangling? method.instructions.size =
      graph.firstDangling? method.instructions.size := by
    simp only [firstDangling?, nodeIds, nodeCount_removeEdges, bind]
    congr 1
    funext id
    rw [← Option.bind_assoc, ← Option.bind_assoc, instruction]
  rw [validate, validate, dangling]

end FlowGraph

end StackFlow
