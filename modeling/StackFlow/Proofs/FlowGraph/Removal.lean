import StackFlow.Proofs.Distinct
import StackFlow.Proofs.FlowGraph.Calls

/-!
# Graphs without some edges

Edges are removed one after the other, and each removal changes the edges by number and the lists of
two nodes. What is left in the end can be said at once: the edges with the given numbers are missing
in all three places, whatever else the numbers are and however often they are given. This holds of
every graph, also of one whose edges by number and edges by node disagree. In a graph that was built
they agree, and what is left of each list is the list without the numbers of the removed edges.
-/

namespace StackFlow

namespace FlowGraph

/-- The edges of a list that are not removed, or do not have the given node at their end. -/
def listWithout (graph : FlowGraph) (removed : List EdgeId) (endpoint : Edge → NodeId)
    (id : NodeId) (listed : List EdgeId) : List EdgeId :=
  listed.filter fun edge => ¬(edge ∈ removed ∧ (graph.edge? edge).map endpoint = some id)

/-- The graph without some edges. They are missing among the edges by number and in the lists of the
nodes that they leave and enter; nothing else is changed. -/
def without (graph : FlowGraph) (removed : List EdgeId) : FlowGraph :=
  { nodes := graph.nodes.mapIdx fun id node =>
      { node with
        outgoing := graph.listWithout removed Edge.source id node.outgoing
        incoming := graph.listWithout removed Edge.target id node.incoming }
    edges := graph.edges.mapIdx fun id edge => if id ∈ removed then none else edge }

variable {graph : FlowGraph} {first : EdgeId} {ids removed : List EdgeId} {edge : Edge}

/-- Graphs are the same if they have the same nodes, and the same edges and holes. -/
theorem ext_node?_edges {left right : FlowGraph} (nodes : ∀ id, left.node? id = right.node? id)
    (edges : ∀ id : EdgeId, left.edges[id]? = right.edges[id]?) : left = right := by
  cases left
  cases right
  simp only [FlowGraph.mk.injEq]
  exact ⟨Array.ext_getElem? nodes, Array.ext_getElem? edges⟩

theorem node?_without (graph : FlowGraph) (removed : List EdgeId) (id : NodeId) :
    (graph.without removed).node? id = (graph.node? id).map fun node =>
      { node with
        outgoing := graph.listWithout removed Edge.source id node.outgoing
        incoming := graph.listWithout removed Edge.target id node.incoming } := by
  simp [without, node?]

theorem getElem?_edges_without (graph : FlowGraph) (removed : List EdgeId) (id : EdgeId) :
    (graph.without removed).edges[id]? =
      (graph.edges[id]?).map fun edge => if id ∈ removed then none else edge := by
  simp [without]

/-- Only the numbers of edges that are there matter. -/
theorem without_congr {others : List EdgeId}
    (same : ∀ id edge, graph.edge? id = some edge → (id ∈ removed ↔ id ∈ others)) :
    graph.without removed = graph.without others := by
  have sameList (endpoint : Edge → NodeId) (id : NodeId) (listed : List EdgeId) :
      graph.listWithout removed endpoint id listed =
        graph.listWithout others endpoint id listed := by
    apply List.filter_congr
    intro listedEdge _
    cases known : graph.edge? listedEdge with
    | none => simp
    | some edge => simp [same listedEdge edge known]
  apply ext_node?_edges
  · simp [node?_without, sameList]
  · intro id
    rw [getElem?_edges_without, getElem?_edges_without]
    cases slot : graph.edges[id]? with
    | none => rfl
    | some found =>
        cases found with
        | none => simp
        | some edge => simp [same id edge (by simp [edge?, slot])]

theorem listWithout_eraseEdge (known : graph.edge? first = some edge) (endpoint : Edge → NodeId)
    (id : NodeId) (listed : List EdgeId) :
    (graph.eraseEdge first edge).listWithout ids endpoint id
        (if id = endpoint edge then listed.filter (· ≠ first) else listed) =
      graph.listWithout (first :: ids) endpoint id listed := by
  by_cases isEnd : id = endpoint edge
  · simp only [listWithout, isEnd, if_true, List.filter_filter]
    apply List.filter_congr
    intro other _
    by_cases isFirst : other = first <;> simp [isFirst, edge?_eraseEdge, known]
  · simp only [listWithout, isEnd, if_false]
    apply List.filter_congr
    intro other _
    by_cases isFirst : other = first
    · simp [isFirst, edge?_eraseEdge, known, Ne.symm isEnd]
    · simp [isFirst, edge?_eraseEdge]

theorem without_eraseEdge (known : graph.edge? first = some edge) :
    (graph.eraseEdge first edge).without ids = graph.without (first :: ids) := by
  apply ext_node?_edges
  · intro id
    rw [node?_without, node?_without, node?_eraseEdge, Option.map_map]
    cases graph.node? id with
    | none => rfl
    | some node =>
        simp only [Option.map_some, Function.comp_apply, listWithout_eraseEdge known Edge.source,
          listWithout_eraseEdge known Edge.target]
  · intro id
    rw [getElem?_edges_without, getElem?_edges_without, eraseEdge,
      Array.getElem?_setIfInBounds]
    by_cases isFirst : first = id
    · rw [isFirst] at known
      simp [isFirst, lt_size_of_edge? known]
    · simp [isFirst, Ne.symm isFirst]

theorem without_nil (graph : FlowGraph) : graph.without [] = graph := by
  apply ext_node?_edges <;> simp [node?_without, getElem?_edges_without, listWithout]

/-- Removing edges one after the other leaves the graph without all of them. -/
theorem removeEdges_eq_without (graph : FlowGraph) (ids : List EdgeId) :
    (graph.removeEdges ids).2 = graph.without ids := by
  induction ids generalizing graph with
  | nil => exact graph.without_nil.symm
  | cons first ids ih =>
      cases known : graph.edge? first with
      | none =>
          rw [removeEdges_cons_of_none known, ih]
          apply without_congr
          intro id edge live
          have apart : id ≠ first := by
            rintro rfl
            rw [known] at live
            cases live
          simp [apart]
      | some edge => rw [removeEdges_cons_of_some known, ih, without_eraseEdge known]

/-- The edges that were there are given, each once, in the order in which their numbers are given
first. -/
theorem removeEdges_eq_filterMap (graph : FlowGraph) (ids : List EdgeId) :
    (graph.removeEdges ids).1 = ids.eraseDups.filterMap graph.edge? := by
  induction ids generalizing graph with
  | nil => rfl
  | cons first ids ih =>
      rw [List.eraseDups_cons, eraseDups_filter, List.filterMap_cons]
      cases known : graph.edge? first with
      | none =>
          rw [removeEdges_cons_of_none known, ih, List.filterMap_filter]
          apply List.filterMap_congr
          intro id _
          by_cases isFirst : id = first <;> simp [isFirst, known]
      | some edge =>
          rw [removeEdges_cons_of_some known, ih, List.filterMap_filter]
          simp only [List.cons.injEq, true_and]
          apply List.filterMap_congr
          intro id _
          by_cases isFirst : id = first <;> simp [isFirst, edge?_eraseEdge]

/-- The numbers of edges that are there, each once, in the order in which they are given first. -/
def present (graph : FlowGraph) (ids : List EdgeId) : List EdgeId :=
  ids.eraseDups.filter fun id => (graph.edge? id).isSome

theorem mem_present {id : EdgeId} :
    id ∈ graph.present ids ↔ id ∈ ids ∧ (graph.edge? id).isSome := by
  rw [present, List.mem_filter, List.mem_eraseDups]

theorem map_edge?_present (graph : FlowGraph) (ids : List EdgeId) :
    (graph.present ids).map graph.edge? = (graph.removeEdges ids).1.map some := by
  rw [removeEdges_eq_filterMap, List.map_filterMap_some_eq_filter_map_isSome, List.filter_map]
  rfl

theorem without_present (graph : FlowGraph) (ids : List EdgeId) :
    graph.without (graph.present ids) = graph.without ids := by
  apply without_congr
  intro id edge live
  simp [mem_present, live]

/-- The edges that a well-formed graph lists for a node have the node at their end, so those that
are removed are missing from the list. -/
theorem Lists.listWithout_eq {lists : NodeId → List EdgeId} {endpoint : Edge → NodeId}
    (listed : graph.Lists lists endpoint) (removed : List EdgeId) (id : NodeId) :
    graph.listWithout removed endpoint id (lists id) = (lists id).filter (· ∉ removed) := by
  apply List.filter_congr
  intro other member
  rcases listed.exists_edge member with ⟨edge, known, isEnd⟩
  simp [known, isEnd]

theorem WellFormed.node?_without (wellFormed : graph.WellFormed) (removed : List EdgeId)
    (id : NodeId) :
    (graph.without removed).node? id = (graph.node? id).map fun node =>
      { node with
        outgoing := node.outgoing.filter (· ∉ removed)
        incoming := node.incoming.filter (· ∉ removed) } := by
  rw [FlowGraph.node?_without]
  cases known : graph.node? id with
  | none => rfl
  | some node =>
      have leaving : graph.outgoing id = node.outgoing := by simp [FlowGraph.outgoing, known]
      have entering : graph.incoming id = node.incoming := by simp [FlowGraph.incoming, known]
      rw [Option.map_some, Option.map_some, ← leaving, ← entering,
        wellFormed.outgoing.listWithout_eq, wellFormed.incoming.listWithout_eq]

/-- Whatever numbers a finder gives, the edges that are there among them are removed and given, each
once, in the order in which their numbers are given first. Just these edges are missing afterwards,
by number and in the lists of all nodes; all other edges keep their numbers, and nothing else about
a node changes. The order and the repetitions of the numbers do not matter for what is left. -/
theorem removeBackEdges_removes_exactly (built : graph.Built) (finder : BackEdgeFinder) :
    (∃ removed : List EdgeId,
      (∀ id, id ∈ removed ↔ id ∈ finder graph ∧ (graph.edge? id).isSome) ∧
      (removed.Pairwise fun first second =>
        (finder graph).idxOf first < (finder graph).idxOf second) ∧
      (graph.removeBackEdges finder).1.map some = removed.map graph.edge? ∧
      (∀ id, (graph.removeBackEdges finder).2.edge? id =
        if id ∈ removed then none else graph.edge? id) ∧
      (graph.removeBackEdges finder).2.edges.size = graph.edges.size ∧
      ∀ id, (graph.removeBackEdges finder).2.node? id = (graph.node? id).map fun node =>
        { node with
          outgoing := node.outgoing.filter (· ∉ removed)
          incoming := node.incoming.filter (· ∉ removed) }) ∧
    ∀ other : BackEdgeFinder, (∀ id, id ∈ other graph ↔ id ∈ finder graph) →
      (graph.removeBackEdges other).2 = (graph.removeBackEdges finder).2 := by
  have isWithout (finder : BackEdgeFinder) :
      (graph.removeBackEdges finder).2 = graph.without (finder graph) :=
    removeEdges_eq_without graph (finder graph)
  constructor
  · refine ⟨graph.present (finder graph), fun id => mem_present,
      (pairwise_idxOf_eraseDups (finder graph)).filter _,
      (graph.map_edge?_present (finder graph)).symm, ?_, ?_, ?_⟩
    · intro id
      rw [removeBackEdges, edge?_removeEdges]
      cases known : graph.edge? id <;> simp [mem_present, known]
    · rw [isWithout]
      simp [without]
    · intro id
      rw [isWithout, ← without_present, built.wellFormed.node?_without]
  · intro other same
    rw [isWithout, isWithout]
    exact without_congr fun id _ _ => same id

/-- Two nodes with a loop of three edges between them, two of which are parallel, and a hole. -/
def parallelEdges : FlowGraph :=
  .ofCalls [.addNode 0 "start" .start none, .addNode 1 "exit" .exit none, .addEdge 0 1,
    .addEdge 0 1, .addEdge 1 0, .addEdge 0 1, .removeEdge 1]

theorem removeBackEdges_removes_exactly_parallelEdges :
    parallelEdges.Built ∧
      (∃ removed : List EdgeId,
        (∀ id, id ∈ removed ↔ id ∈ [3, 9, 2, 1, 3] ∧ (parallelEdges.edge? id).isSome) ∧
        (parallelEdges.removeBackEdges fun _ => [3, 9, 2, 1, 3]).1.map some =
          removed.map parallelEdges.edge?) ∧
      (parallelEdges.removeBackEdges fun _ => [1, 2, 3, 9]).2 =
        (parallelEdges.removeBackEdges fun _ => [3, 9, 2, 1, 3]).2 := by
  have built : parallelEdges.Built := ⟨_, rfl⟩
  rcases removeBackEdges_removes_exactly built fun _ => [3, 9, 2, 1, 3] with
    ⟨⟨removed, mem_removed, _, given, _⟩, sameGraph⟩
  refine ⟨built, ⟨removed, mem_removed, given⟩, sameGraph _ fun id => ?_⟩
  simp only [List.mem_cons, List.not_mem_nil]
  grind

end FlowGraph

end StackFlow
