import StackFlow.Proofs.FlowGraph.DepthFirst

/-!
# Breaking loops

Taking the edges found by depth-first search out of a graph leaves no cycle behind, in regions that
no root reaches as little as elsewhere. No edge is taken out in vain: a way round each of them
stays, so that putting it back would close a cycle again.
-/

namespace StackFlow

open Relation

namespace FlowGraph

variable {graph : FlowGraph}

theorem mem_depthFirstBackEdges {id : EdgeId} :
    id ∈ depthFirstBackEdges graph ↔ id ∈ (Search.last graph).found := by
  rw [depthFirstBackEdges, ← Search.last, List.mem_reverse]

/-- An edge stays unless the search found it. -/
theorem edge?_removeBackEdges {id : EdgeId} {edge : Edge} :
    (graph.removeBackEdges depthFirstBackEdges).2.edge? id = some edge ↔
      id ∉ (Search.last graph).found ∧ graph.edge? id = some edge := by
  simp only [removeBackEdges, edge?_removeEdges, mem_depthFirstBackEdges]
  by_cases found : id ∈ (Search.last graph).found <;> simp [found]

theorem Built.removeBackEdges (built : graph.Built) (finder : BackEdgeFinder) :
    (graph.removeBackEdges finder).2.Built :=
  built.removeEdges (finder graph)

theorem acyclic_removeBackEdges (wellFormed : graph.WellFormed) :
    (graph.removeBackEdges depthFirstBackEdges).2.Acyclic := by
  intro node cycle
  have invariant := Search.invariant_last wellFormed
  have finished := Search.finished_last wellFormed
  have remaining : ∀ {source target},
      (graph.removeBackEdges depthFirstBackEdges).2.Adjacent source target →
        Search.Remaining graph (Search.last graph) target source := by
    rintro source target ⟨id, known⟩
    rcases edge?_removeBackEdges.1 known with ⟨notFound, known⟩
    exact ⟨id, notFound, known⟩
  have inGraph : node < graph.nodeCount := by
    rcases TransGen.head'_iff.1 cycle with ⟨next, ⟨id, known⟩, _⟩
    exact wellFormed.source_lt (edge?_removeBackEdges.1 known).2
  have accessible := invariant.finishing.accessible node
    (invariant.black_of_finished finished inGraph)
  apply not_transGen_self_of_acc accessible
  apply transGen_swap.1
  exact TransGen.mono (fun _ _ adjacent => remaining adjacent) _ _ cycle

/-- A way round each removed edge stays. -/
theorem reaches_of_mem_removeBackEdges (wellFormed : graph.WellFormed) {edge : Edge}
    (removed : edge ∈ (graph.removeBackEdges depthFirstBackEdges).1) :
    (graph.removeBackEdges depthFirstBackEdges).2.Reaches edge.target edge.source := by
  rcases mem_removeEdges.1 removed with ⟨id, isFound, known⟩
  have around := (Search.invariant_last wellFormed).tracked.around id
    (mem_depthFirstBackEdges.1 isFound) edge known
  refine ReflTransGen.mono ?_ _ _ around
  rintro source target ⟨other, _, notFound, otherKnown⟩
  exact ⟨other, edge?_removeBackEdges.2 ⟨notFound, otherKnown⟩⟩

/-- An edge against the direction of a path closes a cycle. -/
theorem not_acyclic_of_addEdge {result : FlowGraph} {source target : NodeId} {id : EdgeId}
    (added : graph.addEdge source target = .ok (id, result)) (path : graph.Reaches target source) :
    ¬result.Acyclic := by
  have edges := edge?_of_addEdge added
  rcases addEdge_eq_ok_iff.1 added with ⟨_, _, isId, _⟩
  have kept : ∀ {other edge}, graph.edge? other = some edge → result.edge? other = some edge := by
    intro other edge known
    have different : other ≠ id := by
      rw [isId]
      exact Nat.ne_of_lt (lt_size_of_edge? known)
    rw [edges, if_neg different, known]
  have around : result.Reaches target source :=
    ReflTransGen.mono (fun _ _ adjacent => Adjacent.mono kept adjacent) _ _ path
  intro acyclic
  exact acyclic source (TransGen.head' ⟨id, by rw [edges, if_pos rfl]⟩ around)

/-- The search finds no edge exactly in graphs without cycles. -/
theorem depthFirstBackEdges_eq_nil_iff (wellFormed : graph.WellFormed) :
    depthFirstBackEdges graph = [] ↔ graph.Acyclic := by
  constructor
  · intro none
    have acyclic := acyclic_removeBackEdges wellFormed
    rwa [removeBackEdges, none] at acyclic
  · intro acyclic
    apply List.eq_nil_iff_forall_not_mem.2
    intro id isFound
    have explored := (Search.invariant_last wellFormed).tracked.found_explored id
      (mem_depthFirstBackEdges.1 isFound)
    rcases explored.exists_edge wellFormed with ⟨edge, known⟩
    have around := reaches_of_mem_removeBackEdges wellFormed
      (mem_removeEdges.2 ⟨id, isFound, known⟩)
    have aroundBefore : graph.Reaches edge.target edge.source :=
      ReflTransGen.mono (fun _ _ adjacent =>
        Adjacent.mono (fun stays => (edge?_removeBackEdges.1 stays).2) adjacent) _ _ around
    exact acyclic edge.source (TransGen.head' ⟨id, known⟩ aroundBefore)

/-- Breaking loops by depth-first search is complete and takes out no edge in vain. -/
theorem removeBackEdges_complete_irredundant (built : graph.Built) :
    (graph.removeBackEdges depthFirstBackEdges).2.Acyclic ∧
      (∀ edge ∈ (graph.removeBackEdges depthFirstBackEdges).1,
        (graph.removeBackEdges depthFirstBackEdges).2.Reaches edge.target edge.source ∧
          ∃ id again, (graph.removeBackEdges depthFirstBackEdges).2.addEdge edge.source
            edge.target = .ok (id, again) ∧ ¬again.Acyclic) ∧
      (depthFirstBackEdges graph = [] ↔ graph.Acyclic) := by
  have wellFormed := built.wellFormed
  refine ⟨acyclic_removeBackEdges wellFormed, ?_, depthFirstBackEdges_eq_nil_iff wellFormed⟩
  intro edge removed
  have around := reaches_of_mem_removeBackEdges wellFormed removed
  refine ⟨around, ?_⟩
  rcases mem_removeEdges.1 removed with ⟨removedId, _, known⟩
  have nodeCount : (graph.removeBackEdges depthFirstBackEdges).2.nodeCount = graph.nodeCount :=
    nodeCount_removeEdges graph _
  have added := addEdge_eq_ok_iff.2 ⟨nodeCount ▸ wellFormed.source_lt known,
    nodeCount ▸ wellFormed.target_lt known, rfl, rfl⟩
  exact ⟨_, _, added, not_acyclic_of_addEdge added around⟩

/-- A loop on one node inside two nested loops, a cycle that no root reaches, and an edge that was
removed again. -/
def nestedLoops : FlowGraph :=
  ofCalls (List.replicate 6 (.addNode 0 "" .simple none) ++
    [.addEdge 0 1, .addEdge 1 1, .addEdge 1 2, .addEdge 2 3, .addEdge 3 2, .addEdge 3 0,
      .removeEdge 5, .addEdge 3 1, .addEdge 4 5, .addEdge 5 4])

theorem removeBackEdges_nestedLoops :
    nestedLoops.Built ∧
      (nestedLoops.removeBackEdges depthFirstBackEdges).1 = [⟨1, 1⟩, ⟨3, 2⟩, ⟨3, 1⟩, ⟨5, 4⟩] ∧
      (nestedLoops.removeBackEdges depthFirstBackEdges).2.Acyclic ∧
      (nestedLoops.removeBackEdges depthFirstBackEdges).2.Reaches 1 3 ∧ ¬nestedLoops.Acyclic := by
  have built : nestedLoops.Built := ⟨_, rfl⟩
  have removed : (nestedLoops.removeBackEdges depthFirstBackEdges).1 =
      [⟨1, 1⟩, ⟨3, 2⟩, ⟨3, 1⟩, ⟨5, 4⟩] := by decide +kernel
  have found : depthFirstBackEdges nestedLoops ≠ [] := by decide +kernel
  rcases removeBackEdges_complete_irredundant built with ⟨acyclic, around, none_iff⟩
  refine ⟨built, removed, acyclic, ?_, fun acyclic => found (none_iff.2 acyclic)⟩
  exact (around ⟨3, 1⟩ (by rw [removed]; simp)).1

end FlowGraph

end StackFlow
