import Mathlib.Data.Fintype.Card
import Mathlib.Data.Set.Finite.Basic
import Mathlib.Logic.Relation
import StackFlow.Proofs.FlowGraph.Calls

/-!
# Reachability and cycles

A node is adjacent to another if an edge leads from it to the other. Reachability and cycles are
spoken of in terms of this relation alone, and the lists that an algorithm goes through are related
to it for well-formed graphs.

Since a graph is finite, a node whose ancestors all lie on no cycle can be reached by induction
along the edges: it is accessible for adjacency. Conversely, nothing accessible lies on a cycle.
-/

namespace StackFlow

open Relation

namespace FlowGraph

/-- Whether an edge leads from a node to another. -/
def Adjacent (graph : FlowGraph) (source target : NodeId) : Prop :=
  ∃ id, graph.edge? id = some ⟨source, target⟩

/-- Whether a path, possibly without edges, leads from a node to another. -/
def Reaches (graph : FlowGraph) : NodeId → NodeId → Prop := ReflTransGen graph.Adjacent

/-- Whether a path of one or more edges leads from a node to another. -/
def Precedes (graph : FlowGraph) : NodeId → NodeId → Prop := TransGen graph.Adjacent

/-- Whether a node lies on a directed cycle. -/
def OnCycle (graph : FlowGraph) (node : NodeId) : Prop := graph.Precedes node node

/-- Whether there is no directed cycle. -/
def Acyclic (graph : FlowGraph) : Prop := ∀ node, ¬graph.OnCycle node

theorem Adjacent.mono {graph larger : FlowGraph}
    (kept : ∀ {id edge}, graph.edge? id = some edge → larger.edge? id = some edge)
    {source target : NodeId} (adjacent : graph.Adjacent source target) :
    larger.Adjacent source target := by
  rcases adjacent with ⟨id, known⟩
  exact ⟨id, kept known⟩

namespace WellFormed

variable {graph : FlowGraph}

theorem source_lt_of_adjacent (wellFormed : graph.WellFormed) {source target : NodeId}
    (adjacent : graph.Adjacent source target) : source < graph.nodeCount := by
  rcases adjacent with ⟨id, known⟩
  exact wellFormed.source_lt known

theorem target_lt_of_adjacent (wellFormed : graph.WellFormed) {source target : NodeId}
    (adjacent : graph.Adjacent source target) : target < graph.nodeCount := by
  rcases adjacent with ⟨id, known⟩
  exact wellFormed.target_lt known

theorem mem_successors (wellFormed : graph.WellFormed) {source target : NodeId} :
    target ∈ graph.successors source ↔ graph.Adjacent source target := by
  simp only [successors, List.mem_filterMap, Option.map_eq_some_iff]
  constructor
  · rintro ⟨id, member, edge, known, rfl⟩
    rcases wellFormed.outgoing.exists_edge member with ⟨other, otherKnown, rfl⟩
    rw [known, Option.some.injEq] at otherKnown
    exact ⟨id, by rw [known, otherKnown]⟩
  · rintro ⟨id, known⟩
    exact ⟨id, wellFormed.outgoing.mem_endpoint known, _, known, rfl⟩

theorem mem_predecessors (wellFormed : graph.WellFormed) {source target : NodeId} :
    source ∈ graph.predecessors target ↔ graph.Adjacent source target := by
  simp only [predecessors, List.mem_filterMap, Option.map_eq_some_iff]
  constructor
  · rintro ⟨id, member, edge, known, rfl⟩
    rcases wellFormed.incoming.exists_edge member with ⟨other, otherKnown, rfl⟩
    rw [known, Option.some.injEq] at otherKnown
    exact ⟨id, by rw [known, otherKnown]⟩
  · rintro ⟨id, known⟩
    exact ⟨id, wellFormed.incoming.mem_endpoint known, _, known, rfl⟩

theorem incoming_eq_nil_iff (wellFormed : graph.WellFormed) {node : NodeId} :
    graph.incoming node = [] ↔ ∀ source, ¬graph.Adjacent source node := by
  constructor
  · rintro none source ⟨id, known⟩
    have member := wellFormed.incoming.mem_endpoint known
    rw [none] at member
    exact List.not_mem_nil member
  · intro none
    apply List.eq_nil_iff_forall_not_mem.2
    intro id member
    rcases wellFormed.incoming.exists_edge member with ⟨edge, known, rfl⟩
    exact none edge.source ⟨id, known⟩

theorem mem_roots (wellFormed : graph.WellFormed) {node : NodeId} :
    node ∈ graph.roots ↔ node < graph.nodeCount ∧ ∀ source, ¬graph.Adjacent source node := by
  rw [roots, List.mem_filter, nodeIds, List.mem_range, List.isEmpty_iff,
    wellFormed.incoming_eq_nil_iff]

/-- A node is accessible along the edges if none of its ancestors lies on a cycle. -/
theorem acc_of_noCycle (wellFormed : graph.WellFormed) {node : NodeId}
    (noCycle : ∀ ancestor, graph.Reaches ancestor node → ¬graph.OnCycle ancestor) :
    Acc graph.Adjacent node := by
  let Ancestor := { ancestor // graph.Reaches ancestor node }
  have finite : Finite Ancestor := by
    apply Set.Finite.subset ((Set.finite_lt_nat graph.nodeCount).insert node)
    intro ancestor reaches
    rcases reaches.cases_head with rfl | ⟨next, adjacent, _⟩
    · exact Set.mem_insert _ _
    · exact Set.mem_insert_of_mem _ (wellFormed.source_lt_of_adjacent adjacent)
  let before (left right : Ancestor) : Prop := graph.Precedes left.1 right.1
  have : IsTrans Ancestor before := ⟨fun _ _ _ first second => TransGen.trans first second⟩
  have : Std.Irrefl before := ⟨fun ancestor cycle => noCycle ancestor.1 ancestor.2 cycle⟩
  have wellFounded : WellFounded before := Finite.wellFounded_of_trans_of_irrefl before
  suffices accessible : ∀ ancestor : Ancestor, Acc graph.Adjacent ancestor.1 from
    accessible ⟨node, .refl⟩
  intro ancestor
  induction ancestor using wellFounded.induction with
  | _ ancestor ih =>
      constructor
      intro source adjacent
      exact ih ⟨source, .head adjacent ancestor.2⟩ (.single adjacent)

end WellFormed

/-- Nothing that is accessible leads back to itself. -/
theorem not_transGen_self_of_acc {α : Type} {relation : α → α → Prop} {a : α}
    (accessible : Acc relation a) : ¬TransGen relation a a := by
  induction accessible with
  | intro a _ ih =>
      intro cycle
      rcases TransGen.tail'_iff.1 cycle with ⟨b, around, back⟩
      exact ih b back (TransGen.head' back around)

end FlowGraph

end StackFlow
