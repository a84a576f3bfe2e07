import StackFlow.Propagation.Analysis
import StackFlow.Proofs.FlowGraph.Reachability
import StackFlow.Proofs.Iteration

/-!
# The order of visits

`Propagation.Turn` says once what a look at the list of nodes can do. From it follows `Scheduled`:
an edge is crossed exactly when its source was visited and did not fail, a node is visited only
after all its predecessors, and a node that could be visited is on the list. Each look shortens what
is left to do, the nodes on the list together with the edges not crossed, so the list runs empty
within the bound.
-/

namespace StackFlow

namespace Propagation

/-- Whether a node was visited and did not fail. -/
def Passed (propagation : Propagation) (id : NodeId) : Prop :=
  ∃ property, propagation.property? id = some property ∧ property.isErrored = false

/-- What a look at the list can do: nothing if the list is empty, drop a node, or visit it. -/
inductive Turn (problem : Problem) (propagation : Propagation) : Propagation → Prop where
  | stay (empty : propagation.worklist = []) : Turn problem propagation propagation
  | drop {id : NodeId} {rest : List NodeId} (next : propagation.worklist = id :: rest)
      (idle : ∀ node, problem.graph.node? id = some node →
        (propagation.property? id).isSome = true ∨ propagation.isReady node = false) :
      Turn problem propagation { propagation with worklist := rest }
  | visit {id : NodeId} {node : Node} {rest : List NodeId}
      (next : propagation.worklist = id :: rest) (known : problem.graph.node? id = some node)
      (fresh : propagation.property? id = none) (ready : propagation.isReady node = true) :
      Turn problem propagation (propagation.settle problem id node rest)

theorem turn_step (problem : Problem) (propagation : Propagation) :
    Turn problem propagation (propagation.step problem) := by
  unfold step
  split
  · next empty => exact .stay empty
  · next id rest next =>
    split
    · next unknown =>
      refine .drop next ?_
      intro node known
      rw [unknown] at known
      cases known
    · next node known =>
      split
      · next idle =>
        refine .drop next ?_
        intro other otherKnown
        rw [known, Option.some.injEq] at otherKnown
        subst other
        simpa using idle
      · next busy =>
        simp only [Bool.or_eq_true, Bool.not_eq_true', not_or, Bool.not_eq_true,
          Option.isSome_eq_false_iff, Option.isNone_iff_eq_none, Bool.not_eq_false] at busy
        exact .visit next known busy.1 busy.2

section Settling

variable {problem : Problem} {propagation : Propagation} {id : NodeId} {node : Node}
  {rest : List NodeId}

theorem property?_settle (inBounds : id < propagation.properties.size) (other : NodeId) :
    (propagation.settle problem id node rest).property? other =
      if other = id then some (propagation.visit problem id node).property
      else propagation.property? other := by
  simp only [property?, settle, Array.getElem?_setIfInBounds, eq_comm (a := other)]
  by_cases same : id = other
  · subst other
    simp [inBounds]
  · simp [same]

theorem size_crossAll (crossed : Array Bool) (edges : List EdgeId) :
    (crossAll crossed edges).size = crossed.size := by
  induction edges generalizing crossed with
  | nil => rfl
  | cons edge edges ih =>
      rw [crossAll, List.foldl_cons]
      exact (ih _).trans Array.size_setIfInBounds

theorem getElem?_crossAll (crossed : Array Bool) (edges : List EdgeId) (id : EdgeId) :
    (crossAll crossed edges)[id]? = some true ↔
      crossed[id]? = some true ∨ (id ∈ edges ∧ id < crossed.size) := by
  induction edges generalizing crossed with
  | nil => simp [crossAll]
  | cons edge edges ih =>
      rw [crossAll, List.foldl_cons]
      refine (ih _).trans ?_
      rw [Array.getElem?_setIfInBounds, Array.size_setIfInBounds, List.mem_cons]
      by_cases same : edge = id
      · subst edge
        by_cases inBounds : id < crossed.size
        · simp [inBounds]
        · simp [inBounds]
      · simp [same, Ne.symm same]

/-- A visit changes what is known about the visited node alone. -/
theorem passed_settle (inBounds : id < propagation.properties.size)
    (fresh : propagation.property? id = none) {other : NodeId} :
    (propagation.settle problem id node rest).Passed other ↔
      propagation.Passed other ∨
        (other = id ∧ (propagation.visit problem id node).property.isErrored = false) := by
  simp only [Passed, property?_settle inBounds]
  by_cases same : other = id
  · subst other
    simp [fresh]
  · simp [same]

/-- What a visit makes ready lies behind the visited node. -/
theorem passed_or_adjacent_of_settle (inBounds : id < propagation.properties.size)
    (fresh : propagation.property? id = none) {target : NodeId}
    (passed : ∀ source, problem.graph.Adjacent source target →
      (propagation.settle problem id node rest).Passed source) :
    (∀ source, problem.graph.Adjacent source target → propagation.Passed source) ∨
      (problem.graph.Adjacent id target ∧
        (propagation.visit problem id node).property.isErrored = false) := by
  by_cases already : ∀ source, problem.graph.Adjacent source target → propagation.Passed source
  · exact .inl already
  · -- The last edge to be crossed leaves the visited node.
    simp only [not_forall] at already
    rcases already with ⟨source, adjacent, notPassed⟩
    rcases (passed_settle inBounds fresh).1 (passed source adjacent) with before | ⟨rfl, proceeds⟩
    · exact absurd before notPassed
    · exact .inr ⟨adjacent, proceeds⟩

end Settling

/-- Says that edges are crossed, and nodes visited and listed, in the order of the graph. -/
structure Scheduled (problem : Problem) (propagation : Propagation) : Prop where
  size_properties : propagation.properties.size = problem.graph.nodeCount
  size_crossed : propagation.crossed.size = problem.graph.edgeSlots
  crossed_iff : ∀ {id edge}, problem.graph.edge? id = some edge →
    (propagation.crossed[id]? = some true ↔ propagation.Passed edge.source)
  before : ∀ {id}, (propagation.property? id).isSome = true →
    ∀ source, problem.graph.Adjacent source id → propagation.Passed source
  accessible : ∀ {id}, (propagation.property? id).isSome = true → Acc problem.graph.Adjacent id
  listed : ∀ {id}, id < problem.graph.nodeCount → propagation.property? id = none →
    (∀ source, problem.graph.Adjacent source id → propagation.Passed source) →
      id ∈ propagation.worklist

theorem property?_initial (problem : Problem) (id : NodeId) :
    (initial problem).property? id = none := by
  simp only [property?, initial, Array.getElem?_replicate]
  split <;> rfl

theorem not_passed_initial (problem : Problem) (id : NodeId) : ¬(initial problem).Passed id := by
  rintro ⟨property, known, _⟩
  rw [property?_initial] at known
  cases known

theorem scheduled_initial {problem : Problem} (wellFormed : problem.graph.WellFormed) :
    Scheduled problem (initial problem) := by
  constructor
  · simp [initial]
  · simp [initial]
  · intro id edge known
    have notCrossed : ¬(initial problem).crossed[id]? = some true := by
      simp [initial, Array.getElem?_replicate]
    exact iff_of_false notCrossed (not_passed_initial problem edge.source)
  · intro id visited
    rw [property?_initial] at visited
    cases visited
  · intro id visited
    rw [property?_initial] at visited
    cases visited
  · intro id inGraph _ passed
    apply wellFormed.mem_roots.2
    refine ⟨inGraph, ?_⟩
    intro source adjacent
    exact not_passed_initial problem source (passed source adjacent)

theorem outgoing_eq {graph : FlowGraph} {id : NodeId} {node : Node}
    (known : graph.node? id = some node) : graph.outgoing id = node.outgoing := by
  simp only [FlowGraph.outgoing, known]

theorem incoming_eq {graph : FlowGraph} {id : NodeId} {node : Node}
    (known : graph.node? id = some node) : graph.incoming id = node.incoming := by
  simp only [FlowGraph.incoming, known]

namespace Scheduled

variable {problem : Problem} {propagation next : Propagation} {id : NodeId} {node : Node}

/-- A node is ready when all its predecessors were visited and did not fail. -/
theorem ready_iff (scheduled : Scheduled problem propagation)
    (wellFormed : problem.graph.WellFormed) (known : problem.graph.node? id = some node) :
    propagation.isReady node = true ↔
      ∀ source, problem.graph.Adjacent source id → propagation.Passed source := by
  simp only [isReady, List.all_eq_true, beq_iff_eq, ← incoming_eq known]
  constructor
  · rintro crossed source ⟨edge, edgeKnown⟩
    have member := wellFormed.incoming.mem_endpoint edgeKnown
    exact (scheduled.crossed_iff edgeKnown).1 (crossed edge member)
  · intro passed edge member
    rcases wellFormed.incoming.exists_edge member with ⟨found, edgeKnown, rfl⟩
    exact (scheduled.crossed_iff edgeKnown).2 (passed found.source ⟨edge, edgeKnown⟩)

theorem inBounds (scheduled : Scheduled problem propagation)
    (known : problem.graph.node? id = some node) : id < propagation.properties.size := by
  rw [scheduled.size_properties]
  exact FlowGraph.lt_nodeCount_of_node? known

/-- There is a place for each edge that a node lists. -/
theorem lt_size_crossed (scheduled : Scheduled problem propagation) {lists : NodeId → List EdgeId}
    {endpoint : Edge → NodeId} (listed : problem.graph.Lists lists endpoint) {edge : EdgeId}
    (member : edge ∈ lists id) : edge < propagation.crossed.size := by
  rcases listed.exists_edge member with ⟨_, edgeKnown, _⟩
  rw [scheduled.size_crossed]
  exact FlowGraph.lt_edgeSlots_of_edge? edgeKnown

theorem crossed_settle (scheduled : Scheduled problem propagation)
    (wellFormed : problem.graph.WellFormed) (known : problem.graph.node? id = some node)
    (fresh : propagation.property? id = none) (rest : List NodeId) {edge : EdgeId} {ends : Edge}
    (edgeKnown : problem.graph.edge? edge = some ends) :
    (propagation.settle problem id node rest).crossed[edge]? = some true ↔
      (propagation.settle problem id node rest).Passed ends.source := by
  have leaving : edge ∈ node.outgoing ∧ edge < propagation.crossed.size ↔ ends.source = id := by
    rw [← outgoing_eq known]
    constructor
    · rintro ⟨member, _⟩
      exact wellFormed.outgoing.node_unique (wellFormed.outgoing.mem_endpoint edgeKnown) member
    · rintro rfl
      have member := wellFormed.outgoing.mem_endpoint edgeKnown
      exact ⟨member, scheduled.lt_size_crossed wellFormed.outgoing member⟩
  rw [passed_settle (scheduled.inBounds known) fresh]
  simp only [settle]
  cases errored : (propagation.visit problem id node).property.isErrored with
  | true => simpa using scheduled.crossed_iff edgeKnown
  | false => simp [getElem?_crossAll, scheduled.crossed_iff edgeKnown, leaving]

theorem settle (scheduled : Scheduled problem propagation)
    (wellFormed : problem.graph.WellFormed) {rest : List NodeId}
    (nextNode : propagation.worklist = id :: rest) (known : problem.graph.node? id = some node)
    (fresh : propagation.property? id = none) (ready : propagation.isReady node = true) :
    Scheduled problem (propagation.settle problem id node rest) := by
  have inBounds := scheduled.inBounds known
  have passed_iff : ∀ {other}, (propagation.settle problem id node rest).Passed other ↔
      propagation.Passed other ∨
        (other = id ∧ (propagation.visit problem id node).property.isErrored = false) :=
    passed_settle inBounds fresh
  have visited_cases : ∀ {other},
      ((propagation.settle problem id node rest).property? other).isSome = true →
        other = id ∨ (propagation.property? other).isSome = true := by
    intro other visited
    rw [property?_settle inBounds] at visited
    split at visited
    · next same => exact .inl same
    · exact .inr visited
  have sourcesPassed := (scheduled.ready_iff wellFormed known).1 ready
  constructor
  · simpa [Propagation.settle] using scheduled.size_properties
  · have size := scheduled.size_crossed
    simp only [Propagation.settle]
    split
    · rwa [size_crossAll]
    · exact size
  · intro edge ends edgeKnown
    exact scheduled.crossed_settle wellFormed known fresh rest edgeKnown
  · intro other visited source adjacent
    rcases visited_cases visited with rfl | visited
    · exact passed_iff.2 (.inl (sourcesPassed source adjacent))
    · exact passed_iff.2 (.inl (scheduled.before visited source adjacent))
  · intro other visited
    rcases visited_cases visited with rfl | visited
    · constructor
      intro source adjacent
      rcases sourcesPassed source adjacent with ⟨property, sourceKnown, _⟩
      exact scheduled.accessible (Option.isSome_of_eq_some sourceKnown)
    · exact scheduled.accessible visited
  · intro other inGraph unvisited passed
    rw [property?_settle inBounds] at unvisited
    split at unvisited
    · cases unvisited
    · next different =>
      simp only [Propagation.settle]
      rcases passed_or_adjacent_of_settle inBounds fresh passed with already | ⟨adjacent, proceeds⟩
      · have member := scheduled.listed inGraph unvisited already
        rw [nextNode] at member
        have inRest := (List.mem_cons.1 member).resolve_left different
        split
        · exact List.mem_append_right _ inRest
        · exact inRest
      · simp only [proceeds, Bool.not_false, if_true]
        exact List.mem_append_left _ (wellFormed.mem_successors.2 adjacent)

theorem turn (scheduled : Scheduled problem propagation) (wellFormed : problem.graph.WellFormed)
    (turn : Turn problem propagation next) : Scheduled problem next := by
  cases turn with
  | stay => exact scheduled
  | @drop id rest nextNode idle =>
      refine ⟨scheduled.size_properties, scheduled.size_crossed, scheduled.crossed_iff,
        scheduled.before, scheduled.accessible, ?_⟩
      intro other inGraph unvisited passed
      have member := scheduled.listed inGraph unvisited passed
      rw [nextNode] at member
      rcases List.mem_cons.1 member with rfl | member
      · rcases FlowGraph.exists_node? inGraph with ⟨node, known⟩
        have ready := (scheduled.ready_iff wellFormed known).2 passed
        rcases idle node known with visited | notReady
        · have unvisited : propagation.property? other = none := unvisited
          rw [unvisited] at visited
          cases visited
        · rw [ready] at notReady
          cases notReady
      · exact member
  | visit nextNode known fresh ready =>
      exact scheduled.settle wellFormed nextNode known fresh ready

end Scheduled

/-! ### The list runs empty -/

/-- The edges that were not crossed yet. -/
def uncrossed (problem : Problem) (propagation : Propagation) : Finset EdgeId :=
  {id ∈ Finset.range problem.graph.edges.size | ¬propagation.crossed[id]? = some true}

/-- What is left to do: nodes to look at and edges to cross. -/
def workLeft (problem : Problem) (propagation : Propagation) : Nat :=
  propagation.worklist.length + (uncrossed problem propagation).card

section Termination

variable {problem : Problem} {propagation next : Propagation} {id : NodeId} {node : Node}

theorem mem_uncrossed {edge : EdgeId} : edge ∈ uncrossed problem propagation ↔
    edge < problem.graph.edges.size ∧ ¬propagation.crossed[edge]? = some true := by
  simp only [uncrossed, Finset.mem_filter, Finset.mem_range]

/-- No edge that leaves a node is crossed before the node is visited. -/
theorem Scheduled.outgoing_subset_uncrossed (scheduled : Scheduled problem propagation)
    (wellFormed : problem.graph.WellFormed) (fresh : propagation.property? id = none) :
    (problem.graph.outgoing id).toFinset ⊆ uncrossed problem propagation := by
  intro edge member
  rcases wellFormed.outgoing.exists_edge (List.mem_toFinset.1 member) with ⟨ends, known, rfl⟩
  refine mem_uncrossed.2 ⟨FlowGraph.lt_size_of_edge? known, ?_⟩
  intro crossed
  rcases (scheduled.crossed_iff known).1 crossed with ⟨property, visited, _⟩
  rw [fresh] at visited
  cases visited

/-- A node that did not fail adds as many nodes to the list as it crosses edges, at most. -/
theorem Scheduled.workLeft_settle_lt (scheduled : Scheduled problem propagation)
    (wellFormed : problem.graph.WellFormed) {rest : List NodeId}
    (nextNode : propagation.worklist = id :: rest) (known : problem.graph.node? id = some node)
    (fresh : propagation.property? id = none) :
    workLeft problem (propagation.settle problem id node rest) < workLeft problem propagation := by
  have leaving := scheduled.outgoing_subset_uncrossed wellFormed fresh
  have count : (problem.graph.outgoing id).toFinset.card = (problem.graph.outgoing id).length :=
    List.toFinset_card_of_nodup (wellFormed.outgoing.nodup id)
  have successors : (problem.graph.successors id).length ≤ (problem.graph.outgoing id).length :=
    List.length_filterMap_le _ _
  unfold workLeft
  rw [nextNode, List.length_cons]
  cases errored : (propagation.visit problem id node).property.isErrored with
  | true =>
      have same : uncrossed problem (propagation.settle problem id node rest) =
          uncrossed problem propagation := by
        simp [uncrossed, Propagation.settle, errored]
      rw [same]
      simp [Propagation.settle, errored]
  | false =>
      have fewer : uncrossed problem (propagation.settle problem id node rest) =
          uncrossed problem propagation \ (problem.graph.outgoing id).toFinset := by
        ext edge
        have hasPlace : edge ∈ node.outgoing → edge < propagation.crossed.size := by
          rw [← outgoing_eq known]
          exact scheduled.lt_size_crossed wellFormed.outgoing
        simp only [mem_uncrossed, Finset.mem_sdiff, List.mem_toFinset, Propagation.settle, errored,
          Bool.not_false, if_true, getElem?_crossAll, outgoing_eq known]
        tauto
      have total := Finset.card_sdiff_add_card_eq_card leaving
      rw [fewer]
      simp only [Propagation.settle, errored, Bool.not_false, if_true, List.length_append]
      omega

theorem Scheduled.workLeft_turn_lt (scheduled : Scheduled problem propagation)
    (wellFormed : problem.graph.WellFormed) (turn : Turn problem propagation next)
    (unfinished : ¬propagation.worklist = []) :
    workLeft problem next < workLeft problem propagation := by
  cases turn with
  | stay empty => exact absurd empty unfinished
  | drop nextNode idle =>
      unfold workLeft
      rw [nextNode, List.length_cons]
      exact Nat.add_lt_add_right (Nat.lt_succ_self _) _
  | visit nextNode known fresh ready =>
      exact scheduled.workLeft_settle_lt wellFormed nextNode known fresh

theorem workLeft_initial_le (problem : Problem) :
    workLeft problem (initial problem) ≤ stepBound problem.graph := by
  have roots : (initial problem).worklist.length ≤ problem.graph.nodeCount := by
    simpa [initial, FlowGraph.roots, FlowGraph.nodeIds] using
      List.length_filter_le (fun id => (problem.graph.incoming id).isEmpty) problem.graph.nodeIds
  have edges : (uncrossed problem (initial problem)).card ≤ problem.graph.edges.size := by
    rw [← Finset.card_range problem.graph.edges.size]
    exact Finset.card_le_card fun id member => Finset.mem_range.2 (mem_uncrossed.1 member).1
  unfold workLeft stepBound
  omega

theorem step_of_empty (empty : propagation.worklist = []) :
    propagation.step problem = propagation := by
  unfold step
  simp only [empty]

/-- What every turn keeps holds when all is done. -/
theorem final_preserves (invariant : Propagation → Prop)
    (wellFormed : problem.graph.WellFormed) (holds : invariant (initial problem))
    (kept : ∀ {propagation next}, Scheduled problem propagation → invariant propagation →
      Turn problem propagation next → invariant next) :
    invariant (final problem) := by
  suffices both : Scheduled problem (final problem) ∧ invariant (final problem) from both.2
  refine iterate_preserves (fun propagation =>
    Scheduled problem propagation ∧ invariant propagation) ?_ ⟨scheduled_initial wellFormed, holds⟩
    (stepBound problem.graph)
  rintro propagation ⟨scheduled, holds⟩
  have turn := turn_step problem propagation
  exact ⟨scheduled.turn wellFormed turn, kept scheduled holds turn⟩

theorem scheduled_final (wellFormed : problem.graph.WellFormed) :
    Scheduled problem (final problem) :=
  final_preserves (Scheduled problem) wellFormed (scheduled_initial wellFormed)
    fun scheduled _ turn => scheduled.turn wellFormed turn

theorem worklist_final (wellFormed : problem.graph.WellFormed) :
    (final problem).worklist = [] := by
  refine iterate_finishes (Scheduled problem) (fun propagation => propagation.worklist = [])
    (workLeft problem) ?_ ?_ ?_ (scheduled_initial wellFormed) (workLeft_initial_le problem)
  · exact fun propagation scheduled => scheduled.turn wellFormed (turn_step problem propagation)
  · exact fun propagation empty => step_of_empty empty
  · exact fun propagation scheduled unfinished =>
      scheduled.workLeft_turn_lt wellFormed (turn_step problem propagation) unfinished

end Termination

end Propagation

end StackFlow
