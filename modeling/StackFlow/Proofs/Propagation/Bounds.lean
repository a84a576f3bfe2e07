import StackFlow.Proofs.FlowGraph.Bounds
import StackFlow.Proofs.Propagation.Coverage
import StackFlow.Proofs.Propagation.States

/-!
# Propagation stays within bounds

A propagation indexes its arrays by the numbers of nodes and edges, though there are places for
edges only up to the greatest number in use, and it has branches for nodes that are missing and for
predecessors that have nothing to hand on. The checked versions below give `none` at the first index
that is out of bounds and where one of these branches would be taken. The order of visits rules both
out, so checked propagations give what unchecked ones give, no predecessor is ever found to have no
states, and no set of states is empty unless an instruction failed.
-/

namespace StackFlow

namespace Propagation

def isReady? (propagation : Propagation) (node : Node) : Option Bool :=
  node.incoming.allM fun edge => propagation.crossed[edge]?

/-- What the source of an edge hands on, which has to be visited and must not have failed. -/
def handedOn? (propagation : Propagation) (graph : FlowGraph) (edge : EdgeId) :
    Option (List StackState) := do
  let ends ← graph.edge? edge
  let property ← (← propagation.properties[ends.source]?)
  if property.isErrored then none else some property.statesAfter.states

def mergedStates? (propagation : Propagation) (graph : FlowGraph) (node : Node) :
    Option StateSet :=
  node.incoming.foldlM
    (fun merged edge => (propagation.handedOn? graph edge).map merged.extend) .empty

def visit? (propagation : Propagation) (problem : Problem) (id : NodeId) (node : Node) :
    Option Visit := do
  let statesBefore ←
    if node.incoming.isEmpty then some (node.rootStates problem.method problem.settings)
    else propagation.mergedStates? problem.graph node
  let visit := propagation.visit problem id node
  return { visit with
    property := nodeProperty (problem.environment visit.names) problem.method node statesBefore }

def crossAll? (crossed : Array Bool) (edges : List EdgeId) : Option (Array Bool) :=
  edges.foldlM (fun crossed edge => write? crossed edge true) crossed

def settle? (propagation : Propagation) (problem : Problem) (id : NodeId) (node : Node)
    (rest : List NodeId) : Option Propagation := do
  let visit ← propagation.visit? problem id node
  let proceeds := !visit.property.isErrored
  let crossed ←
    if proceeds then crossAll? propagation.crossed node.outgoing else some propagation.crossed
  let properties ← write? propagation.properties id (some visit.property)
  return {
    worklist := if proceeds then problem.graph.successors id ++ rest else rest
    properties
    crossed
    names := visit.names
    metrics := propagation.metrics.record visit.property
    log := propagation.log ++ visit.events.toArray }

def step? (problem : Problem) (propagation : Propagation) : Option Propagation :=
  match propagation.worklist with
  | [] => some propagation
  | id :: rest => do
    let node ← problem.graph.node? id
    let property? ← propagation.properties[id]?
    if property?.isSome then return { propagation with worklist := rest }
    if ← propagation.isReady? node then propagation.settle? problem id node rest
    else return { propagation with worklist := rest }

def final? (problem : Problem) : Option Propagation :=
  iterate? (step? problem) (stepBound problem.graph) (initial problem)

section Arrays

variable {propagation : Propagation} {crossed : Array Bool} {edges : List EdgeId}

theorem isReady?_eq_some {node : Node}
    (inBounds : ∀ edge ∈ node.incoming, edge < propagation.crossed.size) :
    propagation.isReady? node = some (propagation.isReady node) := by
  unfold isReady? isReady
  generalize node.incoming = incoming at inBounds
  induction incoming with
  | nil => rfl
  | cons edge incoming ih =>
      have first := inBounds edge List.mem_cons_self
      have others := ih fun other member => inBounds other (List.mem_cons_of_mem _ member)
      cases isCrossed : propagation.crossed[edge] <;>
        simp [List.allM, first, isCrossed, others]

theorem crossAll?_eq_some (inBounds : ∀ edge ∈ edges, edge < crossed.size) :
    crossAll? crossed edges = some (crossAll crossed edges) := by
  induction edges generalizing crossed with
  | nil => rfl
  | cons edge edges ih =>
      have first := inBounds edge List.mem_cons_self
      have others : ∀ other ∈ edges, other < (crossed.setIfInBounds edge true).size := by
        intro other member
        rw [Array.size_setIfInBounds]
        exact inBounds other (List.mem_cons_of_mem _ member)
      rw [crossAll?, List.foldlM_cons, write?_eq_some first]
      exact ih others

end Arrays

variable {problem : Problem} {propagation next : Propagation} {id : NodeId} {node : Node}
  {rest : List NodeId}

theorem handedOn?_eq_some {graph : FlowGraph} {edge : EdgeId} {ends : Edge}
    (known : graph.edge? edge = some ends) {property : StackProperty}
    (visited : propagation.property? ends.source = some property)
    (passed : property.isErrored = false) :
    propagation.handedOn? graph edge = some property.statesAfter.states := by
  rw [property?, Option.join_eq_some_iff] at visited
  simp [handedOn?, known, visited, passed]

/-- States can be merged if all edges that enter the node leave nodes that passed. -/
theorem mergedStates?_eq_some {graph : FlowGraph} (known : graph.node? id = some node)
    (passed : ∀ edge ∈ node.incoming, ∃ ends, graph.edge? edge = some ends ∧
      propagation.Passed ends.source) :
    propagation.mergedStates? graph node = some (propagation.mergedStates graph id) := by
  unfold mergedStates? mergedStates FlowGraph.predecessors
  rw [incoming_eq known]
  generalize node.incoming = incoming at passed
  generalize StateSet.empty = merged
  induction incoming generalizing merged with
  | nil => rfl
  | cons edge incoming ih =>
      rcases passed edge List.mem_cons_self with ⟨ends, edgeKnown, property, visited, notErrored⟩
      have others := ih (fun other member => passed other (List.mem_cons_of_mem _ member))
      simp [List.foldlM_cons, handedOn?_eq_some edgeKnown visited notErrored, edgeKnown, visited,
        others]

/-- Says that edges are crossed and nodes visited in order, and that each listed node is there. -/
structure InBounds (problem : Problem) (propagation : Propagation) : Prop where
  scheduled : Scheduled problem propagation
  worklist_lt : ∀ id ∈ propagation.worklist, id < problem.graph.nodeCount

namespace InBounds

theorem initial (wellFormed : problem.graph.WellFormed) :
    InBounds problem (Propagation.initial problem) := by
  refine ⟨scheduled_initial wellFormed, ?_⟩
  intro id isRoot
  exact (wellFormed.mem_roots.1 isRoot).1

theorem turn (inBounds : InBounds problem propagation) (wellFormed : problem.graph.WellFormed)
    (turn : Turn problem propagation next) : InBounds problem next := by
  refine ⟨inBounds.scheduled.turn wellFormed turn, ?_⟩
  have listed_lt := inBounds.worklist_lt
  cases turn with
  | stay => exact listed_lt
  | drop nextNode =>
      intro id member
      apply listed_lt
      simp [nextNode, member]
  | visit nextNode known fresh ready =>
      intro id member
      simp only [settle] at member
      split at member
      · rcases List.mem_append.1 member with isSuccessor | inRest
        · exact wellFormed.target_lt_of_adjacent (wellFormed.mem_successors.1 isSuccessor)
        · apply listed_lt
          simp [nextNode, inRest]
      · apply listed_lt
        simp [nextNode, member]

theorem visit?_eq_some (inBounds : InBounds problem propagation)
    (wellFormed : problem.graph.WellFormed) (known : problem.graph.node? id = some node)
    (ready : propagation.isReady node = true) :
    propagation.visit? problem id node = some (propagation.visit problem id node) := by
  have merged : propagation.mergedStates? problem.graph node =
      some (propagation.mergedStates problem.graph id) := by
    apply mergedStates?_eq_some known
    intro edge member
    rw [← incoming_eq known] at member
    rcases wellFormed.incoming.exists_edge member with ⟨ends, edgeKnown, rfl⟩
    have passed := (inBounds.scheduled.ready_iff wellFormed known).1 ready
    exact ⟨ends, edgeKnown, passed ends.source ⟨edge, edgeKnown⟩⟩
  cases isRoot : node.incoming.isEmpty <;> simp [visit?, visit, Problem.environment, merged, isRoot]

theorem settle?_eq_some (inBounds : InBounds problem propagation)
    (wellFormed : problem.graph.WellFormed) (known : problem.graph.node? id = some node)
    (ready : propagation.isReady node = true) (rest : List NodeId) :
    propagation.settle? problem id node rest = some (propagation.settle problem id node rest) := by
  have visited := inBounds.visit?_eq_some wellFormed known ready
  have crossed : crossAll? propagation.crossed node.outgoing =
      some (crossAll propagation.crossed node.outgoing) := by
    apply crossAll?_eq_some
    rw [← outgoing_eq known]
    exact fun _ member => inBounds.scheduled.lt_size_crossed wellFormed.outgoing member
  have written := fun value => write?_eq_some (inBounds.scheduled.inBounds known) value
  cases errored : (propagation.visit problem id node).property.isErrored <;>
    simp [settle?, settle, visited, errored, crossed, written]

theorem step?_eq_some (inBounds : InBounds problem propagation)
    (wellFormed : problem.graph.WellFormed) :
    propagation.step? problem = some (propagation.step problem) := by
  cases listed : propagation.worklist with
  | nil => simp [step?, step, listed]
  | cons id rest =>
      have isNode : id < problem.graph.nodeCount := by
        apply inBounds.worklist_lt
        simp [listed]
      rcases FlowGraph.exists_node? isNode with ⟨node, known⟩
      have hasPlace := inBounds.scheduled.inBounds known
      have isReady : propagation.isReady? node = some (propagation.isReady node) := by
        apply isReady?_eq_some
        rw [← incoming_eq known]
        exact fun _ member => inBounds.scheduled.lt_size_crossed wellFormed.incoming member
      cases visited : propagation.properties[id] with
      | some property =>
          simp [step?, step, listed, known, property?, hasPlace, visited]
      | none =>
          cases ready : propagation.isReady node with
          | false => simp [step?, step, listed, known, property?, hasPlace, visited, isReady, ready]
          | true =>
              simp [step?, step, listed, known, property?, hasPlace, visited, isReady, ready,
                inBounds.settle?_eq_some wellFormed known ready]

end InBounds

theorem final?_eq_some (wellFormed : problem.graph.WellFormed) :
    final? problem = some (final problem) :=
  iterate?_eq_some (InBounds problem)
    (fun propagation inBounds => inBounds.turn wellFormed (turn_step problem propagation))
    (fun _ inBounds => inBounds.step?_eq_some wellFormed) (InBounds.initial wellFormed)
    (stepBound problem.graph)

/-! ### Branches that are never taken -/

/-- Says that the next node is about to be visited. -/
structure Visits (problem : Problem) (propagation : Propagation) (id : NodeId) (node : Node) :
    Prop where
  next : ∃ rest, propagation.worklist = id :: rest
  known : problem.graph.node? id = some node
  fresh : propagation.property? id = none
  ready : propagation.isReady node = true

/-- The propagation after a number of steps. -/
def after (problem : Problem) (count : Nat) : Propagation :=
  iterate (step problem) count (initial problem)

/-- Whenever a node is about to be visited, all its predecessors were visited and did not fail. -/
theorem passed_of_visits (wellFormed : problem.graph.WellFormed) {count : Nat}
    (visits : Visits problem (after problem count) id node) {predecessor : NodeId}
    (entering : predecessor ∈ problem.graph.predecessors id) :
    (after problem count).Passed predecessor := by
  have inBounds := iterate_preserves (InBounds problem)
    (fun propagation inBounds => inBounds.turn wellFormed (turn_step problem propagation))
    (InBounds.initial wellFormed) count
  apply (inBounds.scheduled.ready_iff wellFormed visits.known).1 visits.ready
  exact wellFormed.mem_predecessors.1 entering

theorem mergeEvents_eq_nil {graph : FlowGraph}
    (passed : ∀ predecessor ∈ graph.predecessors id, propagation.Passed predecessor) :
    propagation.mergeEvents graph id = [] := by
  apply List.filterMap_eq_nil_iff.2
  intro predecessor entering
  rcases passed predecessor entering with ⟨property, visited, _⟩
  rw [visited]

theorem predecessorWithoutStates_notMem_rootEvents (method : Method) (settings : Settings)
    (names : LocalNames) (root target predecessor : NodeId) (node : Node) :
    .predecessorWithoutStates target predecessor ∉
      node.rootEvents method settings names root := by
  unfold Node.rootEvents
  split
  · simp
  · split
    · simp
    · split <;> simp

/-- A visit tells of no predecessor without states if all predecessors passed. -/
theorem predecessorWithoutStates_notMem_events
    (passed : ∀ predecessor ∈ problem.graph.predecessors id, propagation.Passed predecessor)
    (target predecessor : NodeId) :
    .predecessorWithoutStates target predecessor ∉
      (propagation.visit problem id node).events := by
  intro told
  simp only [visit, List.mem_append, List.mem_singleton, reduceCtorEq, or_false] at told
  rcases told with (atArrival | byInstruction) | atEnd
  · split at atArrival
    · exact predecessorWithoutStates_notMem_rootEvents _ _ _ _ _ _ _ atArrival
    · rw [mergeEvents_eq_nil passed] at atArrival
      cases atArrival
  · split at byInstruction
    · cases byInstruction
    · cases isResolution_of_mem_runWarnings _ byInstruction
  · split at atEnd <;> simp at atEnd

theorem predecessorWithoutStates_notMem_final (wellFormed : problem.graph.WellFormed)
    (target predecessor : NodeId) :
    .predecessorWithoutStates target predecessor ∉ (final problem).log.toList := by
  refine final_preserves
    (fun propagation => .predecessorWithoutStates target predecessor ∉ propagation.log.toList)
    wellFormed (by simp [Propagation.initial]) ?_
  intro propagation next scheduled untold turn
  cases turn with
  | stay => exact untold
  | drop => exact untold
  | visit nextNode known fresh ready =>
      simp only [settle, Array.toList_append, List.mem_append, not_or]
      refine ⟨untold, predecessorWithoutStates_notMem_events ?_ target predecessor⟩
      intro source entering
      apply (scheduled.ready_iff wellFormed known).1 ready
      exact wellFormed.mem_predecessors.1 entering

/-! ### No set of states is empty -/

theorem states_ne_nil_of_collects {set : StateSet} {source : StackState → Prop}
    {state : StackState} (collects : set.Collects source) (given : source state) :
    set.states ≠ [] := by
  rcases collects.exists_shown given with ⟨kept, member, _⟩
  exact List.ne_nil_of_mem member

theorem rootStates_ne_nil (method : Method) (settings : Settings) (node : Node) :
    (node.rootStates method settings).states ≠ [] := by
  unfold Node.rootStates
  split
  · simp
  · next handlers given =>
    rcases List.exists_mem_of_ne_nil _ given with ⟨handler, member⟩
    exact states_ne_nil_of_collects (StateSet.collects_ofList _) (List.mem_map_of_mem member)

section Final

variable {property : StackProperty}

theorem statesAfter_ne_nil_of_statesBefore (wellFormed : problem.graph.WellFormed)
    (visited : (final problem).property? id = some property) (passed : property.isErrored = false)
    (given : property.statesBefore.states ≠ []) : property.statesAfter.states ≠ [] := by
  rcases List.exists_mem_of_ne_nil _ given with ⟨state, member⟩
  rcases exists_runsThrough wellFormed visited with ⟨node, names, _, _, runs⟩
  rcases runs.exists_ok passed member with ⟨result, ran⟩
  exact states_ne_nil_of_collects (runs.after passed) ⟨state, member, ran⟩

theorem statesBefore_ne_nil (wellFormed : problem.graph.WellFormed)
    (visited : (final problem).property? id = some property) :
    property.statesBefore.states ≠ [] := by
  have scheduled := scheduled_final wellFormed
  -- Some predecessor hands on a state, and none lies on a cycle.
  have accessible := scheduled.accessible (Option.isSome_of_eq_some visited)
  induction accessible generalizing property with
  | intro id _ ih =>
      by_cases isRoot : ∀ source, ¬problem.graph.Adjacent source id
      · rcases exists_runsThrough wellFormed visited with ⟨node, _, known, _, _⟩
        rw [statesBefore_of_root wellFormed visited known isRoot]
        exact rootStates_ne_nil _ _ _
      · simp only [not_forall, not_not] at isRoot
        rcases isRoot with ⟨source, adjacent⟩
        rcases scheduled.before (Option.isSome_of_eq_some visited) source adjacent with
          ⟨found, foundVisited, passed⟩
        have given := statesAfter_ne_nil_of_statesBefore wellFormed foundVisited passed
          (ih source adjacent foundVisited)
        rcases List.exists_mem_of_ne_nil _ given with ⟨state, after⟩
        exact states_ne_nil_of_collects (collects_statesBefore wellFormed visited adjacent)
          ⟨source, found, adjacent, foundVisited, after⟩

end Final

end Propagation

open Propagation in
/-- Analysis comes to an end, and never steps out of bounds nor into a branch for broken data. The
search for edges that close loops, their removal and the propagation do what their checked versions
do, until nothing is left to do. A node is visited only after all its predecessors passed, so none
of them is ever reported to have no states. All sets of states around visited nodes have members,
but for what follows a failure. -/
theorem analyze_inBounds {method : Method} {graph : FlowGraph} (built : graph.Built)
    (valid : graph.validate method = .ok ()) (finder : BackEdgeFinder) (settings : Settings) :
    (∃ last, Search.last? graph = some last ∧ last.Finished ∧
      last.found.reverse = FlowGraph.depthFirstBackEdges graph) ∧
    graph.removeEdges? (finder graph) = some (graph.removeBackEdges finder) ∧
    ∃ analysis rest, analyze method graph finder settings = .ok (analysis, rest) ∧
      rest = (graph.removeBackEdges finder).2 ∧
      (∃ last, final? ⟨method, rest, settings⟩ = some last ∧ last.worklist = [] ∧
        last.properties = analysis.properties) ∧
      (∀ count id node predecessor,
        Visits ⟨method, rest, settings⟩ (after ⟨method, rest, settings⟩ count) id node →
          predecessor ∈ rest.predecessors id →
            (after ⟨method, rest, settings⟩ count).Passed predecessor) ∧
      (∀ target predecessor, .predecessorWithoutStates target predecessor ∉ analysis.log) ∧
      ∀ id property, analysis.property? id = some property →
        property.statesBefore.states ≠ [] ∧
          (property.isErrored = false → property.statesAfter.states ≠ []) := by
  refine ⟨⟨_, Search.last?_eq_some built.wellFormed, Search.finished_last built.wellFormed, rfl⟩,
    FlowGraph.removeEdges?_eq_some built.wellFormed _, ?_⟩
  rcases analyze_of_valid valid finder settings with ⟨analysis, analyzed, records, _⟩
  have wellFormed := (built.removeBackEdges finder).wellFormed
  refine ⟨analysis, _, analyzed, rfl, ?_, ?_, ?_, ?_⟩
  · exact ⟨_, final?_eq_some wellFormed, worklist_final wellFormed, records.properties.symm⟩
  · intro count id node predecessor visits entering
    exact passed_of_visits wellFormed visits entering
  · intro target predecessor told
    exact predecessorWithoutStates_notMem_final wellFormed target predecessor
      (records.warnings _ told rfl)
  · intro id property visited
    rw [records.property?] at visited
    have given := statesBefore_ne_nil wellFormed visited
    exact ⟨given, fun passed => statesAfter_ne_nil_of_statesBefore wellFormed visited passed given⟩

/-- A method whose code goes round. -/
def circling : Method :=
  { instructions := #[{ offset := 0, opcode := .nullConst }, { offset := 1, opcode := .pop },
      { offset := 2, opcode := .nop }, { offset := 3, opcode := .returnVoid }] }

/-- A loop that has lost its two last edges, so that there are fewer places for edges to be crossed
than numbers of edges. -/
def shrunkenLoop : FlowGraph :=
  .ofCalls [.addInstructionNodes circling, .addEdge 0 1, .addEdge 1 2, .addEdge 2 0, .addEdge 2 3,
    .addEdge 3 1, .addEdge 1 3, .removeEdge 5, .removeEdge 4]

theorem analyze_inBounds_shrunkenLoop :
    shrunkenLoop.Built ∧ shrunkenLoop.validate circling = .ok () ∧
      shrunkenLoop.edges.size = 6 ∧ shrunkenLoop.edgeSlots = 4 ∧
      ∃ analysis rest,
        analyze circling shrunkenLoop FlowGraph.depthFirstBackEdges {} = .ok (analysis, rest) ∧
          (∀ target predecessor, .predecessorWithoutStates target predecessor ∉ analysis.log) ∧
          ∃ property, analysis.property? 3 = some property ∧
            property.statesBefore.states ≠ [] := by
  have built : shrunkenLoop.Built := ⟨_, rfl⟩
  have valid : shrunkenLoop.validate circling = .ok () := by decide +kernel
  rcases analyze_inBounds built valid FlowGraph.depthFirstBackEdges {} with
    ⟨_, _, analysis, rest, analyzed, _, _, _, untold, given⟩
  refine ⟨built, valid, by decide +kernel, by decide +kernel, analysis, rest, analyzed, untold, ?_⟩
  have visited : ((analyze circling shrunkenLoop FlowGraph.depthFirstBackEdges {}).toOption.bind
      fun result => result.1.property? 3).isSome = true := by
    decide +kernel
  simp only [analyzed, Except.toOption, Option.bind_some] at visited
  rcases Option.isSome_iff_exists.1 visited with ⟨property, known⟩
  exact ⟨property, known, (given 3 property known).1⟩

end StackFlow
