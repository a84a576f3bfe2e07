import StackFlow.Proofs.FlowGraph.Exploration
import StackFlow.Proofs.Propagation.Coverage
import StackFlow.Proofs.Propagation.States

/-!
# Entries

A node that no edge enters is given initial states, so breaking loops must not make such a node out
of a loop's header. The search starts at the roots before it starts anywhere else. As long as it
does, every node that it has come to is attached: edges that stay lead to it from a root. When it
starts at another node for the first time, nothing is on the path, and the edges of black nodes lead
to nodes that it has come to, so it has come to all that the roots reach. Whatever the roots reach
is therefore attached at the end, and is entered by an edge that stays unless it is a root itself.
-/

namespace StackFlow

open Relation

namespace Search

variable {graph : FlowGraph} {search next : Search} {node other : NodeId} {id : EdgeId}
  {frame : Frame} {frames : List Frame}

/-- When nothing is on the path, the search has come to all that can be reached from where it has
come to. -/
theorem EndsSeen.of_reaches (endsSeen : EndsSeen graph search) (wellFormed : graph.WellFormed)
    (disciplined : Disciplined graph search) (noFrames : search.frames = [])
    (seen : search.Seen node) (reaches : graph.Reaches node other) : search.Seen other := by
  induction reaches with
  | refl => exact seen
  | tail _ adjacent ih =>
      rcases ih with ⟨colour, notWhite, coloured⟩
      cases colour with
      | white => exact absurd rfl notWhite
      | grey =>
          have onPath := (disciplined.grey_iff _).1 coloured
          rw [noFrames] at onPath
          cases onPath
      | black => exact endsSeen.of_black wellFormed coloured adjacent

/-! ### Roots come first -/

/-- Says that the starts are taken in order: the search has come to all those that are not left. -/
def InOrder (graph : FlowGraph) (search : Search) : Prop :=
  ∃ taken, graph.roots ++ graph.nodeIds = taken ++ search.starts ∧ ∀ node ∈ taken, search.Seen node

theorem InOrder.move (inOrder : InOrder graph search) (disciplined : Disciplined graph search)
    (move : Move graph search next) : InOrder graph next := by
  rcases inOrder with ⟨taken, split, seen⟩
  have stillSeen : ∀ node ∈ taken, next.Seen node := fun node member =>
    (seen node member).move disciplined move
  -- Only the moves that take a start shorten the list of starts.
  have takes : ∀ {node starts}, search.starts = node :: starts → next.starts = starts →
      next.Seen node → InOrder graph next := by
    intro node starts nextStart nextStarts nodeSeen
    refine ⟨taken ++ [node], ?_, ?_⟩
    · rw [split, nextStart, nextStarts, List.append_assoc, List.singleton_append]
    · intro other member
      rcases List.mem_append.1 member with member | isNode
      · exact stillSeen other member
      · rw [List.mem_singleton.1 isNode]
        exact nodeSeen
  cases move with
  | start _ nextStart white =>
      exact takes nextStart rfl ((seen_enter (lt_size_of_hasColour white)).2 (.inl rfl))
  | @skip node starts _ nextStart notWhite =>
      apply takes nextStart rfl
      apply seen_of_not_white _ notWhite
      rw [disciplined.size]
      have member : node ∈ graph.roots ++ graph.nodeIds := by simp [split, nextStart]
      have inGraph : node ∈ graph.nodeIds :=
        (List.mem_append.1 member).elim List.mem_of_mem_filter id
      exact List.mem_range.1 inGraph
  | stay => exact ⟨taken, split, stillSeen⟩
  | descend => exact ⟨taken, split, stillSeen⟩
  | close => exact ⟨taken, split, stillSeen⟩
  | pass => exact ⟨taken, split, stillSeen⟩
  | leave => exact ⟨taken, split, stillSeen⟩

/-- All roots were taken before a start that is no root. -/
theorem InOrder.roots_seen (inOrder : InOrder graph search) {starts : List NodeId}
    (nextStart : search.starts = node :: starts) (notRoot : node ∉ graph.roots) :
    ∀ root ∈ graph.roots, search.Seen root := by
  rcases inOrder with ⟨taken, split, seen⟩
  rw [nextStart] at split
  intro root isRoot
  rcases List.append_eq_append_iff.1 split with ⟨rest, isTaken, _⟩ | ⟨rest, isRoots, isRest⟩
  · exact seen root (by simp [isTaken, isRoot])
  · cases rest with
    | nil => exact seen root (by simpa [isRoots] using isRoot)
    | cons first rest =>
        rw [List.cons_append, List.cons.injEq] at isRest
        refine absurd ?_ notRoot
        simp [isRoots, isRest.1]

/-- Whether edges that were looked at and stay lead from a root to a node. -/
def Attached (graph : FlowGraph) (search : Search) (node : NodeId) : Prop :=
  ∃ root ∈ graph.roots, ReflTransGen (Kept graph search) root node

/-- Says that the search has come to attached nodes only, or that all that the roots reach is
attached. -/
def RootsFirst (graph : FlowGraph) (search : Search) : Prop :=
  (∀ node, search.Seen node → Attached graph search node) ∨
    ∀ root ∈ graph.roots, ∀ node, graph.Reaches root node → Attached graph search node

theorem Attached.move (attached : Attached graph search node) (wellFormed : graph.WellFormed)
    (disciplined : Disciplined graph search) (move : Move graph search next) :
    Attached graph next node := by
  rcases attached with ⟨root, isRoot, kept⟩
  refine ⟨root, isRoot, ?_⟩
  exact ReflTransGen.mono (fun _ _ kept => Kept.move kept wellFormed disciplined move) _ _ kept

/-- What holds of a search that takes the roots as starts before all other nodes. -/
structure Rooted (graph : FlowGraph) (search : Search) : Prop where
  invariant : Invariant graph search
  endsSeen : EndsSeen graph search
  inOrder : InOrder graph search
  rootsFirst : RootsFirst graph search

/-- The current node is joined to the node that is entered from it. -/
theorem Invariant.kept_descend (invariant : Invariant graph search) (wellFormed : graph.WellFormed)
    {edge : Edge} (top : search.frames = frame :: frames)
    (nextEdge : (graph.outgoing frame.node)[frame.next]? = some id)
    (known : graph.edge? id = some edge) (white : search.hasColour edge.target .white = true) :
    Kept graph ((search.advance frame frames).enter edge.target) frame.node edge.target := by
  have move : Move graph search _ := .descend top nextEdge known white
  have joined := (invariant.tracked.move wellFormed invariant.disciplined move).joined
  exact (List.isChain_cons_cons.1 joined).1.kept (by simp [enter, advance])

theorem Rooted.rootsFirst_move (rooted : Rooted graph search) (wellFormed : graph.WellFormed)
    (move : Move graph search next) : RootsFirst graph next := by
  have disciplined := rooted.invariant.disciplined
  have stillAttached : ∀ {node}, Attached graph search node → Attached graph next node :=
    fun attached => attached.move wellFormed disciplined move
  rcases rooted.rootsFirst with seenAttached | reachedAttached
  · have old : ∀ node, search.Seen node → Attached graph next node := fun node seen =>
      stillAttached (seenAttached node seen)
    cases move with
    | @start node starts noFrames nextStart white =>
        by_cases isRoot : node ∈ graph.roots
        · left
          intro other seen
          rcases (seen_enter (lt_size_of_hasColour white)).1 seen with rfl | seen
          · exact ⟨other, isRoot, .refl⟩
          · exact old other seen
        · -- The first start that is no root: nothing that the roots reach is left.
          right
          intro root rootMember reached reaches
          have rootSeen := rooted.inOrder.roots_seen nextStart isRoot root rootMember
          exact old reached
            (rooted.endsSeen.of_reaches wellFormed disciplined noFrames rootSeen reaches)
    | @descend frame frames id edge top nextEdge known white =>
        left
        intro other seen
        rcases (seen_enter (lt_size_of_hasColour white)).1 seen with rfl | seen
        · have grey := disciplined.frame_grey (top ▸ List.mem_cons_self)
          rcases old frame.node (seen_of_grey grey) with ⟨root, isRoot, kept⟩
          exact ⟨root, isRoot,
            kept.tail (rooted.invariant.kept_descend wellFormed top nextEdge known white)⟩
        · exact old other seen
    | @leave frame frames top noNext =>
        left
        intro other seen
        have grey := disciplined.frame_grey (top ▸ List.mem_cons_self)
        rcases (seen_leave (lt_size_of_hasColour grey)).1 seen with rfl | seen
        · exact old frame.node (seen_of_grey grey)
        · exact old other seen
    | stay => exact .inl old
    | skip => exact .inl old
    | close => exact .inl old
    | pass => exact .inl old
  · right
    intro root isRoot reached reaches
    exact stillAttached (reachedAttached root isRoot reached reaches)

theorem rooted_initial (graph : FlowGraph) : Rooted graph (initial graph) := by
  refine ⟨invariant_initial graph, endsSeen_initial graph, ⟨[], by simp [initial], by simp⟩, ?_⟩
  exact .inl fun node seen => absurd seen (not_seen_initial graph node)

theorem Rooted.step (rooted : Rooted graph search) (wellFormed : graph.WellFormed) :
    Rooted graph (search.step graph) := by
  have disciplined := rooted.invariant.disciplined
  have move := move_step wellFormed disciplined.size
  exact ⟨rooted.invariant.step wellFormed, rooted.endsSeen.move disciplined move,
    rooted.inOrder.move disciplined move, rooted.rootsFirst_move wellFormed move⟩

/-- When the search is over, all that the roots reach is attached. -/
theorem attached_last (wellFormed : graph.WellFormed) {root : NodeId} (isRoot : root ∈ graph.roots)
    (reaches : graph.Reaches root node) : Attached graph (last graph) node := by
  have rooted : Rooted graph (last graph) :=
    iterate_preserves (Rooted graph) (fun _ rooted => rooted.step wellFormed)
      (rooted_initial graph) _
  rcases rooted.rootsFirst with seenAttached | reachedAttached
  · apply seenAttached
    have inGraph : node < graph.nodeCount := by
      rcases reaches.cases_tail with rfl | ⟨_, _, adjacent⟩
      · exact (wellFormed.mem_roots.1 isRoot).1
      · exact wellFormed.target_lt_of_adjacent adjacent
    exact seen_of_black (rooted.invariant.black_of_finished (finished_last wellFormed) inGraph)
  · exact reachedAttached root isRoot node reaches

end Search

namespace FlowGraph

variable {graph : FlowGraph} {node : NodeId}

theorem mem_roots_removeBackEdges (built : graph.Built) (finder : BackEdgeFinder)
    (isRoot : node ∈ graph.roots) : node ∈ (graph.removeBackEdges finder).2.roots := by
  rw [(built.removeBackEdges finder).wellFormed.mem_roots, removeBackEdges, nodeCount_removeEdges]
  rcases built.wellFormed.mem_roots.1 isRoot with ⟨inGraph, notEntered⟩
  refine ⟨inGraph, ?_⟩
  rintro source ⟨id, known⟩
  rw [edge?_removeEdges] at known
  split at known
  · cases known
  · exact notEntered source ⟨id, known⟩

theorem reaches_removeBackEdges_of_root (wellFormed : graph.WellFormed) {root : NodeId}
    (isRoot : root ∈ graph.roots) (reaches : graph.Reaches root node) :
    ∃ start ∈ graph.roots, (graph.removeBackEdges depthFirstBackEdges).2.Reaches start node := by
  rcases Search.attached_last wellFormed isRoot reaches with ⟨start, isStart, kept⟩
  refine ⟨start, isStart, ReflTransGen.mono ?_ _ _ kept⟩
  rintro source target ⟨id, _, notFound, known⟩
  exact ⟨id, edge?_removeBackEdges.2 ⟨notFound, known⟩⟩

/-- A node that a root reaches is a root itself, or is still entered. -/
theorem mem_roots_or_adjacent_of_reaches (wellFormed : graph.WellFormed) {root : NodeId}
    (isRoot : root ∈ graph.roots) (reaches : graph.Reaches root node) :
    node ∈ graph.roots ∨
      ∃ source, (graph.removeBackEdges depthFirstBackEdges).2.Adjacent source node := by
  rcases reaches_removeBackEdges_of_root wellFormed isRoot reaches with ⟨start, isStart, path⟩
  rcases path.cases_tail with rfl | ⟨source, _, adjacent⟩
  · exact .inl isStart
  · exact .inr ⟨source, adjacent⟩

end FlowGraph

/-- Breaking loops makes no entry out of a node that could be reached before. Roots stay roots,
whatever the roots reach stays within reach of the roots, and no more of it is a root than was one
before. Hence an analysis gives none of the rest of it initial states: each state before such a node
was handed on by a predecessor. -/
theorem analyze_noNewEntries {graph : FlowGraph} (built : graph.Built) {rest : FlowGraph}
    (isRest : rest = (graph.removeBackEdges FlowGraph.depthFirstBackEdges).2) :
    (∀ root ∈ graph.roots, root ∈ rest.roots) ∧
    (∀ node, (∃ root ∈ graph.roots, graph.Reaches root node) →
      ∃ root ∈ graph.roots, rest.Reaches root node) ∧
    (∀ node, (∃ root ∈ graph.roots, graph.Reaches root node) → node ∈ rest.roots →
      node ∈ graph.roots) ∧
    ∀ method settings analysis,
      analyze method graph FlowGraph.depthFirstBackEdges settings = .ok (analysis, rest) →
        ∀ node property, (∃ root ∈ graph.roots, graph.Reaches root node) → node ∉ graph.roots →
          analysis.property? node = some property → ∀ state ∈ property.statesBefore.states,
            ∃ source found, rest.Adjacent source node ∧ analysis.property? source = some found ∧
              state ∈ found.statesAfter.states := by
  have wellFormed := built.wellFormed
  have restWellFormed := (built.removeBackEdges FlowGraph.depthFirstBackEdges).wellFormed
  rw [← isRest] at restWellFormed
  subst isRest
  refine ⟨?_, ?_, ?_, ?_⟩
  · intro root isRoot
    exact FlowGraph.mem_roots_removeBackEdges built _ isRoot
  · rintro node ⟨root, isRoot, reaches⟩
    exact FlowGraph.reaches_removeBackEdges_of_root wellFormed isRoot reaches
  · rintro node ⟨root, isRoot, reaches⟩ isNewRoot
    rcases FlowGraph.mem_roots_or_adjacent_of_reaches wellFormed isRoot reaches with
      wasRoot | ⟨source, adjacent⟩
    · exact wasRoot
    · exact absurd adjacent ((restWellFormed.mem_roots.1 isNewRoot).2 source)
  · rintro method settings analysis analyzed node property ⟨root, isRoot, reaches⟩ notRoot visited
      state member
    have records := (eq_of_analyze analyzed).2.1
    rw [records.property?] at visited
    rcases FlowGraph.mem_roots_or_adjacent_of_reaches wellFormed isRoot reaches with
      wasRoot | ⟨source, adjacent⟩
    · exact absurd wasRoot notRoot
    · rcases (Propagation.collects_statesBefore restWellFormed visited adjacent).sound state member
        with ⟨predecessor, found, entering, foundVisited, after⟩
      exact ⟨predecessor, found, entering, by rw [records.property?, foundVisited], after⟩

/-- A loop that is entered at both of its nodes, and a loop that is not entered at all. -/
def twiceEntered : FlowGraph :=
  .ofCalls (List.replicate 6 (.addNode 0 "" .simple none) ++
    [.addEdge 0 2, .addEdge 2 3, .addEdge 3 2, .addEdge 1 3, .addEdge 4 5, .addEdge 5 4])

theorem analyze_noNewEntries_twiceEntered :
    twiceEntered.Built ∧ twiceEntered.roots = [0, 1] ∧ twiceEntered.Reaches 1 2 ∧
      ∃ analysis rest property,
        analyze {} twiceEntered FlowGraph.depthFirstBackEdges {} = .ok (analysis, rest) ∧
        rest.roots = [0, 1, 4] ∧ 1 ∈ rest.roots ∧
        (∃ root ∈ twiceEntered.roots, rest.Reaches root 2) ∧ 2 ∉ rest.roots ∧
        analysis.property? 2 = some property ∧
        ∀ state ∈ property.statesBefore.states, ∃ source found, rest.Adjacent source 2 ∧
          analysis.property? source = some found ∧ state ∈ found.statesAfter.states := by
  have built : twiceEntered.Built := ⟨_, rfl⟩
  have valid : twiceEntered.validate {} = .ok () := by decide +kernel
  have roots : twiceEntered.roots = [0, 1] := by decide +kernel
  have reaches : twiceEntered.Reaches 1 2 := by
    have entering : twiceEntered.Adjacent 1 3 := ⟨3, by decide +kernel⟩
    have back : twiceEntered.Adjacent 3 2 := ⟨2, by decide +kernel⟩
    exact .head entering (.single back)
  have reached : ∃ root ∈ twiceEntered.roots, twiceEntered.Reaches root 2 :=
    ⟨1, by simp [roots], reaches⟩
  have notRoot : 2 ∉ twiceEntered.roots := by simp [roots]
  rcases analyze_of_valid valid FlowGraph.depthFirstBackEdges {} with ⟨analysis, analyzed, _, _⟩
  have visited : ((analyze {} twiceEntered FlowGraph.depthFirstBackEdges {}).toOption.bind
      fun result => result.1.property? 2).isSome = true := by decide +kernel
  simp only [analyzed, Except.toOption, Option.bind_some, Option.isSome_iff_exists] at visited
  rcases visited with ⟨property, visited⟩
  rcases analyze_noNewEntries built rfl with ⟨stays, stillReached, noneNew, handedOn⟩
  exact ⟨built, roots, reaches, analysis, _, property, analyzed, by decide +kernel,
    stays 1 (by simp [roots]), stillReached 2 reached,
    fun isRoot => notRoot (noneNew 2 reached isRoot), visited,
    handedOn {} {} analysis analyzed 2 property reached notRoot visited⟩

end StackFlow
