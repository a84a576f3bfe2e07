import StackFlow.Proofs.FlowGraph.BackEdges

/-!
# What the search has come to

The path grows and shrinks while the search advances along the edges of the nodes on it, so what was
done so far has to be read off the state. The edges that were looked at are those before the next one
of a node on the path and those of the black nodes (`Search.Explored`), and the search has come to
the ends of all of them. A step looks at one more edge or at none, and at no edge twice. The list of
the edges looked at (`Search.examined`) therefore holds each of them once, and in the end it holds
each edge of the graph.
-/

namespace StackFlow

namespace Search

variable {graph : FlowGraph} {search next : Search} {node other : NodeId} {id : EdgeId}
  {frame : Frame} {frames : List Frame}

/-- Whether the search has come to a node. -/
def Seen (search : Search) (node : NodeId) : Prop :=
  ∃ colour, colour ≠ .white ∧ search.hasColour node colour = true

theorem seen_of_grey (grey : search.hasColour node .grey = true) : search.Seen node :=
  ⟨.grey, by decide, grey⟩

theorem seen_of_black (black : search.hasColour node .black = true) : search.Seen node :=
  ⟨.black, by decide, black⟩

theorem seen_of_not_white (inBounds : node < search.colours.size)
    (notWhite : search.hasColour node .white = false) : search.Seen node := by
  rcases exists_colour inBounds with ⟨colour, coloured⟩
  refine ⟨colour, ?_, coloured⟩
  rintro rfl
  rw [coloured] at notWhite
  cases notWhite

theorem Seen.not_white (seen : search.Seen node) : ¬search.hasColour node .white = true := by
  rcases seen with ⟨colour, notWhite, coloured⟩
  exact fun white => notWhite (colour_unique coloured white)

theorem seen_enter (inBounds : node < search.colours.size) :
    (search.enter node).Seen other ↔ other = node ∨ search.Seen other := by
  simp only [Seen, hasColour_enter inBounds]
  by_cases same : other = node
  · simp [same]
  · simp [same]

theorem seen_leave (inBounds : frame.node < search.colours.size) :
    (search.leave frame frames).Seen other ↔ other = frame.node ∨ search.Seen other := by
  simp only [Seen, hasColour_leave inBounds]
  by_cases same : other = frame.node
  · simp [same]
  · simp [same]

theorem Seen.move (seen : search.Seen node) (disciplined : Disciplined graph search)
    (move : Move graph search next) : next.Seen node := by
  cases move with
  | start _ _ white => exact (seen_enter (lt_size_of_hasColour white)).2 (.inr seen)
  | descend _ _ _ white => exact (seen_enter (lt_size_of_hasColour white)).2 (.inr seen)
  | leave top =>
      have grey := disciplined.frame_grey (top ▸ List.mem_cons_self)
      exact (seen_leave (lt_size_of_hasColour grey)).2 (.inr seen)
  | stay => exact seen
  | skip => exact seen
  | close => exact seen
  | pass => exact seen

/-! ### Edges that were looked at lead to nodes that were come to -/

theorem explored_of_advance (top : search.frames = frame :: frames)
    (nextEdge : (graph.outgoing frame.node)[frame.next]? = some id) {edge : EdgeId}
    (explored : Explored graph (search.advance frame frames) edge) :
    edge = id ∨ Explored graph search edge := by
  rcases explored with ⟨above, onPath, before⟩ | finished
  · rcases List.mem_cons.1 onPath with rfl | onPath
    · simp only [List.take_add_one, nextEdge, List.mem_append] at before
      rcases before with before | isNext
      · exact .inr (.inl ⟨frame, top ▸ List.mem_cons_self, before⟩)
      · exact .inl (by simpa using isNext)
    · exact .inr (.inl ⟨above, top ▸ List.mem_cons_of_mem _ onPath, before⟩)
  · exact .inr (.inr finished)

theorem explored_of_enter (inBounds : node < search.colours.size)
    (explored : Explored graph (search.enter node) id) : Explored graph search id := by
  rcases explored with ⟨above, onPath, before⟩ | ⟨finished, black, leaving⟩
  · rcases List.mem_cons.1 onPath with rfl | onPath
    · simp at before
    · exact .inl ⟨above, onPath, before⟩
  · rcases (hasColour_enter inBounds).1 black with ⟨_, isGrey⟩ | ⟨_, black⟩
    · cases isGrey
    · exact .inr ⟨finished, black, leaving⟩

theorem explored_of_leave (disciplined : Disciplined graph search)
    (top : search.frames = frame :: frames)
    (noNext : (graph.outgoing frame.node)[frame.next]? = none)
    (explored : Explored graph (search.leave frame frames) id) : Explored graph search id := by
  have onTop : frame ∈ search.frames := top ▸ List.mem_cons_self
  rcases explored with ⟨above, onPath, before⟩ | ⟨finished, black, leaving⟩
  · exact .inl ⟨above, top ▸ List.mem_cons_of_mem _ onPath, before⟩
  · have grey := disciplined.frame_grey onTop
    rcases (hasColour_leave (lt_size_of_hasColour grey)).1 black with ⟨rfl, _⟩ | ⟨_, black⟩
    · refine .inl ⟨frame, onTop, ?_⟩
      rwa [List.take_of_length_le (List.getElem?_eq_none_iff.1 noNext)]
    · exact .inr ⟨finished, black, leaving⟩

/-- The edge that the next step looks at, if it looks at one. -/
def nextEdge? (graph : FlowGraph) (search : Search) : Option EdgeId :=
  search.frames.head?.bind fun frame => (graph.outgoing frame.node)[frame.next]?

theorem nextEdge?_of_noFrames (noFrames : search.frames = []) :
    search.nextEdge? graph = none := by
  rw [nextEdge?, noFrames, List.head?_nil, Option.bind_none]

theorem nextEdge?_of_top (top : search.frames = frame :: frames) :
    search.nextEdge? graph = (graph.outgoing frame.node)[frame.next]? := by
  rw [nextEdge?, top, List.head?_cons, Option.bind_some]

/-- A step looks at one more edge at most. -/
theorem explored_move_iff (disciplined : Disciplined graph search)
    (move : Move graph search next) :
    Explored graph next id ↔ Explored graph search id ∨ search.nextEdge? graph = some id := by
  constructor
  · intro explored
    cases move with
    | stay => exact .inl explored
    | skip => exact .inl explored
    | start _ _ white => exact .inl (explored_of_enter (lt_size_of_hasColour white) explored)
    | descend top nextEdge known white =>
        have inBounds := lt_size_of_hasColour white
        rw [nextEdge?_of_top top, nextEdge, Option.some.injEq, eq_comm]
        exact (explored_of_advance top nextEdge (explored_of_enter inBounds explored)).symm
    | close top nextEdge =>
        rw [nextEdge?_of_top top, nextEdge, Option.some.injEq, eq_comm]
        exact (explored_of_advance top nextEdge explored).symm
    | pass top nextEdge =>
        rw [nextEdge?_of_top top, nextEdge, Option.some.injEq, eq_comm]
        exact (explored_of_advance top nextEdge explored).symm
    | leave top noNext => exact .inl (explored_of_leave disciplined top noNext explored)
  · rintro (explored | isNext)
    · exact explored.move disciplined move
    · cases move with
      | stay noFrames => simp [nextEdge?_of_noFrames noFrames] at isNext
      | skip noFrames => simp [nextEdge?_of_noFrames noFrames] at isNext
      | start noFrames => simp [nextEdge?_of_noFrames noFrames] at isNext
      | descend top =>
          rw [nextEdge?_of_top top] at isNext
          exact .inl ⟨_, List.mem_cons_of_mem _ List.mem_cons_self, mem_take_next isNext⟩
      | close top =>
          rw [nextEdge?_of_top top] at isNext
          exact explored_advance isNext
      | pass top =>
          rw [nextEdge?_of_top top] at isNext
          exact explored_advance isNext
      | leave top noNext => simp [nextEdge?_of_top top, noNext] at isNext

/-- No step looks at an edge that was looked at before. -/
theorem not_explored_of_nextEdge? (wellFormed : graph.WellFormed)
    (disciplined : Disciplined graph search) (isNext : search.nextEdge? graph = some id) :
    ¬Explored graph search id := by
  cases top : search.frames with
  | nil => simp [nextEdge?_of_noFrames top] at isNext
  | cons frame frames =>
      rw [nextEdge?_of_top top] at isNext
      exact not_explored_next wellFormed disciplined top isNext

/-- Says that the search has come to the end of every edge that it looked at. -/
def EndsSeen (graph : FlowGraph) (search : Search) : Prop :=
  ∀ id edge, Explored graph search id → graph.edge? id = some edge → search.Seen edge.target

theorem EndsSeen.move (endsSeen : EndsSeen graph search) (disciplined : Disciplined graph search)
    (move : Move graph search next) : EndsSeen graph next := by
  intro id edge explored known
  rcases (explored_move_iff disciplined move).1 explored with before | isNext
  · exact (endsSeen id edge before known).move disciplined move
  · cases move with
    | stay noFrames => simp [nextEdge?_of_noFrames noFrames] at isNext
    | skip noFrames => simp [nextEdge?_of_noFrames noFrames] at isNext
    | start noFrames => simp [nextEdge?_of_noFrames noFrames] at isNext
    | descend top nextEdge nextKnown white =>
        rw [nextEdge?_of_top top, nextEdge, Option.some.injEq] at isNext
        rw [isNext, known, Option.some.injEq] at nextKnown
        exact (seen_enter (lt_size_of_hasColour white)).2 (.inl (by rw [nextKnown]))
    | close top nextEdge nextKnown grey =>
        rw [nextEdge?_of_top top, nextEdge, Option.some.injEq] at isNext
        rw [isNext, known, Option.some.injEq] at nextKnown
        exact seen_of_grey (nextKnown ▸ grey)
    | pass top nextEdge nextKnown black =>
        rw [nextEdge?_of_top top, nextEdge, Option.some.injEq] at isNext
        rw [isNext, known, Option.some.injEq] at nextKnown
        exact seen_of_black (nextKnown ▸ black)
    | leave top noNext => simp [nextEdge?_of_top top, noNext] at isNext

theorem not_seen_initial (graph : FlowGraph) (node : NodeId) : ¬(initial graph).Seen node := by
  rintro ⟨colour, notWhite, coloured⟩
  rw [hasColour_iff, initial, Array.getElem?_replicate] at coloured
  split at coloured
  · exact notWhite (Option.some.inj coloured).symm
  · cases coloured

theorem not_explored_initial (graph : FlowGraph) (id : EdgeId) :
    ¬Explored graph (initial graph) id := by
  rintro (⟨frame, onPath, _⟩ | ⟨node, black, _⟩)
  · cases onPath
  · exact not_seen_initial graph node (seen_of_black black)

theorem endsSeen_initial (graph : FlowGraph) : EndsSeen graph (initial graph) :=
  fun id _ explored => absurd explored (not_explored_initial graph id)

/-- The edges that leave a black node were all looked at. -/
theorem EndsSeen.of_black (endsSeen : EndsSeen graph search) (wellFormed : graph.WellFormed)
    (black : search.hasColour node .black = true) (adjacent : graph.Adjacent node other) :
    search.Seen other := by
  rcases adjacent with ⟨id, known⟩
  exact endsSeen id _ (.inr ⟨node, black, wellFormed.outgoing.mem_endpoint known⟩) known

/-! ### The edges that were looked at, in order -/

/-- The search after a number of steps. -/
def after (graph : FlowGraph) (steps : Nat) : Search :=
  iterate (step graph) steps (initial graph)

/-- The edges that a number of steps looked at, in order. -/
def examined (graph : FlowGraph) (steps : Nat) : List EdgeId :=
  (List.range steps).filterMap fun earlier => (after graph earlier).nextEdge? graph

theorem after_succ (graph : FlowGraph) (steps : Nat) :
    after graph (steps + 1) = (after graph steps).step graph :=
  iterate_succ_right _ _ _

theorem examined_succ (graph : FlowGraph) (steps : Nat) :
    examined graph (steps + 1) =
      examined graph steps ++ ((after graph steps).nextEdge? graph).toList := by
  rw [examined, List.range_succ, List.filterMap_append, ← examined, List.filterMap_cons,
    List.filterMap_nil]
  cases (after graph steps).nextEdge? graph <;> rfl

/-- Says that a list holds the edges that were looked at, each once, and those found to close loops
in the order of the list. -/
structure Recorded (graph : FlowGraph) (search : Search) (edges : List EdgeId) : Prop where
  nodup : edges.Nodup
  mem_iff : ∀ id, id ∈ edges ↔ Explored graph search id
  found : search.found.reverse.Sublist edges

theorem recorded_initial (graph : FlowGraph) : Recorded graph (initial graph) [] := by
  refine ⟨List.nodup_nil, ?_, .slnil⟩
  intro id
  simp [not_explored_initial]

theorem found_reverse_sublist (move : Move graph search next) {edges : List EdgeId}
    (found : search.found.reverse.Sublist edges) :
    next.found.reverse.Sublist (edges ++ (search.nextEdge? graph).toList) := by
  cases move with
  | close top nextEdge =>
      rw [nextEdge?_of_top top, nextEdge, close, List.reverse_cons]
      exact found.append (.refl _)
  | _ => exact found.trans (List.sublist_append_left _ _)

theorem Recorded.move {edges : List EdgeId} (recorded : Recorded graph search edges)
    (wellFormed : graph.WellFormed) (disciplined : Disciplined graph search)
    (move : Move graph search next) :
    Recorded graph next (edges ++ (search.nextEdge? graph).toList) := by
  refine ⟨?_, ?_, found_reverse_sublist move recorded.found⟩
  · refine List.Nodup.append recorded.nodup (Option.toList_nodup _) ?_
    intro id member isNext
    rw [Option.mem_toList] at isNext
    exact not_explored_of_nextEdge? wellFormed disciplined isNext ((recorded.mem_iff id).1 member)
  · intro id
    rw [List.mem_append, recorded.mem_iff, Option.mem_toList, explored_move_iff disciplined move]

/-- What holds of the search and of the edges that it has looked at, after any number of steps. -/
structure Progress (graph : FlowGraph) (search : Search) (edges : List EdgeId) : Prop where
  invariant : Invariant graph search
  endsSeen : EndsSeen graph search
  recorded : Recorded graph search edges

theorem progress_after (wellFormed : graph.WellFormed) (steps : Nat) :
    Progress graph (after graph steps) (examined graph steps) := by
  induction steps with
  | zero => exact ⟨invariant_initial graph, endsSeen_initial graph, recorded_initial graph⟩
  | succ steps ih =>
      rcases ih with ⟨invariant, endsSeen, recorded⟩
      have move := move_step wellFormed invariant.disciplined.size
      rw [after_succ, examined_succ]
      exact ⟨invariant.step wellFormed, endsSeen.move invariant.disciplined move,
        recorded.move wellFormed invariant.disciplined move⟩

/-! ### The end of the search -/

/-- Steps beyond the end of a search change nothing, so it ends in one state only. -/
theorem after_eq_last (wellFormed : graph.WellFormed) {steps : Nat}
    (finished : Finished (after graph steps)) : after graph steps = last graph :=
  iterate_eq_of_fixed (step_of_finished finished) (step_of_finished (finished_last wellFormed))

/-- Every edge leaves a node, and in the end all nodes are black. -/
theorem Invariant.explored_iff_of_finished (invariant : Invariant graph search)
    (wellFormed : graph.WellFormed) (finished : Finished search) :
    Explored graph search id ↔ (graph.edge? id).isSome = true := by
  rw [Option.isSome_iff_exists]
  constructor
  · exact fun explored => explored.exists_edge wellFormed
  · rintro ⟨edge, known⟩
    have black := invariant.black_of_finished finished (wellFormed.source_lt known)
    exact .inr ⟨edge.source, black, wellFormed.outgoing.mem_endpoint known⟩

end Search

namespace FlowGraph

open Search

variable {graph : FlowGraph}

/-- The search keeps colours, path and examined edges in step, and it ends with every node left and
every edge looked at once. -/
theorem depthFirst_examines_once (built : graph.Built) :
    (∀ steps,
      (∀ node, (after graph steps).hasColour node .grey = true ↔
        node ∈ (after graph steps).frames.map Frame.node) ∧
      ((after graph steps).frames.map Frame.node).Nodup ∧
      ((after graph steps).frames.IsChain fun upper lower =>
        Joined graph (after graph steps) lower upper) ∧
      (∀ source target, (after graph steps).hasColour source .black = true →
        graph.Adjacent source target → ¬(after graph steps).hasColour target .white = true) ∧
      (examined graph steps).Nodup ∧
      ∀ id, id ∈ examined graph steps ↔
        (∃ frame ∈ (after graph steps).frames,
          id ∈ (graph.outgoing frame.node).take frame.next) ∨
        ∃ node, (after graph steps).hasColour node .black = true ∧ id ∈ graph.outgoing node) ∧
    Finished (after graph (stepBound graph)) ∧
    ∀ steps, Finished (after graph steps) →
      (∀ node < graph.nodeCount, (after graph steps).hasColour node .black = true) ∧
      (∀ id, (examined graph steps).count id = if (graph.edge? id).isSome then 1 else 0) ∧
      (depthFirstBackEdges graph).Sublist (examined graph steps) ∧
      (depthFirstBackEdges graph).Nodup ∧
      ∀ id ∈ depthFirstBackEdges graph, (graph.edge? id).isSome = true := by
  have wellFormed := built.wellFormed
  refine ⟨?_, finished_last wellFormed, ?_⟩
  · intro steps
    rcases progress_after wellFormed steps with ⟨⟨disciplined, tracked, _⟩, endsSeen, recorded⟩
    refine ⟨disciplined.grey_iff, disciplined.nodup, tracked.joined, ?_, recorded.nodup,
      recorded.mem_iff⟩
    intro source target black adjacent
    exact (endsSeen.of_black wellFormed black adjacent).not_white
  · intro steps finished
    rcases progress_after wellFormed steps with ⟨invariant, _, recorded⟩
    have mem_iff : ∀ id, id ∈ examined graph steps ↔ (graph.edge? id).isSome = true := fun id =>
      (recorded.mem_iff id).trans (invariant.explored_iff_of_finished wellFormed finished)
    have inOrder : (depthFirstBackEdges graph).Sublist (examined graph steps) := by
      rw [depthFirstBackEdges, ← last, ← after_eq_last wellFormed finished]
      exact recorded.found
    refine ⟨?_, ?_, inOrder, recorded.nodup.sublist inOrder, ?_⟩
    · intro node inGraph
      exact invariant.black_of_finished finished inGraph
    · intro id
      rw [recorded.nodup.count]
      simp only [mem_iff id]
    · intro id isFound
      exact (mem_iff id).1 (inOrder.subset isFound)

theorem depthFirst_examines_once_nestedLoops :
    nestedLoops.Built ∧
      (after nestedLoops 8).frames = [⟨2, 1⟩, ⟨1, 2⟩, ⟨0, 1⟩] ∧
      (after nestedLoops 8).hasColour 3 .black = true ∧
      ¬(after nestedLoops 8).hasColour 1 .white = true ∧
      examined nestedLoops 8 = [0, 1, 2, 3, 4, 6] ∧
      Finished (after nestedLoops 21) ∧
      (∀ id, (examined nestedLoops 21).count id =
        if (nestedLoops.edge? id).isSome then 1 else 0) ∧
      depthFirstBackEdges nestedLoops = [1, 4, 6, 8] ∧ (depthFirstBackEdges nestedLoops).Nodup := by
  have built : nestedLoops.Built := ⟨_, rfl⟩
  have black : (after nestedLoops 8).hasColour 3 .black = true := by decide +kernel
  have adjacent : nestedLoops.Adjacent 3 1 := ⟨6, by decide +kernel⟩
  have finished : Finished (after nestedLoops 21) := ⟨by decide +kernel, by decide +kernel⟩
  rcases depthFirst_examines_once built with ⟨always, _, atEnd⟩
  rcases always 8 with ⟨_, _, _, notWhite, _⟩
  rcases atEnd 21 finished with ⟨_, once, _, nodup, _⟩
  exact ⟨built, by decide +kernel, black, notWhite 3 1 black adjacent, by decide +kernel, finished,
    once, by decide +kernel, nodup⟩

end FlowGraph

end StackFlow
