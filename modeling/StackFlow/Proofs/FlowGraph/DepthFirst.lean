import Mathlib.Data.Finset.Card
import Mathlib.Data.List.Chain
import StackFlow.Proofs.FlowGraph.Reachability
import StackFlow.Proofs.Iteration

/-!
# The depth-first search

`Search.Move` says once what a step of the search can do, and every invariant is derived from it.
The invariants come in three layers. `Disciplined` ties the colours to the path: the grey nodes are
those on the path, each once. `Tracked` says which edges have been looked at and that the edges
between neighbours on the path, as well as a way round for each edge found, are among those that
stay. `Finishing` says that an edge which stays and leaves a black node leads to a black node, so
that black nodes are accessible along the edges that stay, which rules out cycles.
-/

namespace StackFlow

open Relation

namespace Search

/-- Goes on to the next edge of the current node. -/
def advance (search : Search) (frame : Frame) (frames : List Frame) : Search :=
  { search with frames := { frame with next := frame.next + 1 } :: frames }

/-- Leaves the current node. -/
def leave (search : Search) (frame : Frame) (frames : List Frame) : Search :=
  { search with
    colours := search.colours.setIfInBounds frame.node .black
    frames }

/-- Notes that an edge closes a loop. -/
def close (search : Search) (id : EdgeId) : Search := { search with found := id :: search.found }

/-- What a step can do: nothing, take a start, look at an edge of the current node, or leave it. -/
inductive Move (graph : FlowGraph) (search : Search) : Search → Prop where
  | stay (noFrames : search.frames = []) (noStarts : search.starts = []) :
      Move graph search search
  | start {node : NodeId} {starts : List NodeId} (noFrames : search.frames = [])
      (next : search.starts = node :: starts) (white : search.hasColour node .white = true) :
      Move graph search ({ search with starts }.enter node)
  | skip {node : NodeId} {starts : List NodeId} (noFrames : search.frames = [])
      (next : search.starts = node :: starts) (seen : search.hasColour node .white = false) :
      Move graph search { search with starts }
  | descend {frame : Frame} {frames : List Frame} {id : EdgeId} {edge : Edge}
      (top : search.frames = frame :: frames)
      (next : (graph.outgoing frame.node)[frame.next]? = some id)
      (known : graph.edge? id = some edge)
      (white : search.hasColour edge.target .white = true) :
      Move graph search ((search.advance frame frames).enter edge.target)
  | close {frame : Frame} {frames : List Frame} {id : EdgeId} {edge : Edge}
      (top : search.frames = frame :: frames)
      (next : (graph.outgoing frame.node)[frame.next]? = some id)
      (known : graph.edge? id = some edge)
      (grey : search.hasColour edge.target .grey = true) :
      Move graph search ((search.advance frame frames).close id)
  | pass {frame : Frame} {frames : List Frame} {id : EdgeId} {edge : Edge}
      (top : search.frames = frame :: frames)
      (next : (graph.outgoing frame.node)[frame.next]? = some id)
      (known : graph.edge? id = some edge)
      (black : search.hasColour edge.target .black = true) :
      Move graph search (search.advance frame frames)
  | leave {frame : Frame} {frames : List Frame} (top : search.frames = frame :: frames)
      (noNext : (graph.outgoing frame.node)[frame.next]? = none) :
      Move graph search (search.leave frame frames)

section Colours

variable {search : Search} {node other : NodeId} {colour : Colour}

theorem hasColour_iff : search.hasColour node colour = true ↔
    search.colours[node]? = some colour := by
  simp [hasColour]

theorem lt_size_of_hasColour (coloured : search.hasColour node colour = true) :
    node < search.colours.size :=
  (Array.getElem?_eq_some_iff.1 (hasColour_iff.1 coloured)).1

theorem colour_unique {colour' : Colour} (first : search.hasColour node colour = true)
    (second : search.hasColour node colour' = true) : colour = colour' := by
  rw [hasColour_iff] at first second
  rw [first] at second
  exact Option.some.inj second

theorem exists_colour (inBounds : node < search.colours.size) :
    ∃ colour, search.hasColour node colour = true :=
  ⟨search.colours[node], hasColour_iff.2 (Array.getElem?_eq_getElem inBounds)⟩

theorem hasColour_setIfInBounds {colours : Array Colour} {frames : List Frame}
    {starts : List NodeId} {found : List EdgeId} {new : Colour} (inBounds : node < colours.size) :
    hasColour ⟨colours.setIfInBounds node new, frames, starts, found⟩ other colour = true ↔
      (other = node ∧ colour = new) ∨ (other ≠ node ∧ colours[other]? = some colour) := by
  rw [hasColour_iff, Array.getElem?_setIfInBounds]
  by_cases same : node = other
  · subst other
    simp [inBounds, eq_comm]
  · simp [same, Ne.symm same]

theorem hasColour_enter (inBounds : node < search.colours.size) :
    (search.enter node).hasColour other colour = true ↔
      (other = node ∧ colour = .grey) ∨ (other ≠ node ∧ search.hasColour other colour = true) := by
  rw [enter, hasColour_setIfInBounds inBounds, hasColour_iff]

theorem hasColour_leave {frame : Frame} {frames : List Frame}
    (inBounds : frame.node < search.colours.size) :
    (search.leave frame frames).hasColour other colour = true ↔
      (other = frame.node ∧ colour = .black) ∨
        (other ≠ frame.node ∧ search.hasColour other colour = true) := by
  rw [leave, hasColour_setIfInBounds inBounds, hasColour_iff]

end Colours

/-- A step of the search is one of the moves. -/
theorem move_step {graph : FlowGraph} (wellFormed : graph.WellFormed) {search : Search}
    (size : search.colours.size = graph.nodeCount) : Move graph search (search.step graph) := by
  unfold step
  split
  · next noFrames =>
    split
    · next noStarts => exact .stay noFrames noStarts
    · next node starts next =>
      dsimp only
      split
      · next white => exact .start noFrames next white
      · next seen => exact .skip noFrames next (Bool.eq_false_iff.2 seen)
  · next frame frames top =>
    split
    · next id next =>
      rcases wellFormed.outgoing.exists_edge (List.mem_of_getElem? next) with ⟨edge, known, _⟩
      simp only [known]
      have inBounds : edge.target < search.colours.size := by
        rw [size]
        exact wellFormed.target_lt known
      rcases exists_colour inBounds with ⟨colour, coloured⟩
      cases colour with
      | white =>
          have entered : (search.advance frame frames).follow id edge.target =
              (search.advance frame frames).enter edge.target := if_pos coloured
          exact entered ▸ .descend top next known coloured
      | grey =>
          have notWhite : ¬search.hasColour edge.target .white = true := fun white =>
            nomatch colour_unique coloured white
          have closed : (search.advance frame frames).follow id edge.target =
              (search.advance frame frames).close id := by
            exact (if_neg notWhite).trans (if_pos coloured)
          exact closed ▸ .close top next known coloured
      | black =>
          have notWhite : ¬search.hasColour edge.target .white = true := fun white =>
            nomatch colour_unique coloured white
          have notGrey : ¬search.hasColour edge.target .grey = true := fun grey =>
            nomatch colour_unique coloured grey
          have passed : (search.advance frame frames).follow id edge.target =
              search.advance frame frames := by
            exact (if_neg notWhite).trans (if_neg notGrey)
          exact passed ▸ .pass top next known coloured
    · next noNext => exact .leave top noNext

/-! ### Colours and the path -/

/-- Says that the grey nodes are those on the path, each once, and that white nodes are still to be
started from. -/
structure Disciplined (graph : FlowGraph) (search : Search) : Prop where
  size : search.colours.size = graph.nodeCount
  grey_iff : ∀ node, search.hasColour node .grey = true ↔ node ∈ search.frames.map Frame.node
  nodup : (search.frames.map Frame.node).Nodup
  started : ∀ {node}, search.hasColour node .white = true → node ∈ search.starts

theorem disciplined_initial (graph : FlowGraph) : Disciplined graph (initial graph) := by
  have coloured : ∀ {node colour}, (initial graph).hasColour node colour = true →
      node < graph.nodeCount ∧ colour = .white := by
    intro node colour coloured
    rw [hasColour_iff, initial, Array.getElem?_replicate] at coloured
    split at coloured
    · next inBounds => exact ⟨inBounds, (Option.some.inj coloured).symm⟩
    · cases coloured
  constructor
  · simp [initial]
  · intro node
    constructor
    · intro grey
      exact nomatch (coloured grey).2
    · simp [initial]
  · simp [initial]
  · intro node white
    simp [initial, FlowGraph.nodeIds, (coloured white).1]

theorem map_node_advance {search : Search} {frame : Frame} {frames : List Frame}
    (top : search.frames = frame :: frames) :
    (search.advance frame frames).frames.map Frame.node = search.frames.map Frame.node := by
  simp [advance, top]

namespace Disciplined

variable {graph : FlowGraph} {search next : Search}

theorem advance (disciplined : Disciplined graph search) {frame : Frame} {frames : List Frame}
    (top : search.frames = frame :: frames) : Disciplined graph (search.advance frame frames) := by
  constructor
  · exact disciplined.size
  · intro node
    rw [map_node_advance top]
    exact disciplined.grey_iff node
  · rw [map_node_advance top]
    exact disciplined.nodup
  · exact disciplined.started

/-- A white node can be entered; it need not be started from any more. -/
theorem enter (disciplined : Disciplined graph search) {node : NodeId} {starts : List NodeId}
    (white : search.hasColour node .white = true)
    (others : ∀ other ∈ search.starts, other ≠ node → other ∈ starts) :
    Disciplined graph ({ search with starts }.enter node) := by
  have inBounds := lt_size_of_hasColour white
  have notOnPath : node ∉ search.frames.map Frame.node := by
    intro onPath
    exact nomatch colour_unique white ((disciplined.grey_iff node).2 onPath)
  constructor
  · simpa [Search.enter] using disciplined.size
  · intro other
    refine Iff.trans (hasColour_enter inBounds) ?_
    by_cases same : other = node
    · simp [Search.enter, same]
    · simp only [Search.enter, List.map_cons, List.mem_cons, same, false_and, false_or, ne_eq,
        not_false_eq_true, true_and]
      exact disciplined.grey_iff other
  · exact List.nodup_cons.2 ⟨notOnPath, disciplined.nodup⟩
  · intro other otherWhite
    rcases (hasColour_enter inBounds).1 otherWhite with ⟨_, isGrey⟩ | ⟨different, otherWhite⟩
    · cases isGrey
    · exact others other (disciplined.started otherWhite) different

theorem frame_grey (disciplined : Disciplined graph search) {frame : Frame}
    (onPath : frame ∈ search.frames) : search.hasColour frame.node .grey = true :=
  (disciplined.grey_iff frame.node).2 (List.mem_map_of_mem onPath)

theorem leave (disciplined : Disciplined graph search) {frame : Frame} {frames : List Frame}
    (top : search.frames = frame :: frames) : Disciplined graph (search.leave frame frames) := by
  have onPath : frame ∈ search.frames := by simp [top]
  have grey := disciplined.frame_grey onPath
  have inBounds := lt_size_of_hasColour grey
  have nodup := disciplined.nodup
  rw [top, List.map_cons, List.nodup_cons] at nodup
  constructor
  · simpa [Search.leave] using disciplined.size
  · intro other
    have before := disciplined.grey_iff other
    rw [top, List.map_cons, List.mem_cons] at before
    rw [hasColour_leave inBounds]
    by_cases same : other = frame.node
    · subst other
      simpa [Search.leave] using nodup.1
    · simpa [Search.leave, same] using before
  · exact nodup.2
  · intro other otherWhite
    rcases (hasColour_leave inBounds).1 otherWhite with ⟨_, isBlack⟩ | ⟨_, otherWhite⟩
    · cases isBlack
    · exact disciplined.started otherWhite

theorem move (disciplined : Disciplined graph search) (move : Move graph search next) :
    Disciplined graph next := by
  cases move with
  | stay => exact disciplined
  | start noFrames next white =>
      apply disciplined.enter white
      intro other member different
      rw [next] at member
      exact (List.mem_cons.1 member).resolve_left different
  | @skip node starts noFrames next seen =>
      refine ⟨disciplined.size, disciplined.grey_iff, disciplined.nodup, ?_⟩
      intro other white
      have member := disciplined.started white
      rw [next] at member
      rcases List.mem_cons.1 member with rfl | member
      · exact absurd white (Bool.eq_false_iff.1 seen)
      · exact member
  | descend top next known white =>
      exact (disciplined.advance top).enter white fun other member _ => member
  | close top next known grey =>
      have advanced := disciplined.advance top
      exact ⟨advanced.size, advanced.grey_iff, advanced.nodup, advanced.started⟩
  | pass top next known black => exact disciplined.advance top
  | leave top noNext => exact disciplined.leave top

theorem black_leave (disciplined : Disciplined graph search) {frame : Frame} {frames : List Frame}
    (top : search.frames = frame :: frames) :
    (search.leave frame frames).hasColour frame.node .black = true := by
  have onPath : frame ∈ search.frames := by simp [top]
  have grey := disciplined.frame_grey onPath
  exact (hasColour_leave (lt_size_of_hasColour grey)).2 (.inl ⟨rfl, rfl⟩)

theorem black_move (disciplined : Disciplined graph search) (move : Move graph search next)
    {node : NodeId} (black : search.hasColour node .black = true) :
    next.hasColour node .black = true := by
  have different : ∀ {other colour}, colour ≠ .black → search.hasColour other colour = true →
      node ≠ other := by
    rintro other colour notBlack coloured rfl
    exact notBlack (colour_unique coloured black)
  cases move with
  | stay => exact black
  | start noFrames next white =>
      exact (hasColour_enter (lt_size_of_hasColour white)).2
        (.inr ⟨different (by decide) white, black⟩)
  | skip => exact black
  | descend top next known white =>
      exact (hasColour_enter (lt_size_of_hasColour white)).2
        (.inr ⟨different (by decide) white, black⟩)
  | close => exact black
  | pass => exact black
  | @leave frame frames top noNext =>
      have onPath : frame ∈ search.frames := by simp [top]
      have grey := disciplined.frame_grey onPath
      exact (hasColour_leave (lt_size_of_hasColour grey)).2
        (.inr ⟨different (by decide) grey, black⟩)

end Disciplined

/-! ### Edges that were looked at -/

/-- Whether an edge was looked at: it comes before the next one of its node on the path, or it
leaves a black node. -/
def Explored (graph : FlowGraph) (search : Search) (id : EdgeId) : Prop :=
  (∃ frame ∈ search.frames, id ∈ (graph.outgoing frame.node).take frame.next) ∨
    ∃ node, search.hasColour node .black = true ∧ id ∈ graph.outgoing node

/-- Whether an edge that was looked at and does not close a loop leads from a node to another. -/
def Kept (graph : FlowGraph) (search : Search) (source target : NodeId) : Prop :=
  ∃ id, Explored graph search id ∧ id ∉ search.found ∧ graph.edge? id = some ⟨source, target⟩

section Exploration

variable {graph : FlowGraph} {search next : Search} {frame : Frame} {frames : List Frame}
  {id : EdgeId}

theorem Explored.advance (explored : Explored graph search id)
    (top : search.frames = frame :: frames) :
    Explored graph (search.advance frame frames) id := by
  rcases explored with ⟨other, onPath, before⟩ | finished
  · left
    rw [top] at onPath
    rcases List.mem_cons.1 onPath with rfl | onPath
    · exact ⟨_, List.mem_cons_self, List.take_subset_take_left _ (Nat.le_succ _) before⟩
    · exact ⟨other, List.mem_cons_of_mem _ onPath, before⟩
  · exact .inr finished

theorem mem_take_next (nextEdge : (graph.outgoing frame.node)[frame.next]? = some id) :
    id ∈ (graph.outgoing frame.node).take (frame.next + 1) := by
  rw [List.take_add_one, nextEdge]
  simp

theorem explored_advance (nextEdge : (graph.outgoing frame.node)[frame.next]? = some id) :
    Explored graph (search.advance frame frames) id :=
  .inl ⟨_, List.mem_cons_self, mem_take_next nextEdge⟩

theorem Explored.move (explored : Explored graph search id)
    (disciplined : Disciplined graph search) (move : Move graph search next) :
    Explored graph next id := by
  have finished : (∃ node, search.hasColour node .black = true ∧ id ∈ graph.outgoing node) →
      Explored graph next id := by
    rintro ⟨node, black, member⟩
    exact .inr ⟨node, disciplined.black_move move black, member⟩
  rcases explored with ⟨other, onPath, before⟩ | alreadyFinished
  · have explored : Explored graph search id := .inl ⟨other, onPath, before⟩
    cases move with
    | stay => exact explored
    | start noFrames =>
        rw [noFrames] at onPath
        exact absurd onPath List.not_mem_nil
    | skip => exact explored
    | @descend frame frames _ _ top =>
        rcases explored.advance top with ⟨other, onPath, before⟩ | alreadyFinished
        · exact .inl ⟨other, List.mem_cons_of_mem _ onPath, before⟩
        · exact finished alreadyFinished
    | close top => exact explored.advance top
    | pass top => exact explored.advance top
    | @leave frame frames top =>
        rw [top] at onPath
        rcases List.mem_cons.1 onPath with rfl | onPath
        · exact .inr ⟨other.node, disciplined.black_leave top, List.mem_of_mem_take before⟩
        · exact .inl ⟨other, onPath, before⟩
  · exact finished alreadyFinished

theorem Explored.exists_edge (explored : Explored graph search id)
    (wellFormed : graph.WellFormed) : ∃ edge, graph.edge? id = some edge := by
  have listed : ∃ node, id ∈ graph.outgoing node := by
    rcases explored with ⟨frame, _, before⟩ | ⟨node, _, member⟩
    · exact ⟨frame.node, List.mem_of_mem_take before⟩
    · exact ⟨node, member⟩
  rcases listed with ⟨node, member⟩
  rcases wellFormed.outgoing.exists_edge member with ⟨edge, known, _⟩
  exact ⟨edge, known⟩

/-- The next edge of the current node was not looked at yet. -/
theorem not_explored_next (wellFormed : graph.WellFormed) (disciplined : Disciplined graph search)
    (top : search.frames = frame :: frames)
    (nextEdge : (graph.outgoing frame.node)[frame.next]? = some id) :
    ¬Explored graph search id := by
  have leaving : id ∈ graph.outgoing frame.node := List.mem_of_getElem? nextEdge
  have onPath : frame ∈ search.frames := by simp [top]
  rintro (⟨other, otherOnPath, before⟩ | ⟨node, black, member⟩)
  · have sameNode := wellFormed.outgoing.node_unique (List.mem_of_mem_take before) leaving
    have same : other = frame :=
      List.inj_on_of_nodup_map disciplined.nodup otherOnPath onPath sameNode
    subst other
    rcases List.mem_take_iff_getElem.1 before with ⟨position, inBounds, isId⟩
    rcases List.getElem?_eq_some_iff.1 nextEdge with ⟨nextInBounds, isNext⟩
    have samePosition :=
      (wellFormed.outgoing.nodup frame.node).getElem_inj_iff.1 (isId.trans isNext.symm)
    omega
  · have sameNode := wellFormed.outgoing.node_unique member leaving
    rw [sameNode] at black
    exact nomatch colour_unique black (disciplined.frame_grey onPath)

theorem found_move (wellFormed : graph.WellFormed) (disciplined : Disciplined graph search)
    (move : Move graph search next) (isFound : id ∈ next.found) :
    id ∈ search.found ∨ ¬Explored graph search id := by
  cases move with
  | close top nextEdge =>
      rcases List.mem_cons.1 isFound with rfl | isFound
      · exact .inr (not_explored_next wellFormed disciplined top nextEdge)
      · exact .inl isFound
  | _ => exact .inl isFound

theorem Kept.move {source target : NodeId} (kept : Kept graph search source target)
    (wellFormed : graph.WellFormed) (disciplined : Disciplined graph search)
    (move : Move graph search next) : Kept graph next source target := by
  rcases kept with ⟨id, explored, notFound, known⟩
  refine ⟨id, explored.move disciplined move, ?_, known⟩
  intro isFound
  rcases found_move wellFormed disciplined move isFound with isFound | notExplored
  · exact notFound isFound
  · exact notExplored explored

end Exploration

/-- Whether the edge that was looked at last for a frame leads to another frame and closes no
loop. -/
def Joined (graph : FlowGraph) (search : Search) (parent child : Frame) : Prop :=
  ∃ id position, parent.next = position + 1 ∧ (graph.outgoing parent.node)[position]? = some id ∧
    graph.edge? id = some ⟨parent.node, child.node⟩ ∧ id ∉ search.found

/-- Says that the path consists of edges that stay, that only edges that were looked at are found,
and that a way round each of them stays. -/
structure Tracked (graph : FlowGraph) (search : Search) : Prop where
  joined : search.frames.IsChain fun child parent => Joined graph search parent child
  found_explored : ∀ id ∈ search.found, Explored graph search id
  around : ∀ id ∈ search.found, ∀ edge, graph.edge? id = some edge →
    ReflTransGen (Kept graph search) edge.target edge.source

theorem tracked_initial (graph : FlowGraph) : Tracked graph (initial graph) :=
  ⟨.nil, by simp [initial], by simp [initial]⟩

namespace Joined

variable {graph : FlowGraph} {search next : Search} {parent child : Frame}

theorem explored (joined : Joined graph search parent child) (onPath : parent ∈ search.frames) :
    ∃ id, Explored graph search id ∧ id ∉ search.found ∧
      graph.edge? id = some ⟨parent.node, child.node⟩ := by
  rcases joined with ⟨id, position, isNext, isId, known, notFound⟩
  refine ⟨id, .inl ⟨parent, onPath, ?_⟩, notFound, known⟩
  rw [isNext, List.take_add_one, isId]
  simp

theorem kept (joined : Joined graph search parent child) (onPath : parent ∈ search.frames) :
    Kept graph search parent.node child.node :=
  joined.explored onPath

/-- A join lasts, since the edges found later were not looked at yet. -/
theorem move (joined : Joined graph search parent child) (onPath : parent ∈ search.frames)
    (wellFormed : graph.WellFormed) (disciplined : Disciplined graph search)
    (move : Move graph search next) : Joined graph next parent child := by
  rcases joined with ⟨id, position, isNext, isId, known, notFound⟩
  refine ⟨id, position, isNext, isId, known, ?_⟩
  intro isFound
  rcases found_move wellFormed disciplined move isFound with isFound | notExplored
  · exact notFound isFound
  · apply notExplored
    refine .inl ⟨parent, onPath, ?_⟩
    rw [isNext, List.take_add_one, isId]
    simp

end Joined

/-- The edges of the path lead from each of its nodes to the current one. -/
theorem reaches_top {graph : FlowGraph} {search : Search} {top : Frame} {frames : List Frame}
    (joined : (top :: frames).IsChain fun child parent => Joined graph search parent child)
    (onPath : ∀ frame ∈ top :: frames, frame ∈ search.frames) :
    ∀ frame ∈ top :: frames, ReflTransGen (Kept graph search) frame.node top.node := by
  induction frames generalizing top with
  | nil =>
      intro frame member
      rw [List.mem_singleton.1 member]
  | cons parent frames ih =>
      intro frame member
      rcases List.isChain_cons_cons.1 joined with ⟨first, rest⟩
      rcases List.mem_cons.1 member with rfl | member
      · exact .refl
      · have toParent := ih rest (fun other below => onPath other (List.mem_cons_of_mem _ below))
          frame member
        exact toParent.tail (first.kept (onPath parent (by simp)))

namespace Tracked

variable {graph : FlowGraph} {search next : Search} {frame : Frame} {frames : List Frame}

/-- The joins of a path last. -/
theorem joined_move (tracked : Tracked graph search) (wellFormed : graph.WellFormed)
    (disciplined : Disciplined graph search) (move : Move graph search next) :
    search.frames.IsChain fun child parent => Joined graph next parent child := by
  refine List.IsChain.imp_of_mem_imp ?_ tracked.joined
  intro child parent _ onPath joined
  exact joined.move onPath wellFormed disciplined move

theorem joined_advance
    (joined : (frame :: frames).IsChain fun child parent => Joined graph search parent child) :
    ({ frame with next := frame.next + 1 } :: frames).IsChain fun child parent =>
      Joined graph search parent child := by
  cases frames with
  | nil => exact .singleton _
  | cons parent frames =>
      rcases List.isChain_cons_cons.1 joined with ⟨first, rest⟩
      exact List.isChain_cons_cons.2 ⟨first, rest⟩

theorem move (tracked : Tracked graph search) (wellFormed : graph.WellFormed)
    (disciplined : Disciplined graph search) (move : Move graph search next) :
    Tracked graph next := by
  have joined := tracked.joined_move wellFormed disciplined move
  have found_explored : ∀ id ∈ search.found, Explored graph next id := fun id isFound =>
    (tracked.found_explored id isFound).move disciplined move
  have kept : ReflTransGen (Kept graph search) ≤ ReflTransGen (Kept graph next) :=
    ReflTransGen.mono fun _ _ kept => Kept.move kept wellFormed disciplined move
  have around : ∀ id ∈ search.found, ∀ edge, graph.edge? id = some edge →
      ReflTransGen (Kept graph next) edge.target edge.source := fun id isFound edge known =>
    kept _ _ (tracked.around id isFound edge known)
  cases move with
  | stay => exact tracked
  | start noFrames nextStart white =>
      refine ⟨?_, found_explored, around⟩
      simp [enter, noFrames]
  | skip => exact ⟨joined, found_explored, around⟩
  | @descend frame frames id edge top nextEdge known white =>
      refine ⟨?_, found_explored, around⟩
      rw [top] at joined
      refine List.isChain_cons_cons.2 ⟨?_, joined_advance joined⟩
      rcases wellFormed.outgoing.exists_edge (List.mem_of_getElem? nextEdge) with
        ⟨other, otherKnown, isSource⟩
      rw [known, Option.some.injEq] at otherKnown
      subst other
      refine ⟨id, frame.next, rfl, nextEdge, ?_, ?_⟩
      · rw [known, ← isSource]
      · intro isFound
        exact not_explored_next wellFormed disciplined top nextEdge
          (tracked.found_explored id isFound)
  | @close frame frames id edge top nextEdge known grey =>
      rw [top] at joined
      refine ⟨joined_advance joined, ?_, ?_⟩
      · intro other isFound
        rcases List.mem_cons.1 isFound with rfl | isFound
        · exact explored_advance nextEdge
        · exact found_explored other isFound
      · intro other isFound otherEdge otherKnown
        rcases List.mem_cons.1 isFound with rfl | isFound
        · rw [known, Option.some.injEq] at otherKnown
          subst otherEdge
          rcases wellFormed.outgoing.exists_edge (List.mem_of_getElem? nextEdge) with
            ⟨sourceEdge, sourceKnown, isSource⟩
          rw [known, Option.some.injEq] at sourceKnown
          subst sourceEdge
          rcases List.mem_map.1 ((disciplined.grey_iff edge.target).1 grey) with
            ⟨target, onPath, isTarget⟩
          have wayRound := reaches_top (top ▸ tracked.joined) (fun _ member => top ▸ member)
            target (top ▸ onPath)
          rw [isSource, ← isTarget]
          exact kept _ _ wayRound
        · exact around other isFound otherEdge otherKnown
  | pass top =>
      rw [top] at joined
      exact ⟨joined_advance joined, found_explored, around⟩
  | leave top =>
      rw [top] at joined
      exact ⟨joined.of_cons, found_explored, around⟩

end Tracked

/-! ### Finished nodes -/

/-- Whether an edge that closes no loop leads to a node from another. -/
def Remaining (graph : FlowGraph) (search : Search) (target source : NodeId) : Prop :=
  ∃ id, id ∉ search.found ∧ graph.edge? id = some ⟨source, target⟩

/-- Says that each edge that was looked at for a frame closes a loop, or leads to a black node or to
a node further up the path. -/
def Settled (graph : FlowGraph) (search : Search) (above : List NodeId) : List Frame → Prop
  | [] => True
  | frame :: frames =>
    (∀ id ∈ (graph.outgoing frame.node).take frame.next, ∀ edge, graph.edge? id = some edge →
      id ∈ search.found ∨ search.hasColour edge.target .black = true ∨ edge.target ∈ above) ∧
    Settled graph search (frame.node :: above) frames

/-- Says that black nodes are done with: the edges that stay lead from them to black nodes only, and
not in circles. -/
structure Finishing (graph : FlowGraph) (search : Search) : Prop where
  settled : Settled graph search [] search.frames
  accessible : ∀ node, search.hasColour node .black = true → Acc (Remaining graph search) node

theorem finishing_initial (graph : FlowGraph) : Finishing graph (initial graph) := by
  constructor
  · trivial
  · intro node black
    rw [hasColour_iff, initial, Array.getElem?_replicate] at black
    split at black
    · cases Option.some.inj black
    · cases black

section Finishing

variable {graph : FlowGraph} {search next : Search}

theorem found_subset_move (move : Move graph search next) : search.found ⊆ next.found := by
  cases move with
  | close => exact List.subset_cons_self _ _
  | _ => exact List.Subset.refl _

/-- What is settled stays settled if nodes further up the path are dropped once they are black. -/
theorem Settled.mono {frames : List Frame} {above newAbove : List NodeId}
    (settled : Settled graph search above frames) (found : search.found ⊆ next.found)
    (black : ∀ node, search.hasColour node .black = true → next.hasColour node .black = true)
    (dropped : ∀ node ∈ above, next.hasColour node .black = true ∨ node ∈ newAbove) :
    Settled graph next newAbove frames := by
  induction frames generalizing above newAbove with
  | nil => trivial
  | cons frame frames ih =>
      rcases settled with ⟨first, rest⟩
      constructor
      · intro id before edge known
        rcases first id before edge known with isFound | isBlack | isAbove
        · exact .inl (found isFound)
        · exact .inr (.inl (black _ isBlack))
        · exact .inr (dropped _ isAbove)
      · apply ih rest
        intro node isAbove
        rcases List.mem_cons.1 isAbove with rfl | isAbove
        · exact .inr List.mem_cons_self
        · exact (dropped node isAbove).imp_right (List.mem_cons_of_mem _)

/-- Looking at one more edge leaves a frame settled if that edge is. -/
theorem Settled.advance {frame : Frame} {frames : List Frame} {above : List NodeId} {id : EdgeId}
    (settled : Settled graph search above (frame :: frames))
    (nextEdge : (graph.outgoing frame.node)[frame.next]? = some id)
    (nextSettled : ∀ edge, graph.edge? id = some edge →
      id ∈ search.found ∨ search.hasColour edge.target .black = true ∨ edge.target ∈ above) :
    Settled graph search above ({ frame with next := frame.next + 1 } :: frames) := by
  refine ⟨?_, settled.2⟩
  intro other before edge known
  simp only [List.take_add_one, nextEdge, List.mem_append] at before
  rcases before with before | isNext
  · exact settled.1 other before edge known
  · have same : other = id := by simpa using isNext
    subst other
    exact nextSettled edge known

theorem Finishing.settled_move (finishing : Finishing graph search)
    (disciplined : Disciplined graph search) (move : Move graph search next) :
    Settled graph next [] next.frames := by
  have found := found_subset_move move
  have black : ∀ node, search.hasColour node .black = true → next.hasColour node .black = true :=
    fun node => disciplined.black_move move
  have settled := finishing.settled
  cases move with
  | stay => exact settled
  | start noFrames nextStart white =>
      simp [enter, noFrames, Settled]
  | skip => exact settled.mono found black (by simp)
  | @descend frame frames id edge top nextEdge known white =>
      rw [top] at settled
      refine ⟨by simp, ?_⟩
      refine (settled.mono found black (by simp)).advance nextEdge ?_
      intro other otherKnown
      rw [known, Option.some.injEq] at otherKnown
      exact .inr (.inr (by simp [otherKnown]))
  | close top nextEdge known grey =>
      rw [top] at settled
      refine (settled.mono found black (by simp)).advance nextEdge ?_
      exact fun _ _ => .inl List.mem_cons_self
  | @pass frame frames id edge top nextEdge known isBlack =>
      rw [top] at settled
      refine (settled.mono found black (by simp)).advance nextEdge ?_
      intro other otherKnown
      rw [known, Option.some.injEq] at otherKnown
      exact .inr (.inl (otherKnown ▸ isBlack))
  | leave top =>
      rw [top] at settled
      apply settled.2.mono found black
      intro node isTop
      rw [List.mem_singleton.1 isTop]
      exact .inl (disciplined.black_leave top)

theorem Finishing.accessible_move (finishing : Finishing graph search)
    (wellFormed : graph.WellFormed) (disciplined : Disciplined graph search)
    (move : Move graph search next) {node : NodeId} (black : next.hasColour node .black = true) :
    Acc (Remaining graph next) node := by
  have old : ∀ node, search.hasColour node .black = true → Acc (Remaining graph next) node := by
    intro node black
    refine Subrelation.accessible ?_ (finishing.accessible node black)
    rintro target source ⟨id, notFound, known⟩
    exact ⟨id, fun isFound => notFound (found_subset_move move isFound), known⟩
  cases move with
  | stay => exact old node black
  | start noFrames nextStart white =>
      rcases (hasColour_enter (lt_size_of_hasColour white)).1 black with ⟨_, isGrey⟩ | ⟨_, black⟩
      · cases isGrey
      · exact old node black
  | skip => exact old node black
  | descend top nextEdge known white =>
      rcases (hasColour_enter (lt_size_of_hasColour white)).1 black with ⟨_, isGrey⟩ | ⟨_, black⟩
      · cases isGrey
      · exact old node black
  | close => exact old node black
  | pass => exact old node black
  | @leave frame frames top noNext =>
      have onPath : frame ∈ search.frames := by simp [top]
      have inBounds := lt_size_of_hasColour (disciplined.frame_grey onPath)
      rcases (hasColour_leave inBounds).1 black with ⟨rfl, _⟩ | ⟨_, black⟩
      · constructor
        rintro target ⟨id, notFound, known⟩
        have leaving := wellFormed.outgoing.mem_endpoint known
        have settled := finishing.settled
        rw [top] at settled
        -- The node is left after its last edge, so all its edges were looked at.
        rw [List.getElem?_eq_none_iff] at noNext
        have before : id ∈ (graph.outgoing frame.node).take frame.next := by
          rwa [List.take_of_length_le noNext]
        rcases settled.1 id before _ known with isFound | isBlack | isAbove
        · exact absurd isFound notFound
        · exact old target isBlack
        · cases isAbove
      · exact old node black

end Finishing

/-! ### The whole search -/

/-- What holds of a search at every step. -/
structure Invariant (graph : FlowGraph) (search : Search) : Prop where
  disciplined : Disciplined graph search
  tracked : Tracked graph search
  finishing : Finishing graph search

/-- The search after its last step. -/
def last (graph : FlowGraph) : Search :=
  iterate (step graph) (stepBound graph) (initial graph)

/-- Whether a search is over. -/
def Finished (search : Search) : Prop := search.frames = [] ∧ search.starts = []

/-- The nodes that were not left yet. -/
def unfinished (graph : FlowGraph) (search : Search) : Finset NodeId :=
  {node ∈ Finset.range graph.nodeCount | ¬search.hasColour node .black = true}

open Classical in
/-- The edges that were not looked at yet. -/
noncomputable def unexplored (graph : FlowGraph) (search : Search) : Finset EdgeId :=
  {id ∈ Finset.range graph.edges.size | ¬Explored graph search id}

/-- What is left to do: starts to take, nodes to leave and edges to look at. -/
noncomputable def workLeft (graph : FlowGraph) (search : Search) : Nat :=
  search.starts.length + (unfinished graph search).card + (unexplored graph search).card

theorem invariant_initial (graph : FlowGraph) : Invariant graph (initial graph) :=
  ⟨disciplined_initial graph, tracked_initial graph, finishing_initial graph⟩

section Run

variable {graph : FlowGraph} {search next : Search}

theorem Invariant.step (wellFormed : graph.WellFormed) (invariant : Invariant graph search) :
    Invariant graph (search.step graph) := by
  rcases invariant with ⟨disciplined, tracked, finishing⟩
  have move := move_step wellFormed disciplined.size
  refine ⟨disciplined.move move, tracked.move wellFormed disciplined move, ?_⟩
  exact ⟨finishing.settled_move disciplined move,
    fun _ black => finishing.accessible_move wellFormed disciplined move black⟩

theorem mem_unfinished {node : NodeId} : node ∈ unfinished graph search ↔
    node < graph.nodeCount ∧ ¬search.hasColour node .black = true := by
  simp only [unfinished, Finset.mem_filter, Finset.mem_range]

theorem mem_unexplored {id : EdgeId} : id ∈ unexplored graph search ↔
    id < graph.edges.size ∧ ¬Explored graph search id := by
  simp only [unexplored, Finset.mem_filter, Finset.mem_range]

theorem unfinished_subset_of_move (disciplined : Disciplined graph search)
    (move : Move graph search next) : unfinished graph next ⊆ unfinished graph search := by
  intro node member
  rw [mem_unfinished] at member ⊢
  exact ⟨member.1, fun black => member.2 (disciplined.black_move move black)⟩

theorem unexplored_subset_of_move (disciplined : Disciplined graph search)
    (move : Move graph search next) : unexplored graph next ⊆ unexplored graph search := by
  intro id member
  rw [mem_unexplored] at member ⊢
  exact ⟨member.1, fun explored => member.2 (explored.move disciplined move)⟩

/-- A move that looks at an edge leaves one edge less to look at. -/
theorem card_unexplored_lt (wellFormed : graph.WellFormed) (disciplined : Disciplined graph search)
    (move : Move graph search next) {frame : Frame} {frames : List Frame} {id : EdgeId}
    (top : search.frames = frame :: frames)
    (nextEdge : (graph.outgoing frame.node)[frame.next]? = some id)
    (explored : Explored graph next id) :
    (unexplored graph next).card < (unexplored graph search).card := by
  rcases wellFormed.outgoing.exists_edge (List.mem_of_getElem? nextEdge) with ⟨edge, known, _⟩
  apply Finset.card_lt_card
  refine (Finset.ssubset_iff_of_subset (unexplored_subset_of_move disciplined move)).2 ⟨id, ?_, ?_⟩
  · exact mem_unexplored.2 ⟨FlowGraph.lt_size_of_edge? known,
      not_explored_next wellFormed disciplined top nextEdge⟩
  · exact fun member => (mem_unexplored.1 member).2 explored

theorem card_unfinished_leave_lt (disciplined : Disciplined graph search) {frame : Frame}
    {frames : List Frame} (top : search.frames = frame :: frames)
    (move : Move graph search (search.leave frame frames)) :
    (unfinished graph (search.leave frame frames)).card < (unfinished graph search).card := by
  have onPath : frame ∈ search.frames := by simp [top]
  have grey := disciplined.frame_grey onPath
  have inBounds := lt_size_of_hasColour grey
  rw [disciplined.size] at inBounds
  apply Finset.card_lt_card
  refine (Finset.ssubset_iff_of_subset (unfinished_subset_of_move disciplined move)).2
    ⟨frame.node, ?_, ?_⟩
  · exact mem_unfinished.2 ⟨inBounds, fun black => nomatch colour_unique grey black⟩
  · exact fun member => (mem_unfinished.1 member).2 (disciplined.black_leave top)

theorem workLeft_lt_of_move (wellFormed : graph.WellFormed)
    (disciplined : Disciplined graph search) (move : Move graph search next)
    (unfinished : ¬Finished search) : workLeft graph next < workLeft graph search := by
  have nodes := Finset.card_le_card (unfinished_subset_of_move disciplined move)
  have edges := Finset.card_le_card (unexplored_subset_of_move disciplined move)
  have fewer : ∀ {frame frames id}, search.frames = frame :: frames →
      (graph.outgoing frame.node)[frame.next]? = some id → Explored graph next id →
        (unexplored graph next).card < (unexplored graph search).card := fun top nextEdge =>
    card_unexplored_lt wellFormed disciplined move top nextEdge
  unfold workLeft
  cases move with
  | stay noFrames noStarts => exact absurd ⟨noFrames, noStarts⟩ unfinished
  | start noFrames nextStart white =>
      simp only [nextStart, List.length_cons, enter] at nodes edges ⊢
      omega
  | skip noFrames nextStart seen =>
      simp only [nextStart, List.length_cons] at nodes edges ⊢
      omega
  | descend top nextEdge known white =>
      have fewer := fewer top nextEdge
        (.inl ⟨_, List.mem_cons_of_mem _ List.mem_cons_self, mem_take_next nextEdge⟩)
      simp only [enter, advance] at nodes fewer ⊢
      omega
  | close top nextEdge known grey =>
      have fewer := fewer top nextEdge (explored_advance nextEdge)
      simp only [close, advance] at nodes fewer ⊢
      omega
  | pass top nextEdge known black =>
      have fewer := fewer top nextEdge (explored_advance nextEdge)
      simp only [advance] at nodes fewer ⊢
      omega
  | leave top noNext =>
      have fewer := card_unfinished_leave_lt disciplined top (.leave top noNext)
      simp only [leave] at edges fewer ⊢
      omega

theorem workLeft_initial_le (graph : FlowGraph) :
    workLeft graph (initial graph) ≤ stepBound graph := by
  have roots : graph.roots.length ≤ graph.nodeCount := by
    simpa [FlowGraph.roots, FlowGraph.nodeIds] using
      List.length_filter_le (fun id => (graph.incoming id).isEmpty) graph.nodeIds
  have starts : (initial graph).starts.length = graph.roots.length + graph.nodeCount := by
    simp [initial, FlowGraph.nodeIds]
  have nodes : (unfinished graph (initial graph)).card ≤ graph.nodeCount := by
    rw [← Finset.card_range graph.nodeCount]
    exact Finset.card_le_card fun node member => Finset.mem_range.2 (mem_unfinished.1 member).1
  have edges : (unexplored graph (initial graph)).card ≤ graph.edges.size := by
    rw [← Finset.card_range graph.edges.size]
    exact Finset.card_le_card fun id member => Finset.mem_range.2 (mem_unexplored.1 member).1
  unfold workLeft stepBound
  omega

theorem step_of_finished (finished : Finished search) : search.step graph = search := by
  unfold step
  simp only [finished.1, finished.2]

/-- The invariant holds at the end of the search. -/
theorem invariant_last (wellFormed : graph.WellFormed) : Invariant graph (last graph) :=
  iterate_preserves (Invariant graph) (fun _ invariant => Invariant.step wellFormed invariant)
    (invariant_initial graph) _

/-- The search is over within its bound. -/
theorem finished_last (wellFormed : graph.WellFormed) : Finished (last graph) := by
  refine iterate_finishes (Invariant graph) Finished (workLeft graph) ?_ ?_ ?_
    (invariant_initial graph) (workLeft_initial_le graph)
  · exact fun search invariant => invariant.step wellFormed
  · exact fun search finished => step_of_finished finished
  · intro search invariant unfinished
    exact workLeft_lt_of_move wellFormed invariant.disciplined
      (move_step wellFormed invariant.disciplined.size) unfinished

/-- When the search is over, every node is black. -/
theorem Invariant.black_of_finished (invariant : Invariant graph search)
    (finished : Finished search) {node : NodeId} (inGraph : node < graph.nodeCount) :
    search.hasColour node .black = true := by
  rw [← invariant.disciplined.size] at inGraph
  rcases exists_colour inGraph with ⟨colour, coloured⟩
  cases colour with
  | white =>
      have pending := invariant.disciplined.started coloured
      rw [finished.2] at pending
      cases pending
  | grey =>
      have onPath := (invariant.disciplined.grey_iff node).1 coloured
      rw [finished.1] at onPath
      cases onPath
  | black => exact coloured

end Run

end Search

end StackFlow
