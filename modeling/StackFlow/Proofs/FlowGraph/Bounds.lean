import StackFlow.Proofs.FlowGraph.BackEdges

/-!
# Graph algorithms stay within bounds

The depth-first search and the removal of edges use numbers as indices, and take edges for granted
that nodes list, without asking whether they are there. The checked versions below ask: they give
`none` at the first index that is out of bounds and at the first edge that is missing, and otherwise
do the same. On well-formed graphs they never give `none`.
-/

namespace StackFlow

universe u

section Arrays

variable {α : Type u} {array : Array α} {index : Nat}

/-- Writes to a place of an array that has to be there. -/
def write? (array : Array α) (index : Nat) (value : α) : Option (Array α) :=
  if index < array.size then some (array.setIfInBounds index value) else none

/-- Changes a place of an array that has to be there. -/
def modify? (array : Array α) (index : Nat) (change : α → α) : Option (Array α) :=
  if index < array.size then some (array.modify index change) else none

theorem write?_eq_some (inBounds : index < array.size) (value : α) :
    write? array index value = some (array.setIfInBounds index value) :=
  if_pos inBounds

end Arrays

namespace Search

def enter? (search : Search) (node : NodeId) : Option Search := do
  let colours ← write? search.colours node .grey
  return { search with colours, frames := ⟨node, 0⟩ :: search.frames }

def follow? (search : Search) (id : EdgeId) (target : NodeId) : Option Search := do
  match ← search.colours[target]? with
  | .white => search.enter? target
  | .grey => return { search with found := id :: search.found }
  | .black => return search

def step? (graph : FlowGraph) (search : Search) : Option Search :=
  match search.frames with
  | [] =>
    match search.starts with
    | [] => some search
    | start :: starts => do
      let colour ← search.colours[start]?
      let search := { search with starts }
      if colour = .white then search.enter? start else return search
  | frame :: frames =>
    match (graph.outgoing frame.node)[frame.next]? with
    | some id => do
      let edge ← graph.edge? id
      (search.advance frame frames).follow? id edge.target
    | none => do
      let colours ← write? search.colours frame.node .black
      return { search with colours, frames }

section Steps

variable {graph : FlowGraph} {search next : Search} {node : NodeId}

theorem enter?_eq_some (inBounds : node < search.colours.size) :
    search.enter? node = some (search.enter node) := by
  simp [enter?, enter, write?_eq_some inBounds]

theorem follow?_eq_some (inBounds : node < search.colours.size) (id : EdgeId) :
    search.follow? id node = some (search.follow id node) := by
  rcases exists_colour inBounds with ⟨colour, coloured⟩
  rw [hasColour_iff] at coloured
  cases colour <;> simp [follow?, follow, hasColour, coloured, enter?_eq_some inBounds]

theorem starts_subset_of_move (move : Move graph search next) : next.starts ⊆ search.starts := by
  cases move with
  | start noFrames nextStart =>
      rw [nextStart]
      exact List.subset_cons_self _ _
  | skip noFrames nextStart =>
      rw [nextStart]
      exact List.subset_cons_self _ _
  | _ => exact List.Subset.refl _

/-- Says that the colours are tied to the path and that each start is a node. -/
structure InBounds (graph : FlowGraph) (search : Search) : Prop where
  disciplined : Disciplined graph search
  starts_lt : ∀ node ∈ search.starts, node < graph.nodeCount

theorem inBounds_initial (graph : FlowGraph) : InBounds graph (initial graph) := by
  refine ⟨disciplined_initial graph, ?_⟩
  intro node member
  rcases List.mem_append.1 member with isRoot | isNode
  · exact List.mem_range.1 (List.mem_filter.1 isRoot).1
  · exact List.mem_range.1 isNode

theorem InBounds.move (inBounds : InBounds graph search) (move : Move graph search next) :
    InBounds graph next := by
  refine ⟨inBounds.disciplined.move move, ?_⟩
  intro node member
  exact inBounds.starts_lt node (starts_subset_of_move move member)

theorem InBounds.step?_eq_some (inBounds : InBounds graph search)
    (wellFormed : graph.WellFormed) : search.step? graph = some (search.step graph) := by
  have size := inBounds.disciplined.size
  cases frames : search.frames with
  | nil =>
      cases starts : search.starts with
      | nil => simp [step?, Search.step, frames, starts]
      | cons start later =>
          have isNode : start < search.colours.size := by
            rw [size]
            apply inBounds.starts_lt
            simp [starts]
          by_cases isWhite : search.colours[start] = .white <;>
            simp [step?, Search.step, frames, starts, hasColour, isNode, isWhite, enter?_eq_some]
  | cons frame earlier =>
      cases next : (graph.outgoing frame.node)[frame.next]? with
      | some id =>
          rcases wellFormed.outgoing.exists_edge (List.mem_of_getElem? next) with ⟨edge, known, _⟩
          have isNode : edge.target < search.colours.size := by
            rw [size]
            exact wellFormed.target_lt known
          simp [step?, Search.step, advance, frames, next, known, follow?_eq_some, isNode]
      | none =>
          have onPath : frame ∈ search.frames := by simp [frames]
          have isNode := lt_size_of_hasColour (inBounds.disciplined.frame_grey onPath)
          simp [step?, Search.step, frames, next, write?_eq_some isNode]

end Steps

def last? (graph : FlowGraph) : Option Search :=
  iterate? (step? graph) (stepBound graph) (.initial graph)

theorem last?_eq_some {graph : FlowGraph} (wellFormed : graph.WellFormed) :
    last? graph = some (last graph) :=
  iterate?_eq_some (InBounds graph)
    (fun _ inBounds => inBounds.move (move_step wellFormed inBounds.disciplined.size))
    (fun _ inBounds => inBounds.step?_eq_some wellFormed) (inBounds_initial graph) (stepBound graph)

end Search

namespace FlowGraph

variable {graph : FlowGraph}

def removeEdge? (graph : FlowGraph) (id : EdgeId) : Option (Except Error (Edge × FlowGraph)) :=
  match graph.edge? id with
  | none => some (.error (.unknownEdge id))
  | some edge => do
    let leaving ← modify? graph.nodes edge.source fun node =>
      { node with outgoing := node.outgoing.filter (· ≠ id) }
    let entering ← modify? leaving edge.target fun node =>
      { node with incoming := node.incoming.filter (· ≠ id) }
    return .ok (edge, { nodes := entering, edges := graph.edges.setIfInBounds id none })

def removeEdges? (graph : FlowGraph) : List EdgeId → Option (List Edge × FlowGraph)
  | [] => some ([], graph)
  | id :: ids => do
    match ← graph.removeEdge? id with
    | .error _ => graph.removeEdges? ids
    | .ok (edge, graph) =>
      let (edges, graph) ← graph.removeEdges? ids
      return (edge :: edges, graph)

theorem removeEdge?_eq_some (wellFormed : graph.WellFormed) (id : EdgeId) :
    graph.removeEdge? id = some (graph.removeEdge id) := by
  cases known : graph.edge? id with
  | none => rw [removeEdge?, known, removeEdge_of_none known]
  | some edge =>
      have isSource : edge.source < graph.nodes.size := wellFormed.source_lt known
      have isTarget : edge.target < graph.nodes.size := wellFormed.target_lt known
      rw [removeEdge?, known, removeEdge_of_some known]
      simp [eraseEdge, modify?, isSource, isTarget]

theorem removeEdges?_eq_some (wellFormed : graph.WellFormed) (ids : List EdgeId) :
    graph.removeEdges? ids = some (graph.removeEdges ids) := by
  induction ids generalizing graph with
  | nil => rfl
  | cons id ids ih =>
      rw [removeEdges?, removeEdge?_eq_some wellFormed]
      cases known : graph.edge? id with
      | none => simp [removeEdge_of_none known, removeEdges_cons_of_none known, ih wellFormed]
      | some edge =>
          simp [removeEdge_of_some known, removeEdges_cons_of_some known,
            ih (wellFormed.eraseEdge known)]

end FlowGraph

end StackFlow
