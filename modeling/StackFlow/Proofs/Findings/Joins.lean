import Mathlib.Algebra.BigOperators.Group.List.Lemmas
import Mathlib.Algebra.Order.BigOperators.Group.List
import Mathlib.Algebra.Order.Ring.Nat
import StackFlow.Proofs.Findings.NoErrors
import StackFlow.Proofs.Propagation.Coverage

/-!
# States that meet at a join

Merging keeps one state for each signature that arrives at a node, and the findings about content
count afterwards along how many edges each of them arrived. All signatures that the edges hand on,
listed one edge after the other, tell both: a state arrives as often as its signature is listed, and
the signatures before the node are the listed ones without repetition. So the arrivals add up to all
that was handed on, and a state is flagged exactly where merging lost one.
-/

namespace StackFlow

/-- Says that an analysis comes from propagating states over a graph that can be built: over the
whole graph that was given, or over what was left of it without the edges that close loops. -/
inductive Analysis.PropagatedOver (analysis : Analysis) (graph : FlowGraph) : Prop where
  | whole {method : Method} {settings : Settings} (built : graph.Built)
      (analyzed : analyzeAcyclic method graph settings = .ok analysis)
  | rest {method : Method} {given : FlowGraph} {finder : BackEdgeFinder} {settings : Settings}
      (built : given.Built)
      (analyzed : analyze method given finder settings = .ok (analysis, graph))

theorem Analysis.PropagatedOver.exists_records {analysis : Analysis} {graph : FlowGraph}
    (propagated : analysis.PropagatedOver graph) :
    graph.WellFormed ∧ ∃ problem : Problem, problem.graph = graph ∧ analysis.Records problem := by
  cases propagated with
  | @whole method settings built analyzed =>
      have records : analysis.Records ⟨method, graph, settings⟩ := by
        apply records_of_analyzeAcyclic
        exact analyzed
      exact ⟨built.wellFormed, _, rfl, records⟩
  | rest built analyzed =>
      exact ⟨wellFormed_of_analyze built analyzed, _, rfl, (eq_of_analyze analyzed).2.1⟩

/-! ### Counting -/

theorem sum_map_count_of_nodup {α : Type} [DecidableEq α] {distinct elements : List α}
    (nodup : distinct.Nodup) (same : ∀ element, element ∈ distinct ↔ element ∈ elements) :
    (distinct.map fun element => elements.count element).sum = elements.length := by
  have perm : distinct.Perm elements.dedup := by
    apply (List.perm_ext_iff_of_nodup nodup elements.nodup_dedup).2
    intro element
    rw [same, List.mem_dedup]
  rw [← elements.sum_map_count_dedup_eq_length]
  exact (perm.map _).sum_eq

theorem length_add_sum_excess {α : Type} {elements : List α} {number : α → Nat}
    (positive : ∀ element ∈ elements, 0 < number element) :
    elements.length + ((elements.filter fun element => 1 < number element).map
      fun element => number element - 1).sum = (elements.map number).sum := by
  induction elements with
  | nil => rfl
  | cons element elements ih =>
      have rest := ih fun other member => positive other (List.mem_cons_of_mem _ member)
      have first := positive element List.mem_cons_self
      by_cases repeated : 1 < number element
      · simp only [List.length_cons, repeated, decide_true, List.filter_cons_of_pos, List.map_cons,
          List.sum_cons]
        omega
      · simp only [List.length_cons, repeated, decide_false, Bool.false_eq_true, not_false_eq_true,
          List.filter_cons_of_neg, List.map_cons, List.sum_cons]
        omega

theorem exists_repeated_iff {α : Type} {elements : List α} {number : α → Nat}
    (positive : ∀ element ∈ elements, 0 < number element) :
    (∃ element ∈ elements, 1 < number element) ↔
      elements.length < (elements.map number).sum := by
  have excess := length_add_sum_excess positive
  constructor
  · rintro ⟨element, member, repeated⟩
    have counted : number element - 1 ∈ (elements.filter fun element => 1 < number element).map
        fun element => number element - 1 :=
      List.mem_map_of_mem (List.mem_filter.2 ⟨member, by simpa using repeated⟩)
    have le := List.le_sum_of_mem counted
    omega
  · intro fewer
    by_contra single
    have unflagged : (elements.filter fun element => 1 < number element) = [] := by
      apply List.filter_eq_nil_iff.2
      intro element member repeated
      exact single ⟨element, member, by simpa using repeated⟩
    simp only [unflagged, List.map_nil, List.sum_nil, add_zero] at excess
    omega

theorem nodup_filterMap_of_inverse {α β : Type} {elements : List α} {found? : α → Option β}
    (inverse : β → α) (nodup : elements.Nodup)
    (inverts : ∀ element found, found? element = some found → inverse found = element) :
    (elements.filterMap found?).Nodup := by
  apply nodup.filterMap
  intro first second found isFirst isSecond
  exact (inverts first found isFirst).symm.trans (inverts second found isSecond)

theorem flatMap_eq_of_nodup {α β : Type} {elements : List α} {parts : α → List β} {element : α}
    (nodup : elements.Nodup) (member : element ∈ elements)
    (others : ∀ other ∈ elements, other ≠ element → parts other = []) :
    elements.flatMap parts = parts element := by
  induction elements with
  | nil => cases member
  | cons first elements ih =>
      rcases List.nodup_cons.1 nodup with ⟨apart, nodup⟩
      rcases List.mem_cons.1 member with rfl | inRest
      · have nothing : elements.flatMap parts = [] := by
          apply List.flatMap_eq_nil_iff.2
          intro other isOther
          apply others other (List.mem_cons_of_mem _ isOther)
          rintro rfl
          exact apart isOther
        simp [nothing]
      · have nothing : parts first = [] := by
          apply others first List.mem_cons_self
          rintro rfl
          exact apart inRest
        have rest := ih nodup inRest fun other isOther =>
          others other (List.mem_cons_of_mem _ isOther)
        simp [nothing, rest]

namespace ReportInput

variable {input : ReportInput} {id : NodeId} {property : StackProperty}

/-- The number of states that an edge hands on: those after its source. -/
def handedOn (input : ReportInput) (edge : EdgeId) : Nat :=
  match (input.graph.edge? edge).bind fun edge => input.analysis.property? edge.source with
  | some property => property.statesAfter.length
  | none => 0

/-- The signatures of all states that the given nodes hand on, one node after the other. -/
def handedSignatures (input : ReportInput) (sources : List NodeId) : List String :=
  (sources.filterMap input.analysis.property?).flatMap fun property =>
    property.statesAfter.signatures

theorem count_handedSignatures (sources : List NodeId) (state : StackState) :
    (sources.filter fun source => input.delivers source state).length =
      (input.handedSignatures sources).count state.signature := by
  induction sources with
  | nil => rfl
  | cons source sources ih =>
      simp only [handedSignatures, List.filterMap_cons, List.filter_cons, delivers] at ih ⊢
      cases visited : input.analysis.property? source with
      | none => simpa [visited] using ih
      | some property =>
          -- A set lists a signature at most once, so a source counts once or not at all.
          have once := property.statesAfter.nodup.count (a := state.signature)
          by_cases listed : state.signature ∈ property.statesAfter.signatures
          · simp only [StateSet.contains_iff.2 listed, ↓reduceIte, List.length_cons, ih,
              List.flatMap_cons, List.count_append, once, listed]
            omega
          · simp [mt StateSet.contains_iff.1 listed, once, listed, ih]

theorem length_handedSignatures (edges : List EdgeId) :
    (edges.map input.handedOn).sum = (input.handedSignatures
      (edges.filterMap fun edge => (input.graph.edge? edge).map Edge.source)).length := by
  induction edges with
  | nil => rfl
  | cons edge edges ih =>
      simp only [handedSignatures, List.map_cons, List.sum_cons, ih, List.filterMap_cons, handedOn]
      cases known : input.graph.edge? edge with
      | none => simp
      | some ends =>
          cases visited : input.analysis.property? ends.source with
          | none => simp [visited]
          | some property => simp [visited, StateSet.length, StateSet.signatures]

theorem arrivals_eq (id : NodeId) (state : StackState) :
    input.arrivals id state =
      (input.handedSignatures (input.graph.predecessors id)).count state.signature :=
  count_handedSignatures _ state

/-- The signatures before a node that an edge enters are those that its predecessors hand on. -/
theorem mem_signatures_statesBefore (propagated : input.analysis.PropagatedOver input.graph)
    (visited : input.analysis.property? id = some property)
    (entered : input.graph.incoming id ≠ []) (signature : String) :
    signature ∈ property.statesBefore.signatures ↔
      signature ∈ input.handedSignatures (input.graph.predecessors id) := by
  rcases propagated.exists_records with ⟨wellFormed, problem, sameGraph, records⟩
  rcases List.exists_mem_of_ne_nil _ entered with ⟨edge, entering⟩
  rcases wellFormed.incoming.exists_edge entering with ⟨ends, known, rfl⟩
  have adjacent : input.graph.Adjacent ends.source ends.target := ⟨edge, known⟩
  rw [records.property?] at visited
  rw [← sameGraph] at adjacent wellFormed
  have collects := Propagation.collects_statesBefore wellFormed visited adjacent
  rw [collects.mem_signatures_iff]
  simp only [handedSignatures, List.mem_flatMap, List.mem_filterMap, StateSet.mem_signatures,
    ← sameGraph, wellFormed.mem_predecessors, records.property?]
  constructor
  · rintro ⟨state, ⟨source, found, entering, foundVisited, after⟩, isSignature⟩
    exact ⟨found, ⟨source, entering, foundVisited⟩, state, after, isSignature⟩
  · rintro ⟨found, ⟨source, entering, foundVisited⟩, state, after, isSignature⟩
    exact ⟨state, ⟨source, found, entering, foundVisited, after⟩, isSignature⟩

theorem arrivals_pos (propagated : input.analysis.PropagatedOver input.graph)
    (visited : input.analysis.property? id = some property)
    (entered : input.graph.incoming id ≠ []) {state : StackState}
    (member : state ∈ property.statesBefore.states) : 0 < input.arrivals id state := by
  have stored : state.signature ∈ property.statesBefore.signatures :=
    StateSet.mem_signatures.2 ⟨state, member, rfl⟩
  rw [arrivals_eq]
  apply List.count_pos_iff.2
  exact (mem_signatures_statesBefore propagated visited entered _).1 stored

theorem exists_edge_of_arrivals_pos {state : StackState} (arrives : 0 < input.arrivals id state) :
    ∃ edge ∈ input.graph.incoming id, ∃ ends, input.graph.edge? edge = some ends ∧
      input.delivers ends.source state = true := by
  rcases List.exists_mem_of_length_pos arrives with ⟨source, member⟩
  rcases List.mem_filter.1 member with ⟨entering, delivered⟩
  rcases List.mem_filterMap.1 entering with ⟨edge, listed, isSource⟩
  rcases Option.map_eq_some_iff.1 isSource with ⟨ends, known, rfl⟩
  exact ⟨edge, listed, ends, known, delivered⟩

/-- The states before a node arrive as often as states are handed on to it. -/
theorem sum_arrivals (propagated : input.analysis.PropagatedOver input.graph)
    (visited : input.analysis.property? id = some property)
    (entered : input.graph.incoming id ≠ []) :
    (property.statesBefore.states.map (input.arrivals id)).sum =
      ((input.graph.incoming id).map input.handedOn).sum := by
  have counts : property.statesBefore.states.map (input.arrivals id) =
      property.statesBefore.signatures.map fun signature =>
        (input.handedSignatures (input.graph.predecessors id)).count signature := by
    simp [StateSet.signatures, arrivals_eq]
  rw [counts, sum_map_count_of_nodup property.statesBefore.nodup
    (mem_signatures_statesBefore propagated visited entered), length_handedSignatures]
  rfl

/-! ### Warnings -/

theorem nodup_analyzedNodes (input : ReportInput) : input.analyzedNodes.Nodup := by
  have analyzed : input.analysis.analyzed.Nodup := by
    apply nodup_filterMap_of_inverse Prod.fst List.nodup_range
    intro id found isFound
    rcases Option.map_eq_some_iff.1 isFound with ⟨_, _, rfl⟩
    rfl
  apply nodup_filterMap_of_inverse (fun found => (found.1, found.2.2)) analyzed
  rintro ⟨id, property⟩ found isFound
  rcases Option.map_eq_some_iff.1 isFound with ⟨_, _, rfl⟩
  rfl

theorem repeatedArrivals_eq (id : NodeId) (property : StackProperty) :
    input.repeatedArrivals id property =
      (property.statesBefore.states.filter fun state => 1 < input.arrivals id state).map
        fun state => .repeatedArrival state.signature (input.arrivals id state) := by
  unfold repeatedArrivals
  split
  · next few =>
    have bounded (state : StackState) : input.arrivals id state ≤ 1 :=
      Nat.le_trans (List.length_filter_le _ _) (Nat.le_of_lt_succ few)
    simp [Nat.not_lt.2 (bounded _)]
  · rw [← List.filterMap_eq_map, List.filterMap_filter]
    simp

theorem severity_of_mem_repeatedArrivals {observation : Observation}
    (repeated : observation ∈ input.repeatedArrivals id property) :
    observation.severity = .warning := by
  rw [repeatedArrivals_eq] at repeated
  rcases List.mem_map.1 repeated with ⟨state, _, rfl⟩
  rfl

/-- The findings about content warn about a node of repeated arrivals and of nothing else. -/
theorem warnings_contentFindings {node : Node} (known : input.graph.node? id = some node)
    (visited : input.analysis.property? id = some property) :
    (input.contentFindings.filter fun finding =>
      finding.node? = some id ∧ finding.severity = .warning).map Finding.observation =
        input.repeatedArrivals id property := by
  rw [contentFindings, List.filter_flatMap,
    flatMap_eq_of_nodup input.nodup_analyzedNodes (mem_analyzedNodes known visited)]
  · have isInfo : (Observation.content property.statesBefore.signatures
        property.statesAfter.signatures).severity = .info := rfl
    have warns : ∀ observation ∈ input.repeatedArrivals id property,
        observation.severity = .warning := fun _ => severity_of_mem_repeatedArrivals
    simpa [List.filter_map, Function.comp_def, Finding.node?, Finding.severity, Node.site, isInfo]
      using warns
  · rintro ⟨other, otherNode, otherProperty⟩ member differs
    apply List.filter_eq_nil_iff.2
    intro finding listed
    rcases List.mem_map.1 listed with ⟨observation, _, rfl⟩
    have isOther : other ≠ id := by
      rintro rfl
      rcases of_mem_analyzedNodes member with ⟨otherKnown, otherVisited⟩
      rw [known] at otherKnown
      rw [visited] at otherVisited
      cases otherKnown
      cases otherVisited
      exact differs rfl
    simp [Finding.node?, Node.site, isOther]

theorem exists_warning_iff {node : Node} (known : input.graph.node? id = some node)
    (visited : input.analysis.property? id = some property) :
    (∃ finding ∈ input.contentFindings, finding.node? = some id ∧ finding.severity = .warning) ↔
      ∃ state ∈ property.statesBefore.states, 1 < input.arrivals id state := by
  have warnings := warnings_contentFindings known visited
  rw [repeatedArrivals_eq] at warnings
  have unflagged := congrArg (· = []) warnings
  simp only [List.map_eq_nil_iff, List.filter_eq_nil_iff, decide_eq_true_eq] at unflagged
  apply not_iff_not.1
  simpa only [not_exists, not_and] using iff_of_eq unflagged

end ReportInput

open ReportInput in
/-- The findings about content flag a join exactly when merging lost something. Each state before a
node that an edge enters is delivered by such an edge, and the arrivals of these states add up to
all states that the edges hand on. There is one warning about the node for each state that arrives
more than once, and one at all if and only if there are fewer states before the node than were
handed on; what the flagged states arrive too often makes up the difference. -/
theorem contentFindings_flag_lostStates {input : ReportInput}
    (propagated : input.analysis.PropagatedOver input.graph) {id : NodeId}
    {property : StackProperty} (visited : input.analysis.property? id = some property)
    (entered : input.graph.incoming id ≠ []) :
    (∀ state ∈ property.statesBefore.states, ∃ edge ∈ input.graph.incoming id, ∃ ends,
      input.graph.edge? edge = some ends ∧ input.delivers ends.source state = true) ∧
    (property.statesBefore.states.map (input.arrivals id)).sum =
      ((input.graph.incoming id).map input.handedOn).sum ∧
    (input.contentFindings.filter fun finding =>
        finding.node? = some id ∧ finding.severity = .warning).map Finding.observation =
      (property.statesBefore.states.filter fun state => 1 < input.arrivals id state).map
        (fun state => .repeatedArrival state.signature (input.arrivals id state)) ∧
    ((∃ finding ∈ input.contentFindings,
        finding.node? = some id ∧ finding.severity = .warning) ↔
      property.statesBefore.length < ((input.graph.incoming id).map input.handedOn).sum) ∧
    property.statesBefore.length +
        ((property.statesBefore.states.filter fun state => 1 < input.arrivals id state).map
          fun state => input.arrivals id state - 1).sum =
      ((input.graph.incoming id).map input.handedOn).sum := by
  obtain ⟨node, known⟩ : ∃ node, input.graph.node? id = some node := by
    cases known : input.graph.node? id with
    | none => simp [FlowGraph.incoming, known] at entered
    | some node => exact ⟨node, rfl⟩
  have arrive : ∀ state ∈ property.statesBefore.states, 0 < input.arrivals id state :=
    fun _ => arrivals_pos propagated visited entered
  have total := sum_arrivals propagated visited entered
  rw [← total]
  refine ⟨?_, rfl, ?_, ?_, length_add_sum_excess arrive⟩
  · intro state member
    exact exists_edge_of_arrivals_pos (arrive state member)
  · rw [warnings_contentFindings known visited, repeatedArrivals_eq]
  · rw [exists_warning_iff known visited]
    exact exists_repeated_iff arrive

/-- A method that pushes different values on two branches. -/
def choosing : Method :=
  { instructions := #[{ offset := 0, opcode := .nop }, { offset := 1, opcode := .nullConst },
      { offset := 2, opcode := .bytePush, operands := [5] }, { offset := 4, opcode := .pop }] }

/-- Two edges lead from one of the branches to the join, and the join goes back to the start. -/
def doubledBranch : FlowGraph :=
  .ofCalls [.addInstructionNodes choosing, .addEdge 0 1, .addEdge 0 2, .addEdge 1 3, .addEdge 1 3,
    .addEdge 2 3, .addEdge 3 0]

theorem contentFindings_flag_lostStates_doubledBranch :
    doubledBranch.Built ∧ ∃ analysis rest,
      analyze choosing doubledBranch FlowGraph.depthFirstBackEdges {} = .ok (analysis, rest) ∧
        ∃ property, analysis.property? 3 = some property ∧ rest.incoming 3 = [2, 3, 4] ∧
          property.statesBefore.signatures = ["[L:\"null\"]", "[I:\"5\"]"] ∧
          ((rest.incoming 3).map (ReportInput.handedOn ⟨choosing, rest, analysis, {}⟩)).sum = 3 ∧
          ∃ finding ∈ ReportInput.contentFindings ⟨choosing, rest, analysis, {}⟩,
            finding.node? = some 3 ∧ finding.severity = .warning := by
  have built : doubledBranch.Built := ⟨_, rfl⟩
  have valid : doubledBranch.validate choosing = .ok () := by decide +kernel
  rcases analyze_of_valid valid FlowGraph.depthFirstBackEdges {} with ⟨analysis, analyzed, _⟩
  have facts : (analyze choosing doubledBranch FlowGraph.depthFirstBackEdges {}).toOption.map
      (fun result => (result.2.incoming 3,
        (result.1.property? 3).map fun property => property.statesBefore.signatures,
        ((result.2.incoming 3).map
          (ReportInput.handedOn ⟨choosing, result.2, result.1, {}⟩)).sum)) =
      some ([2, 3, 4], some ["[L:\"null\"]", "[I:\"5\"]"], 3) := by
    decide +kernel
  simp only [analyzed, Except.toOption, Option.map_some, Option.some.injEq, Prod.mk.injEq,
    Option.map_eq_some_iff] at facts
  rcases facts with ⟨incoming, ⟨property, visited, signatures⟩, total⟩
  have fewer : property.statesBefore.length < 3 := by
    have length := congrArg List.length signatures
    rw [StateSet.signatures, List.length_map] at length
    exact length.trans_lt (by decide)
  rcases @contentFindings_flag_lostStates ⟨choosing, _, analysis, {}⟩ (.rest built analyzed) 3
    property visited (by simp [incoming]) with ⟨_, _, _, warned, _⟩
  exact ⟨built, analysis, _, analyzed, property, visited, incoming, signatures, total,
    warned.2 (by rwa [total])⟩

end StackFlow
