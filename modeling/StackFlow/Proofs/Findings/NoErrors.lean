import StackFlow.Proofs.Propagation.States
import StackFlow.Report

/-!
# Reports without errors

What it means for the states around a node that a report finds no error: the node did not fail, no
state is larger than the report allows, all states before the node have the same types, and a loop
comes back to its header with types with which the header was entered.
-/

namespace StackFlow

/-- Says that no finding is an error. -/
def Clean (findings : List Finding) : Prop :=
  ∀ finding ∈ findings, finding.severity ≠ .error

theorem clean_findings {input : ReportInput} (noErrors : (Report.build input).hasErrors = false)
    {kind : SectionKind} (asked : input.settings.reports.contains kind = true) :
    Clean (input.findings kind) := by
  intro finding member isError
  have chosen : kind ∈ SectionKind.all.filter input.settings.reports.contains := by
    apply List.mem_filter.2
    exact ⟨by cases kind <;> decide, asked⟩
  have found : finding ∈ (Report.build input).withSeverity .error := by
    apply List.mem_flatMap.2
    refine ⟨⟨kind, input.findings kind⟩, List.mem_map_of_mem chosen, ?_⟩
    simp [member, isError]
  simp only [Report.hasErrors, Bool.not_eq_false', List.isEmpty_iff] at noErrors
  rw [noErrors] at found
  cases found

theorem StateSet.mem_layouts {set : StateSet} {layout : List ValueType} :
    layout ∈ set.layouts ↔ ∃ state ∈ set.states, state.types = layout := by
  rw [layouts, List.mem_eraseDups, List.mem_map]

namespace ReportInput

variable {input : ReportInput} {id : NodeId} {node : Node} {property : StackProperty}

theorem observation_ne_error {observations : List Observation} {site : Option Site}
    (clean : Clean (observations.map fun observation => ⟨site, observation⟩))
    {observation : Observation} (member : observation ∈ observations) :
    observation.severity ≠ .error :=
  clean ⟨site, observation⟩ (List.mem_map_of_mem member)

theorem mem_sizeFindings (known : input.graph.node? id = some node)
    (visited : input.analysis.property? id = some property) {observation : Observation}
    (observed : observation ∈ property.sizeObservations input node) :
    ⟨some (node.site id), observation⟩ ∈ input.sizeFindings := by
  apply List.mem_flatten.2
  refine ⟨input.nodeSizeFindings id node, List.mem_mapIdx.2 ?_, ?_⟩
  · rcases Array.getElem?_eq_some_iff.1 known with ⟨inBounds, isNode⟩
    exact ⟨id, by simpa using inBounds, by simp [isNode]⟩
  · simp only [nodeSizeFindings, visited]
    exact List.mem_map_of_mem observed

theorem sizeObservation_ne_error (clean : Clean input.sizeFindings)
    (known : input.graph.node? id = some node)
    (visited : input.analysis.property? id = some property) {observation : Observation}
    (member : observation ∈ property.sizeObservations input node) :
    observation.severity ≠ .error :=
  clean _ (mem_sizeFindings known visited member)

/-- A node without an error in the findings about sizes did not fail. -/
theorem not_errored_of_clean (clean : Clean input.sizeFindings)
    (known : input.graph.node? id = some node)
    (visited : input.analysis.property? id = some property) : property.isErrored = false := by
  by_contra errored
  simp only [StackProperty.isErrored, Bool.not_eq_false, Option.isSome_iff_exists] at errored
  rcases errored with ⟨cause, failed⟩
  have observed : Observation.underflow cause ∈ property.sizeObservations input node := by
    simp [StackProperty.sizeObservations, failed]
  exact sizeObservation_ne_error clean known visited observed rfl

/-- No state around a node without an error in the findings about sizes is too large. -/
theorem largest_le_of_clean (clean : Clean input.sizeFindings)
    (known : input.graph.node? id = some node)
    (visited : input.analysis.property? id = some property) :
    property.largest ≤ input.maxStack := by
  by_contra excess
  have observed : Observation.exceedsMaxStack property.largest input.maxStack ∈
      property.sizeObservations input node := by
    simp [StackProperty.sizeObservations, Nat.lt_of_not_le excess]
  exact sizeObservation_ne_error clean known visited observed rfl

theorem mem_analyzedNodes (known : input.graph.node? id = some node)
    (visited : input.analysis.property? id = some property) :
    (id, node, property) ∈ input.analyzedNodes := by
  apply List.mem_filterMap.2
  refine ⟨(id, property), List.mem_filterMap.2 ⟨id, ?_, by simp [visited]⟩, by simp [known]⟩
  apply List.mem_range.2
  by_contra outside
  have missing : input.analysis.properties[id]? = none :=
    Array.getElem?_eq_none (Nat.le_of_not_lt outside)
  simp [Analysis.property?, missing] at visited

theorem of_mem_analyzedNodes (member : (id, node, property) ∈ input.analyzedNodes) :
    input.graph.node? id = some node ∧ input.analysis.property? id = some property := by
  simp only [analyzedNodes, Analysis.analyzed, List.mem_filterMap, Option.map_eq_some_iff] at member
  rcases member with ⟨_, ⟨_, _, _, visited, rfl⟩, _, known, same⟩
  cases same
  exact ⟨known, visited⟩

/-- The states before a node without an error in the findings about types have the same types. -/
theorem exists_layout_of_clean (clean : Clean input.typeFindings)
    (known : input.graph.node? id = some node)
    (visited : input.analysis.property? id = some property) :
    ∃ layout, ∀ state ∈ property.statesBefore.states, state.types = layout := by
  have nodeClean : property.typeObservation.severity ≠ .error := by
    apply clean ⟨some (node.site id), property.typeObservation⟩
    apply List.mem_flatMap.2
    exact ⟨_, mem_analyzedNodes known visited, by simp⟩
  have few : property.statesBefore.layouts.length ≤ 1 := by
    by_contra many
    simp [StackProperty.typeObservation, Nat.lt_of_not_le many, Observation.severity] at nodeClean
  have listed : ∀ state ∈ property.statesBefore.states,
      state.types ∈ property.statesBefore.layouts := by
    intro state member
    exact StateSet.mem_layouts.2 ⟨state, member, rfl⟩
  cases layouts : property.statesBefore.layouts with
  | nil =>
      refine ⟨[], ?_⟩
      intro state member
      have impossible := listed state member
      rw [layouts] at impossible
      cases impossible
  | cons layout others =>
      rw [layouts] at few
      have single : others = [] := by simpa using few
      refine ⟨layout, ?_⟩
      intro state member
      have isListed := listed state member
      rw [layouts, single] at isListed
      exact List.mem_singleton.1 isListed

theorem mem_loopObservations (label : LoopLabel) {entry back : StackProperty}
    (passed : back.isErrored = false) {state : StackState}
    (member : state ∈ back.statesAfter.states)
    (unlisted : state.types ∉ entry.statesBefore.layouts) :
    .loopMismatch label state.signature ∈ loopObservations label (some entry) (some back) := by
  have mismatch : state ∈ back.statesAfter.states.filter fun state =>
      !entry.statesBefore.layouts.contains state.types := by
    simp [member, unlisted]
  simp only [loopObservations, passed, Bool.false_eq_true, if_false]
  split
  · next isEmpty =>
    rw [List.isEmpty_iff.1 isEmpty] at mismatch
    cases mismatch
  · exact List.mem_map.2 ⟨state, mismatch, rfl⟩

/-- The only error about a loop is a state that comes back with types with which the header was not
entered. -/
theorem exists_mismatch_of_mem_loopObservations {label : LoopLabel}
    {header source : Option StackProperty} {observation : Observation}
    (observed : observation ∈ loopObservations label header source)
    (isError : observation.severity = .error) :
    ∃ entry back state, header = some entry ∧ source = some back ∧ back.isErrored = false ∧
      state ∈ back.statesAfter.states ∧ state.types ∉ entry.statesBefore.layouts ∧
      observation = .loopMismatch label state.signature := by
  simp only [loopObservations] at observed
  split at observed
  · next entry back =>
    split at observed
    · rw [List.mem_singleton.1 observed] at isError
      cases isError
    · next passed =>
      split at observed
      · rw [List.mem_singleton.1 observed] at isError
        cases isError
      · rcases List.mem_map.1 observed with ⟨state, mismatch, rfl⟩
        rcases List.mem_filter.1 mismatch with ⟨member, unlisted⟩
        exact ⟨entry, back, state, rfl, rfl, by simpa using passed, member,
          by simpa using unlisted, rfl⟩
  · rw [List.mem_singleton.1 observed] at isError
    cases isError

/-- A loop without an error in the findings about loops comes back to its header with types with
which the header was entered. -/
theorem covers_of_clean (clean : Clean input.loopFindings) {edge : Edge}
    (removed : edge ∈ input.analysis.backEdges) {sourceNode headerNode : Node}
    {back entry : StackProperty} (sourceKnown : input.graph.node? edge.source = some sourceNode)
    (headerKnown : input.graph.node? edge.target = some headerNode)
    (sourceVisited : input.analysis.property? edge.source = some back)
    (headerVisited : input.analysis.property? edge.target = some entry)
    (passed : back.isErrored = false) {state : StackState}
    (member : state ∈ back.statesAfter.states) :
    entry.statesBefore.Covers StackState.types state := by
  have edgeClean : Clean (input.edgeLoopFindings edge) := fun finding edgeMember =>
    clean finding (List.mem_flatMap.2 ⟨edge, removed, edgeMember⟩)
  have listed : state.types ∈ entry.statesBefore.layouts := by
    by_contra unlisted
    simp only [edgeLoopFindings, sourceKnown, headerKnown, sourceVisited, headerVisited]
      at edgeClean
    exact observation_ne_error edgeClean (mem_loopObservations _ passed member unlisted) rfl
  exact StateSet.mem_layouts.1 listed

end ReportInput

end StackFlow
