import Mathlib.Data.List.Induction
import Mathlib.Order.Bounds.Basic
import StackFlow.Proofs.Findings.Witnesses

/-!
# Metrics and what they sum up

Metrics are kept up to date while nodes are visited, in whatever order this happens, and the findings
about sizes look at the stored properties again afterwards. The order does not matter: taking two
nodes into account commutes, and each visit fills one place that was free, so at every moment the
metrics are those of all stored properties. The rest is about the metrics of a list of properties.
-/

namespace StackFlow

/-- Says that an analysis keeps a set of states, before or after one of the nodes. -/
def Analysis.Keeps (analysis : Analysis) (set : StateSet) : Prop :=
  ∃ id property, analysis.property? id = some property ∧
    (set = property.statesBefore ∨ set = property.statesAfter)

/-! ### Greatest numbers -/

/-- Says that a value is the greatest of some numbers, or zero if there are none. -/
def IsMaximum (numbers : Set Nat) (value : Nat) : Prop :=
  IsGreatest numbers value ∨ numbers = ∅ ∧ value = 0

namespace IsMaximum

variable {numbers others : Set Nat} {value other limit : Nat}

theorem union (maximum : IsMaximum numbers value) (otherMaximum : IsMaximum others other) :
    IsMaximum (numbers ∪ others) (max value other) := by
  rcases maximum with greatest | ⟨rfl, rfl⟩
  · rcases otherMaximum with otherGreatest | ⟨rfl, rfl⟩
    · exact .inl (greatest.union otherGreatest)
    · simpa using show IsMaximum numbers value from .inl greatest
  · simpa using otherMaximum

theorem lt_iff (maximum : IsMaximum numbers value) :
    limit < value ↔ ∃ number ∈ numbers, limit < number := by
  rcases maximum with greatest | ⟨rfl, rfl⟩
  · constructor
    · intro exceeds
      exact ⟨value, greatest.1, exceeds⟩
    · rintro ⟨number, member, exceeds⟩
      exact Nat.lt_of_lt_of_le exceeds (greatest.2 member)
  · simp

end IsMaximum

namespace StateSet

theorem isMaximum_greatest (numbers : List Nat) :
    IsMaximum {number | number ∈ numbers} (greatest numbers) := by
  cases numbers with
  | nil => exact .inr ⟨by simp, rfl⟩
  | cons first numbers =>
      refine .inl ⟨?_, fun number member => le_foldl_max (.inr member)⟩
      rcases foldl_max_eq_or_mem numbers first with isFirst | member
      · simp [greatest, isFirst]
      · simp [greatest, member]

theorem isMaximum_maxSizeInWords (set : StateSet) :
    IsMaximum {size | ∃ state ∈ set.states, state.sizeInWords = size} set.maxSizeInWords := by
  simpa [maxSizeInWords] using isMaximum_greatest (set.states.map StackState.sizeInWords)

theorem isMaximum_maxEntries (set : StateSet) :
    IsMaximum {count | ∃ state ∈ set.states, state.length = count} set.maxEntries := by
  simpa [maxEntries] using isMaximum_greatest (set.states.map StackState.length)

theorem isMaximum_length (set : StateSet) : IsMaximum {count | set.length = count} set.length :=
  .inl ⟨rfl, fun _ isLength => Nat.le_of_eq isLength.symm⟩

end StateSet

/-! ### The metrics of some properties -/

namespace Metrics

/-- The metrics of properties that are taken into account one after the other. -/
def total (properties : List StackProperty) : Metrics := properties.foldl record {}

theorem record_comm (metrics : Metrics) (first second : StackProperty) :
    (metrics.record first).record second = (metrics.record second).record first := by
  simp only [record, recordSet, Metrics.mk.injEq]
  refine ⟨?_, ?_, ?_, trivial, Nat.add_right_comm _ _ _⟩ <;> ac_rfl

theorem total_append_singleton (properties : List StackProperty) (property : StackProperty) :
    total (properties ++ [property]) = (total properties).record property := by
  simp [total]

theorem total_eq_of_perm {left right : List StackProperty} (perm : left.Perm right) :
    total left = total right :=
  perm.foldl_eq' (fun first _ second _ metrics => record_comm metrics first second) {}

theorem analyzedNodes_total (properties : List StackProperty) :
    (total properties).analyzedNodes = properties.length := by
  induction properties using List.reverseRecOn with
  | nil => rfl
  | append_singleton properties property ih =>
      simp [total_append_singleton, record, recordSet, ih]

theorem erroredNodes_total (properties : List StackProperty) :
    (total properties).erroredNodes = properties.countP StackProperty.isErrored := by
  induction properties using List.reverseRecOn with
  | nil => rfl
  | append_singleton properties property ih =>
      cases errored : property.isErrored <;>
        simp [total_append_singleton, record, recordSet, ih, errored]

/-- A field that takes the greatest of what the sets on both sides of a node bring has, in the end,
the greatest of what all sets brought. -/
theorem isMaximum_total {field : Metrics → Nat} {measure : StateSet → Nat}
    {numbers : StateSet → Set Nat} (zero : field {} = 0)
    (recorded : ∀ metrics property, field (metrics.record property) =
      max (max (field metrics) (measure property.statesBefore)) (measure property.statesAfter))
    (maximum : ∀ set, IsMaximum (numbers set) (measure set)) (properties : List StackProperty) :
    IsMaximum {number | ∃ property ∈ properties,
      number ∈ numbers property.statesBefore ∪ numbers property.statesAfter}
      (field (total properties)) := by
  induction properties using List.reverseRecOn with
  | nil => exact .inr ⟨by simp, zero⟩
  | append_singleton properties property ih =>
      have both := (ih.union (maximum property.statesBefore)).union
        (maximum property.statesAfter)
      rw [total_append_singleton, recorded]
      convert both using 1
      ext number
      simp [or_and_right, exists_or, or_assoc]

end Metrics

/-! ### The metrics of a propagation -/

theorem perm_filterMap_of_filled {α β : Type} [DecidableEq α] {elements : List α} {filled : α}
    {before after : α → Option β} {value : β} (nodup : elements.Nodup) (member : filled ∈ elements)
    (free : before filled = none)
    (update : ∀ element, after element = if element = filled then some value else before element) :
    (elements.filterMap after).Perm (elements.filterMap before ++ [value]) := by
  induction elements with
  | nil => cases member
  | cons first elements ih =>
      rcases List.nodup_cons.1 nodup with ⟨apart, nodup⟩
      rcases List.mem_cons.1 member with rfl | inRest
      · have same : elements.filterMap after = elements.filterMap before := by
          apply List.filterMap_congr
          intro element inRest
          rw [update, if_neg]
          rintro rfl
          exact apart inRest
        rw [List.filterMap_cons, List.filterMap_cons, free, update, if_pos rfl, same]
        exact (List.perm_append_singleton _ _).symm
      · have unfilled : first ≠ filled := by
          rintro rfl
          exact apart inRest
        have rest := ih nodup inRest
        rw [List.filterMap_cons, List.filterMap_cons, update first, if_neg unfilled]
        cases before first with
        | none => exact rest
        | some found => exact rest.cons found

namespace Propagation

variable {problem : Problem} {propagation : Propagation}

/-- Says that there is a place for each node, and that the metrics are those of what is stored. -/
structure Totalled (problem : Problem) (propagation : Propagation) : Prop where
  size_properties : propagation.properties.size = problem.graph.nodeCount
  metrics : propagation.metrics =
    .total (problem.graph.nodeIds.filterMap propagation.property?)

theorem totalled_initial (problem : Problem) : Totalled problem (initial problem) := by
  refine ⟨by simp [initial], ?_⟩
  have nothing : problem.graph.nodeIds.filterMap (initial problem).property? = [] := by
    simp [property?_initial]
  rw [nothing]
  rfl

theorem Totalled.turn (totalled : Totalled problem propagation) {next : Propagation}
    (turn : Turn problem propagation next) : Totalled problem next := by
  cases turn with
  | stay => exact totalled
  | drop => exact ⟨totalled.size_properties, totalled.metrics⟩
  | @visit id node rest nextNode known fresh ready =>
      have inGraph := FlowGraph.lt_nodeCount_of_node? known
      have inBounds : id < propagation.properties.size := by
        rwa [totalled.size_properties]
      have filled : (problem.graph.nodeIds.filterMap
            (propagation.settle problem id node rest).property?).Perm
          (problem.graph.nodeIds.filterMap propagation.property? ++
            [(propagation.visit problem id node).property]) :=
        perm_filterMap_of_filled List.nodup_range (List.mem_range.2 inGraph) fresh
          (property?_settle inBounds)
      constructor
      · simpa [settle] using totalled.size_properties
      · rw [Metrics.total_eq_of_perm filled, Metrics.total_append_singleton, ← totalled.metrics]
        rfl

theorem totalled_final (problem : Problem) : Totalled problem (final problem) :=
  iterate_preserves (Totalled problem)
    (fun propagation totalled => totalled.turn (turn_step problem propagation))
    (totalled_initial problem) (stepBound problem.graph)

end Propagation

namespace Analysis.Records

variable {analysis : Analysis} {problem : Problem}

theorem lt_nodeCount (records : analysis.Records problem) {id : NodeId} {property : StackProperty}
    (visited : analysis.property? id = some property) : id < problem.graph.nodeCount := by
  rw [← (Propagation.totalled_final problem).size_properties, ← records.properties]
  simp only [Analysis.property?, Option.join_eq_some_iff] at visited
  exact (Array.getElem?_eq_some_iff.1 visited).1

theorem metrics_eq_total (records : analysis.Records problem) :
    analysis.metrics = .total (problem.graph.nodeIds.filterMap analysis.property?) := by
  have same : analysis.property? = (Propagation.final problem).property? :=
    funext records.property?
  rw [same, records.metrics]
  exact (Propagation.totalled_final problem).metrics

theorem isMaximum (records : analysis.Records problem) {field : Metrics → Nat}
    {measure : StateSet → Nat} {numbers : StateSet → Set Nat} (zero : field {} = 0)
    (recorded : ∀ metrics property, field (metrics.record property) =
      max (max (field metrics) (measure property.statesBefore)) (measure property.statesAfter))
    (maximum : ∀ set, IsMaximum (numbers set) (measure set)) :
    IsMaximum {number | ∃ set, analysis.Keeps set ∧ number ∈ numbers set}
      (field analysis.metrics) := by
  have total := Metrics.isMaximum_total zero recorded maximum
    (problem.graph.nodeIds.filterMap analysis.property?)
  rw [← records.metrics_eq_total] at total
  convert total using 1
  ext number
  constructor
  · rintro ⟨set, ⟨id, property, visited, isSet⟩, member⟩
    refine ⟨property, List.mem_filterMap.2 ⟨id, List.mem_range.2 ?_, visited⟩, ?_⟩
    · exact records.lt_nodeCount visited
    · rcases isSet with rfl | rfl
      · exact .inl member
      · exact .inr member
  · rintro ⟨property, stored, member⟩
    rcases List.mem_filterMap.1 stored with ⟨id, _, visited⟩
    rcases member with before | after
    · exact ⟨_, ⟨id, property, visited, .inl rfl⟩, before⟩
    · exact ⟨_, ⟨id, property, visited, .inr rfl⟩, after⟩

end Analysis.Records

/-! ### Findings about excessive sizes -/

theorem StackProperty.lt_largest_iff {property : StackProperty} {limit : Nat} :
    limit < property.largest ↔ ∃ set, (set = property.statesBefore ∨ set = property.statesAfter) ∧
      ∃ state ∈ set.states, limit < state.sizeInWords := by
  rw [largest, lt_max_iff, property.statesBefore.isMaximum_maxSizeInWords.lt_iff,
    property.statesAfter.isMaximum_maxSizeInWords.lt_iff]
  simp [or_and_right, exists_or]

namespace ReportInput

variable {input : ReportInput}

theorem lt_largest_of_mem_sizeObservations {property : StackProperty} {node : Node}
    {size limit : Nat}
    (observed : .exceedsMaxStack size limit ∈ property.sizeObservations input node) :
    input.maxStack < property.largest := by
  by_contra within
  have otherwise : .exceedsMaxStack size limit ≠ property.sizeObservation := by
    simp only [StackProperty.sizeObservation]
    split <;> simp
  simp only [StackProperty.sizeObservations, within, if_false, List.append_nil, List.cons_append,
    List.mem_cons, List.mem_append, otherwise, false_or] at observed
  rcases observed with failure | remains
  · split at failure <;> simp at failure
  · split at remains <;> simp at remains

/-- A size is reported as excessive if and only if one of the states that are kept is too large. -/
theorem exists_excess_iff
    (inGraph : ∀ id property, input.analysis.property? id = some property →
      ∃ node, input.graph.node? id = some node) :
    (∃ finding ∈ input.sizeFindings, finding.severity = .error ∧ ∃ id size limit,
        finding.node? = some id ∧ finding.observation = .exceedsMaxStack size limit) ↔
      ∃ set, input.analysis.Keeps set ∧
        ∃ state ∈ set.states, input.maxStack < state.sizeInWords := by
  constructor
  · rintro ⟨finding, member, isError, id, size, limit, _, isExcess⟩
    rcases exists_node_of_mem_sizeFindings member isError with
      ⟨id, node, property, _, visited, _, observed⟩
    rw [isExcess] at observed
    rcases StackProperty.lt_largest_iff.1 (lt_largest_of_mem_sizeObservations observed) with
      ⟨set, isSet, exceeds⟩
    exact ⟨set, ⟨id, property, visited, isSet⟩, exceeds⟩
  · rintro ⟨set, ⟨id, property, visited, isSet⟩, exceeds⟩
    rcases inGraph id property visited with ⟨node, known⟩
    have excess := StackProperty.lt_largest_iff.2 ⟨set, isSet, exceeds⟩
    have observed : .exceedsMaxStack property.largest input.maxStack ∈
        property.sizeObservations input node := by
      simp [StackProperty.sizeObservations, excess]
    exact ⟨_, mem_sizeFindings known visited observed, rfl, id, _, _, rfl, rfl⟩

end ReportInput

/-- The metrics of a finished analysis agree with what is stored about the nodes: they count the
nodes that have a property and those whose property tells of a failure, and the other numbers are
the greatest sizes, counts of states and lengths among the sets on both sides of all nodes. A report
on the same graph finds a size excessive if and only if the greatest size is. -/
theorem metrics_sum_up_properties {input : ReportInput} {method : Method} {settings : Settings}
    (finished : analyzeAcyclic method input.graph settings = .ok input.analysis ∨
      ∃ given finder, analyze method given finder settings = .ok (input.analysis, input.graph)) :
    input.analysis.metrics.analyzedNodes =
      input.graph.nodeIds.countP (fun id => (input.analysis.property? id).isSome) ∧
    input.analysis.metrics.erroredNodes =
      input.graph.nodeIds.countP
        (fun id => (input.analysis.property? id).any StackProperty.isErrored) ∧
    IsMaximum {size | ∃ set, input.analysis.Keeps set ∧
      ∃ state ∈ set.states, state.sizeInWords = size} input.analysis.metrics.maxStackSize ∧
    IsMaximum {count | ∃ set, input.analysis.Keeps set ∧ set.length = count}
      input.analysis.metrics.maxStatesPerNode ∧
    IsMaximum {count | ∃ set, input.analysis.Keeps set ∧
      ∃ state ∈ set.states, state.length = count} input.analysis.metrics.maxEntriesPerState ∧
    ((∃ finding ∈ input.sizeFindings, finding.severity = .error ∧ ∃ id size limit,
        finding.node? = some id ∧ finding.observation = .exceedsMaxStack size limit) ↔
      input.settings.maxStackFor input.method.maxStack < input.analysis.metrics.maxStackSize) := by
  obtain ⟨problem, sameGraph, records⟩ : ∃ problem : Problem, problem.graph = input.graph ∧
      input.analysis.Records problem := by
    rcases finished with analyzed | ⟨given, finder, analyzed⟩
    · exact ⟨⟨method, input.graph, settings⟩, rfl, records_of_analyzeAcyclic analyzed⟩
    · exact ⟨⟨method, input.graph, settings⟩, rfl, (eq_of_analyze analyzed).2.1⟩
  have largest : IsMaximum {size | ∃ set, input.analysis.Keeps set ∧
      ∃ state ∈ set.states, state.sizeInWords = size} input.analysis.metrics.maxStackSize :=
    records.isMaximum rfl (fun _ _ => rfl) StateSet.isMaximum_maxSizeInWords
  have inGraph : ∀ id property, input.analysis.property? id = some property →
      ∃ node, input.graph.node? id = some node := by
    intro id property visited
    rw [← sameGraph]
    exact FlowGraph.exists_node? (records.lt_nodeCount visited)
  rw [← sameGraph]
  refine ⟨?_, ?_, largest, ?_, ?_, ?_⟩
  · rw [records.metrics_eq_total, Metrics.analyzedNodes_total,
      List.length_filterMap_eq_countP]
  · rw [records.metrics_eq_total, Metrics.erroredNodes_total, List.countP_filterMap]
    apply List.countP_congr
    intro id _
    cases input.analysis.property? id <;> simp
  · exact records.isMaximum rfl (fun _ _ => rfl) StateSet.isMaximum_length
  · exact records.isMaximum rfl (fun _ _ => rfl) StateSet.isMaximum_maxEntries
  · rw [ReportInput.exists_excess_iff inGraph, largest.lt_iff]
    simp [ReportInput.maxStack, and_assoc]

/-- A method that declares too small a stack, and takes from an empty one before it returns. -/
def widening : Method :=
  { instructions := #[{ offset := 0, opcode := .nop },
      { offset := 1, opcode := .bytePush, operands := [5] },
      { offset := 3, opcode := .bytePush, operands := [7] },
      { offset := 5, opcode := .convert .intToLong }, { offset := 6, opcode := .pop2 },
      { offset := 7, opcode := .pop }, { offset := 8, opcode := .returnVoid }]
    maxStack := 1 }

/-- Both numbers are pushed on branches that meet before they are made wider, in a loop. -/
def widenedJoin : FlowGraph :=
  .ofCalls [.addInstructionNodes widening, .addEdge 0 1, .addEdge 0 2, .addEdge 1 3, .addEdge 2 3,
    .addEdge 3 4, .addEdge 4 5, .addEdge 5 6, .addEdge 6 0]

theorem metrics_sum_up_properties_widenedJoin :
    ∃ analysis rest,
      analyze widening widenedJoin FlowGraph.depthFirstBackEdges {} = .ok (analysis, rest) ∧
      analysis.metrics = ⟨2, 2, 1, 6, 1⟩ ∧
      rest.nodeIds.countP (fun id => (analysis.property? id).isSome) = 6 ∧
      rest.nodeIds.countP (fun id => (analysis.property? id).any StackProperty.isErrored) = 1 ∧
      (∃ set, analysis.Keeps set ∧ ∃ state ∈ set.states, state.sizeInWords = 2) ∧
      ∃ finding ∈ ReportInput.sizeFindings ⟨widening, rest, analysis, {}⟩,
        finding.severity = .error ∧ ∃ id size limit, finding.node? = some id ∧
          finding.observation = .exceedsMaxStack size limit := by
  have valid : widenedJoin.validate widening = .ok () := by decide +kernel
  rcases analyze_of_valid valid FlowGraph.depthFirstBackEdges {} with ⟨analysis, analyzed, _⟩
  have facts : (analyze widening widenedJoin FlowGraph.depthFirstBackEdges {}).toOption.map
      (fun result => result.1.metrics) = some ⟨2, 2, 1, 6, 1⟩ := by
    decide +kernel
  rw [analyzed] at facts
  have numbers : analysis.metrics = ⟨2, 2, 1, 6, 1⟩ := Option.some.inj facts
  rcases @metrics_sum_up_properties ⟨widening, _, analysis, {}⟩ widening {}
    (.inr ⟨_, _, analyzed⟩) with ⟨visited, failed, largest, _, _, excess⟩
  simp only [numbers] at visited failed largest excess
  refine ⟨analysis, _, analyzed, numbers, visited.symm, failed.symm, ?_, excess.2 (by decide)⟩
  rcases largest with greatest | ⟨_, impossible⟩
  · exact greatest.1
  · cases impossible

end StackFlow
