import StackFlow.Proofs.Propagation.Loops

/-!
# Verdicts do not depend on names

The names of local variables and the placeholder end up in values, and values decide which states
count as the same. So another table of variables, or another placeholder, changes how many states
there are and in which order they come. It changes no verdict. Two propagations that differ in
nothing else run in parallel: they look at the same nodes in the same order, and at each step they
know the same layouts around the same nodes. This needs no assumption about the graph, since the
next step never depends on a value.
-/

namespace StackFlow

namespace StateSet

variable {left right : StateSet}

/-- Says that the same layouts occur in two sets. -/
def SameLayouts (left right : StateSet) : Prop :=
  ∀ layout, layout ∈ left.layouts ↔ layout ∈ right.layouts

/-- Says that the entries of a set are as large as their types say, and that each of its layouts
occurs in another set. -/
def Within (left right : StateSet) : Prop :=
  ∀ state ∈ left.states, state.WellSized ∧ right.Covers StackState.types state

/-- Says that two sets hold the same layouts, all entries being as large as their types say. -/
def Parallel (left right : StateSet) : Prop := left.Within right ∧ right.Within left

theorem Within.mem_layouts (within : left.Within right) {layout : List ValueType}
    (member : layout ∈ left.layouts) : layout ∈ right.layouts := by
  rcases StateSet.mem_layouts.1 member with ⟨state, stateMember, rfl⟩
  exact StateSet.mem_layouts.2 (within state stateMember).2

theorem Parallel.symm (parallel : left.Parallel right) : right.Parallel left :=
  ⟨parallel.2, parallel.1⟩

theorem Parallel.sameLayouts (parallel : left.Parallel right) : left.SameLayouts right :=
  fun _ => ⟨parallel.1.mem_layouts, parallel.2.mem_layouts⟩

theorem parallel_empty : empty.Parallel empty := by
  constructor <;> simp [Within, empty]

theorem Collects.within {leftSource rightSource : StackState → Prop}
    (fromLeft : left.Collects leftSource) (fromRight : right.Collects rightSource)
    (matched : ∀ state, leftSource state →
      state.WellSized ∧ ∃ other, rightSource other ∧ other.types = state.types) :
    left.Within right := by
  intro state member
  rcases matched state (fromLeft.sound state member) with ⟨sized, other, given, same⟩
  rcases fromRight.exists_shown given with ⟨kept, keptMember, shown⟩
  exact ⟨sized, kept, keptMember, (StackState.types_eq_of_shown_eq shown).trans same⟩

theorem greatest_le {numbers : List Nat} {bound : Nat}
    (bounded : ∀ number ∈ numbers, number ≤ bound) : greatest numbers ≤ bound := by
  suffices general : ∀ start ≤ bound, numbers.foldl max start ≤ bound from
    general 0 (Nat.zero_le bound)
  induction numbers with
  | nil => exact fun start small => small
  | cons first numbers ih =>
      intro start small
      have firstSmall := bounded first List.mem_cons_self
      apply ih fun number member => bounded number (List.mem_cons_of_mem _ member)
      omega

theorem Parallel.maxSizeInWords_le (parallel : left.Parallel right) :
    left.maxSizeInWords ≤ right.maxSizeInWords := by
  apply greatest_le
  intro size member
  rcases List.mem_map.1 member with ⟨state, stateMember, rfl⟩
  rcases parallel.1 state stateMember with ⟨sized, covers⟩
  exact covers.sizeInWords_le sized fun kept keptMember => (parallel.2 kept keptMember).1

theorem Parallel.maxEntries_le (parallel : left.Parallel right) :
    left.maxEntries ≤ right.maxEntries := by
  have length (state : StackState) : state.length = state.types.length := by
    simp [StackState.length, OffsetVector.length_eq, StackState.types, StackState.toList]
  apply greatest_le
  intro count member
  rcases List.mem_map.1 member with ⟨state, stateMember, rfl⟩
  rcases parallel.1 state stateMember with ⟨_, kept, keptMember, same⟩
  rw [length, ← same, ← length]
  exact le_foldl_max (.inr (List.mem_map_of_mem keptMember))

end StateSet

/-! ### One node in two analyses -/

namespace StackProperty

/-- Says that the layouts around a node, and whether it failed, are the same. -/
structure SameVerdict (left right : StackProperty) : Prop where
  errored : left.isErrored = right.isErrored
  before : left.statesBefore.SameLayouts right.statesBefore
  after : left.statesAfter.SameLayouts right.statesAfter

/-- What is known about a node in two analyses that run in parallel. -/
structure Parallel (left right : StackProperty) : Prop where
  errored : left.isErrored = right.isErrored
  before : left.statesBefore.Parallel right.statesBefore
  after : left.statesAfter.Parallel right.statesAfter

theorem Parallel.sameVerdict {left right : StackProperty} (parallel : left.Parallel right) :
    left.SameVerdict right :=
  ⟨parallel.errored, parallel.before.sameLayouts, parallel.after.sameLayouts⟩

end StackProperty

section NodeProperty

variable {left right : Environment} {before otherBefore : StateSet}

theorem exists_alike_run (samePool : left.pool = right.pool)
    (parallel : before.Parallel otherBefore) (method : Method) (node : Node) {state : StackState}
    (member : state ∈ before.states) :
    ∃ other ∈ otherBefore.states,
      Alike (fun result otherResult => result.types = otherResult.types)
        (node.run left method state) (node.run right method other) := by
  rcases parallel.1 state member with ⟨sized, other, otherMember, same⟩
  refine ⟨other, otherMember, ?_⟩
  exact StackState.respected_types.run samePool False.elim sized (parallel.2 other otherMember).1
    same.symm method node

theorem isErrored_of_parallel (samePool : left.pool = right.pool)
    (parallel : before.Parallel otherBefore) (method : Method) (node : Node)
    (errored : (nodeProperty left method node before).isErrored = true) :
    (nodeProperty right method node otherBefore).isErrored = true := by
  rw [isErrored_nodeProperty] at errored ⊢
  rcases errored with ⟨state, member, cause, failed⟩
  rcases exists_alike_run samePool parallel method node member with ⟨other, otherMember, alike⟩
  rw [failed] at alike
  exact ⟨other, otherMember, cause, alike.eq_error⟩

theorem within_statesAfter (samePool : left.pool = right.pool)
    (parallel : before.Parallel otherBefore) (method : Method) (node : Node)
    (passed : (nodeProperty left method node before).isErrored = false)
    (otherPassed : (nodeProperty right method node otherBefore).isErrored = false) :
    (nodeProperty left method node before).statesAfter.Within
      (nodeProperty right method node otherBefore).statesAfter := by
  apply (collects_nodeProperty left method node before passed).within
    (collects_nodeProperty right method node otherBefore otherPassed)
  rintro result ⟨state, member, ran⟩
  refine ⟨Node.wellSized_of_run (parallel.1 state member).1 ran, ?_⟩
  rcases exists_alike_run samePool parallel method node member with ⟨other, otherMember, alike⟩
  rw [ran] at alike
  rcases alike.exists_ok with ⟨otherResult, otherRan, same⟩
  exact ⟨otherResult, ⟨other, otherMember, otherRan⟩, same.symm⟩

theorem parallel_nodeProperty (samePool : left.pool = right.pool)
    (parallel : before.Parallel otherBefore) (method : Method) (node : Node) :
    (nodeProperty left method node before).Parallel
      (nodeProperty right method node otherBefore) := by
  have errored : (nodeProperty left method node before).isErrored =
      (nodeProperty right method node otherBefore).isErrored :=
    Bool.eq_iff_iff.2 ⟨isErrored_of_parallel samePool parallel method node,
      isErrored_of_parallel samePool.symm parallel.symm method node⟩
  refine ⟨errored, ?_, ?_⟩
  · rw [statesBefore_nodeProperty, statesBefore_nodeProperty]
    exact parallel
  · cases passed : (nodeProperty left method node before).isErrored with
    | true =>
        rw [statesAfter_of_errored _ _ _ _ passed,
          statesAfter_of_errored _ _ _ _ (errored ▸ passed)]
        exact StateSet.parallel_empty
    | false =>
        exact ⟨within_statesAfter samePool parallel method node passed (errored ▸ passed),
          within_statesAfter samePool.symm parallel.symm method node (errored ▸ passed) passed⟩

end NodeProperty

/-! ### Two propagations -/

section Options

variable {α β : Type} {related : α → β → Prop} {left : Option α} {right : Option β}

theorem rel_cases (both : Option.Rel related left right) :
    (left = none ∧ right = none) ∨
      ∃ found other, left = some found ∧ right = some other ∧ related found other := by
  cases both with
  | none => exact .inl ⟨rfl, rfl⟩
  | some holds => exact .inr ⟨_, _, rfl, rfl, holds⟩

theorem rel_imp {looser : α → β → Prop} (implies : ∀ found other, related found other →
    looser found other) (both : Option.Rel related left right) : Option.Rel looser left right := by
  cases both with
  | none => exact .none
  | some holds => exact .some (implies _ _ holds)

theorem rel_swap {swapped : β → α → Prop} (implies : ∀ found other, related found other →
    swapped other found) (both : Option.Rel related left right) :
    Option.Rel swapped right left := by
  cases both with
  | none => exact .none
  | some holds => exact .some (implies _ _ holds)

end Options

/-- The same problem with another table of local variables, another placeholder and another choice
about the names of handlers' variables. -/
def Problem.renamed (problem : Problem) (locals : LocalTable) (placeholder : String)
    (registerHandlerLocals : Bool) : Problem :=
  { problem with
    method := { problem.method with locals }
    settings := { problem.settings with placeholder, registerHandlerLocals } }

section Renamed

variable (problem : Problem) (locals : LocalTable) (placeholder : String)
  (registerHandlerLocals : Bool)

theorem within_entryStates (handlers : List Handler) (method other : Method)
    (placeholder otherPlaceholder : String) :
    (StateSet.ofList (handlers.map (Handler.entryState method placeholder))).Within
      (StateSet.ofList (handlers.map (Handler.entryState other otherPlaceholder))) := by
  apply (StateSet.collects_ofList _).within (StateSet.collects_ofList _)
  intro state made
  rcases List.mem_map.1 made with ⟨handler, member, rfl⟩
  refine ⟨?_, _, List.mem_map_of_mem member, ?_⟩
  · simp [StackState.WellSized, Handler.entryState, Entry.Sized, Entry.make]
  · simp [StackState.types, Handler.entryState, Entry.make]

theorem parallel_rootStates (node : Node) :
    (node.rootStates problem.method problem.settings).Parallel
      (node.rootStates (problem.renamed locals placeholder registerHandlerLocals).method
        (problem.renamed locals placeholder registerHandlerLocals).settings) := by
  have sameHandlers :
      node.handlers (problem.renamed locals placeholder registerHandlerLocals).method =
        node.handlers problem.method := rfl
  simp only [Node.rootStates, sameHandlers]
  split
  · have single : StateSet.singleEmpty.Within .singleEmpty := by
      intro state member
      have isEmpty := member
      rw [StateSet.states_singleEmpty, List.mem_singleton] at isEmpty
      exact ⟨by simp [isEmpty, StackState.WellSized], state, member, rfl⟩
    exact ⟨single, single⟩
  · exact ⟨within_entryStates _ _ _ _ _, within_entryStates _ _ _ _ _⟩

end Renamed

/-- Says that the metrics agree in all that does not count states. -/
structure Metrics.SameVerdict (left right : Metrics) : Prop where
  maxStackSize : left.maxStackSize = right.maxStackSize
  maxEntriesPerState : left.maxEntriesPerState = right.maxEntriesPerState
  analyzedNodes : left.analyzedNodes = right.analyzedNodes
  erroredNodes : left.erroredNodes = right.erroredNodes

theorem Metrics.SameVerdict.recordSet {left right : Metrics} {set other : StateSet}
    (same : left.SameVerdict right) (parallel : set.Parallel other) :
    (left.recordSet set).SameVerdict (right.recordSet other) := by
  have sizes : set.maxSizeInWords = other.maxSizeInWords :=
    Nat.le_antisymm parallel.maxSizeInWords_le parallel.symm.maxSizeInWords_le
  have entries : set.maxEntries = other.maxEntries :=
    Nat.le_antisymm parallel.maxEntries_le parallel.symm.maxEntries_le
  constructor
  · simp [Metrics.recordSet, same.maxStackSize, sizes]
  · simp [Metrics.recordSet, same.maxEntriesPerState, entries]
  · exact same.analyzedNodes
  · exact same.erroredNodes

theorem Metrics.SameVerdict.record {left right : Metrics} {property other : StackProperty}
    (same : left.SameVerdict right) (parallel : property.Parallel other) :
    (left.record property).SameVerdict (right.record other) := by
  refine SameVerdict.recordSet (SameVerdict.recordSet ?_ parallel.before) parallel.after
  constructor
  · exact same.maxStackSize
  · exact same.maxEntriesPerState
  · simp [same.analyzedNodes]
  · simp [same.erroredNodes, parallel.errored]

namespace Propagation

/-- What two propagations have in common that differ in names only. -/
structure Parallel (left right : Propagation) : Prop where
  worklist : left.worklist = right.worklist
  crossed : left.crossed = right.crossed
  size : left.properties.size = right.properties.size
  property : ∀ id, Option.Rel StackProperty.Parallel (left.property? id) (right.property? id)
  metrics : left.metrics.SameVerdict right.metrics

theorem within_mergedStates {left right : Propagation} (graph : FlowGraph) (id : NodeId)
    (handedOn : ∀ source,
      Option.Rel (fun found other => found.statesAfter.Within other.statesAfter)
        (left.property? source) (right.property? source)) :
    (left.mergedStates graph id).Within (right.mergedStates graph id) := by
  apply (collects_mergedStates left graph id).within (collects_mergedStates right graph id)
  rintro state ⟨source, entering, found, visited, member⟩
  rcases rel_cases (handedOn source) with
    ⟨unknown, _⟩ | ⟨known, other, isKnown, visitedToo, within⟩
  · rw [unknown] at visited
    cases visited
  · rw [visited, Option.some.injEq] at isKnown
    subst known
    rcases within state member with ⟨sized, kept, keptMember, same⟩
    exact ⟨sized, kept, ⟨source, entering, other, visitedToo, keptMember⟩, same⟩

namespace Parallel

variable {left right : Propagation}

theorem mergedStates (parallel : Parallel left right) (graph : FlowGraph) (id : NodeId) :
    (left.mergedStates graph id).Parallel (right.mergedStates graph id) := by
  constructor
  · apply within_mergedStates
    exact fun source => rel_imp (fun _ _ both => both.after.1) (parallel.property source)
  · apply within_mergedStates
    exact fun source => rel_swap (fun _ _ both => both.after.2) (parallel.property source)

theorem isSome_eq (parallel : Parallel left right) (id : NodeId) :
    (left.property? id).isSome = (right.property? id).isSome := by
  rcases rel_cases (parallel.property id) with ⟨unknown, unknownToo⟩ | ⟨_, _, known, knownToo, _⟩
  · rw [unknown, unknownToo]
  · rw [known, knownToo]
    rfl

variable {problem : Problem} {locals : LocalTable} {placeholder : String}
  {registerHandlerLocals : Bool}

theorem visit (parallel : Parallel left right) (id : NodeId) (node : Node) :
    (left.visit problem id node).property.Parallel (right.visit
      (problem.renamed locals placeholder registerHandlerLocals) id node).property := by
  rw [property_visit, property_visit]
  have samePool (names otherNames : LocalNames) : (problem.environment names).pool =
      ((problem.renamed locals placeholder registerHandlerLocals).environment otherNames).pool :=
    rfl
  refine parallel_nodeProperty (samePool _ _) ?_ problem.method node
  simp only [arriving]
  split
  · exact parallel_rootStates problem locals placeholder registerHandlerLocals node
  · exact parallel.mergedStates problem.graph id

theorem settle (parallel : Parallel left right) (id : NodeId) (node : Node) (rest : List NodeId) :
    Parallel (left.settle problem id node rest)
      (right.settle (problem.renamed locals placeholder registerHandlerLocals) id node rest) := by
  have visited : (left.visit problem id node).property.Parallel (right.visit
      (problem.renamed locals placeholder registerHandlerLocals) id node).property :=
    parallel.visit id node
  constructor
  · simp only [Propagation.settle, visited.errored]
    rfl
  · simp only [Propagation.settle, visited.errored, parallel.crossed]
  · simpa [Propagation.settle] using parallel.size
  · intro other
    simp only [property?, Propagation.settle, Array.getElem?_setIfInBounds, parallel.size]
    split
    · split
      · exact .some visited
      · exact .none
    · exact parallel.property other
  · exact parallel.metrics.record visited

/-- One step of two propagations that run in parallel. -/
theorem step (parallel : Parallel left right) :
    Parallel (left.step problem)
      (right.step (problem.renamed locals placeholder registerHandlerLocals)) := by
  have drop (rest : List NodeId) :
      Parallel { left with worklist := rest } { right with worklist := rest } :=
    ⟨rfl, parallel.crossed, parallel.size, parallel.property, parallel.metrics⟩
  have ready (node : Node) : left.isReady node = right.isReady node := by
    simp only [isReady, parallel.crossed]
  simp only [Propagation.step, parallel.worklist, parallel.isSome_eq, ready]
  split
  · exact parallel
  · next id rest next =>
    have sameGraph : (problem.renamed locals placeholder registerHandlerLocals).graph =
      problem.graph := rfl
    rw [sameGraph]
    split
    · exact drop rest
    · next node known =>
      split
      · exact drop rest
      · exact parallel.settle id node rest

end Parallel

theorem parallel_final (problem : Problem) (locals : LocalTable) (placeholder : String)
    (registerHandlerLocals : Bool) :
    Parallel (final problem)
      (final (problem.renamed locals placeholder registerHandlerLocals)) := by
  refine iterate_related Parallel (fun left right parallel => parallel.step) ?_
    (stepBound problem.graph)
  refine ⟨rfl, rfl, rfl, ?_, rfl, rfl, rfl, rfl⟩
  intro id
  rw [property?_initial, property?_initial]
  exact .none

end Propagation

/-! ### Loops -/

/-- Says that a loop comes back to its header with a layout with which the header was not entered,
given what is known about the header and about the node that closes the loop. -/
def LoopMismatch : Option StackProperty → Option StackProperty → Prop
  | some entry, some back => back.isErrored = false ∧
      ∃ layout ∈ back.statesAfter.layouts, layout ∉ entry.statesBefore.layouts
  | _, _ => False

theorem exists_error_loopObservations (label : LoopLabel) {header source : Option StackProperty} :
    (∃ observation ∈ ReportInput.loopObservations label header source,
      observation.severity = .error) ↔ LoopMismatch header source := by
  constructor
  · rintro ⟨observation, member, isError⟩
    rcases ReportInput.exists_mismatch_of_mem_loopObservations member isError with
      ⟨entry, back, state, rfl, rfl, passed, stateMember, unlisted, _⟩
    exact ⟨passed, state.types, StateSet.mem_layouts.2 ⟨state, stateMember, rfl⟩, unlisted⟩
  · intro mismatch
    cases header with
    | none => exact mismatch.elim
    | some entry =>
        cases source with
        | none => exact mismatch.elim
        | some back =>
            rcases mismatch with ⟨passed, layout, listed, unlisted⟩
            rcases StateSet.mem_layouts.1 listed with ⟨state, stateMember, rfl⟩
            exact ⟨_, ReportInput.mem_loopObservations label passed stateMember unlisted, rfl⟩

theorem exists_error_edgeLoopFindings {input : ReportInput} {edge : Edge} :
    (∃ finding ∈ input.edgeLoopFindings edge, finding.severity = .error) ↔
      (input.graph.node? edge.source).isSome = true ∧
        (input.graph.node? edge.target).isSome = true ∧
          LoopMismatch (input.analysis.property? edge.target)
            (input.analysis.property? edge.source) := by
  cases source : input.graph.node? edge.source with
  | none => simp [ReportInput.edgeLoopFindings, source]
  | some sourceNode =>
      cases header : input.graph.node? edge.target with
      | none => simp [ReportInput.edgeLoopFindings, source, header]
      | some headerNode =>
          simp only [ReportInput.edgeLoopFindings, source, header, List.mem_map, Option.isSome_some,
            true_and, ← exists_error_loopObservations ⟨sourceNode.offset, headerNode.offset⟩]
          constructor
          · rintro ⟨_, ⟨observation, member, rfl⟩, isError⟩
            exact ⟨observation, member, isError⟩
          · rintro ⟨observation, member, isError⟩
            exact ⟨_, ⟨observation, member, rfl⟩, isError⟩

theorem loopMismatch_congr {header otherHeader source otherSource : Option StackProperty}
    (headers : Option.Rel StackProperty.SameVerdict header otherHeader)
    (sources : Option.Rel StackProperty.SameVerdict source otherSource) :
    LoopMismatch header source ↔ LoopMismatch otherHeader otherSource := by
  cases headers with
  | none => exact Iff.rfl
  | some entries =>
      cases sources with
      | none => exact Iff.rfl
      | some backs => simp only [LoopMismatch, backs.errored, entries.before _, backs.after _]

/-- Names decide nothing. Two analyses of methods that differ in their tables of local variables
only, with settings that differ only in the placeholder and in whether handlers name their
variables, reject the same graphs. If they accept, they visit the same nodes, of which the same
fail, find the same layouts around each node and the same largest stacks, and each loop is found
inconsistent by both or by none. -/
theorem analyze_sameVerdicts (method : Method) (locals : LocalTable) (graph : FlowGraph)
    (finder : BackEdgeFinder) (settings : Settings) (placeholder : String)
    (registerHandlerLocals : Bool) :
    (∃ cause, analyze method graph finder settings = .error cause ∧
      analyze { method with locals } graph finder
        { settings with placeholder, registerHandlerLocals } = .error cause) ∨
    ∃ first second rest, analyze method graph finder settings = .ok (first, rest) ∧
      analyze { method with locals } graph finder
        { settings with placeholder, registerHandlerLocals } = .ok (second, rest) ∧
      (∀ id, Option.Rel StackProperty.SameVerdict (first.property? id) (second.property? id)) ∧
      first.metrics.SameVerdict second.metrics ∧
      first.backEdges = second.backEdges ∧
      ∀ reportGraph reportSettings otherSettings, ∀ edge ∈ first.backEdges,
        (∃ finding ∈ ReportInput.edgeLoopFindings ⟨method, reportGraph, first, reportSettings⟩ edge,
          finding.severity = .error) ↔
        ∃ finding ∈ ReportInput.edgeLoopFindings
          ⟨{ method with locals }, reportGraph, second, otherSettings⟩ edge,
          finding.severity = .error := by
  cases valid : graph.validate method with
  | error cause =>
      have otherValid : graph.validate { method with locals } = .error cause := valid
      left
      exact ⟨cause, by simp only [analyze, valid], by simp only [analyze, otherValid]⟩
  | ok =>
      have otherValid : graph.validate { method with locals } = .ok () := valid
      rcases analyze_of_valid valid finder settings with ⟨first, analyzed, records, removed⟩
      rcases analyze_of_valid otherValid finder
        { settings with placeholder, registerHandlerLocals } with
        ⟨second, otherAnalyzed, otherRecords, otherRemoved⟩
      have parallel := Propagation.parallel_final
        ⟨method, (graph.removeBackEdges finder).2, settings⟩ locals placeholder
        registerHandlerLocals
      have properties : ∀ id,
          Option.Rel StackProperty.SameVerdict (first.property? id) (second.property? id) := by
        intro id
        rw [records.property?, otherRecords.property?]
        exact rel_imp (fun _ _ both => both.sameVerdict) (parallel.property id)
      right
      refine ⟨first, second, _, analyzed, otherAnalyzed, properties, ?_, ?_, ?_⟩
      · rw [records.metrics, otherRecords.metrics]
        exact parallel.metrics
      · rw [removed, otherRemoved]
      · intro reportGraph reportSettings otherSettings edge _
        rw [exists_error_edgeLoopFindings, exists_error_edgeLoopFindings,
          loopMismatch_congr (properties edge.target) (properties edge.source)]

/-- A method that loads one of two variables and drops its value. -/
def eitherVariable : Method :=
  { instructions := #[{ offset := 0, opcode := .nop },
      { offset := 1, opcode := .load .int (some 0) },
      { offset := 2, opcode := .load .int (some 1) }, { offset := 3, opcode := .pop }] }

/-- Both loads come after the first node and before the last. -/
def eitherLoad : FlowGraph :=
  .ofCalls [.addInstructionNodes eitherVariable, .addEdge 0 1, .addEdge 0 2, .addEdge 1 3,
    .addEdge 2 3]

-- The number of states does depend on names: two variables of one name bring the same state.
example :
    ((analyze eitherVariable eitherLoad FlowGraph.depthFirstBackEdges {}).toOption.map
      fun result => result.1.metrics.maxStatesPerNode) = some 2 ∧
    ((analyze { eitherVariable with locals := [⟨0, 0, 4, "x", "I"⟩, ⟨1, 0, 4, "x", "I"⟩] }
      eitherLoad FlowGraph.depthFirstBackEdges {}).toOption.map
        fun result => result.1.metrics.maxStatesPerNode) = some 1 := by
  decide +kernel

end StackFlow
