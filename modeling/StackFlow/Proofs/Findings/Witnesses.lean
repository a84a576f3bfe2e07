import StackFlow.Proofs.Distinct
import StackFlow.Proofs.Findings.NoErrors
import StackFlow.Proofs.Propagation.Paths

/-!
# Errors are witnessed by paths

A finding is drawn from sets of states in which the paths are forgotten. Still, each state that is
known comes from a path: not always with its values, since the names of local variables may change
during a run, but with its types, whatever the names are. So no error is reported in vain. What each
of them says is shown by paths from the roots of the graph that is left when loops are broken.
-/

namespace StackFlow

namespace Problem

/-- Says that a path from a root brings a state to a node of which something holds, whatever the
names of local variables are. -/
def Meets (problem : Problem) (id : NodeId) (holds : Environment → StackState → Prop) : Prop :=
  ∃ root initial left, problem.Starts root initial ∧ problem.graph.Walk root left id ∧
    ∀ environment, environment.pool = problem.method.pool → ∃ state,
      problem.graph.run environment problem.method left initial = .ok state ∧
        holds environment state

/-- Says that a path from a root leads through a node, and leaves it with a state of which something
holds. -/
def MeetsAfter (problem : Problem) (id : NodeId) (node : Node) (holds : StackState → Prop) : Prop :=
  problem.Meets id fun environment state => ∃ result,
    node.run environment problem.method state = .ok result ∧ holds result

/-- Says that all paths from roots bring states to a node of which something holds. -/
def MeetsOnly (problem : Problem) (id : NodeId) (holds : StackState → Prop) : Prop :=
  ∀ root initial left environment, problem.Starts root initial →
    problem.graph.Walk root left id → environment.pool = problem.method.pool → ∃ state,
      problem.graph.run environment problem.method left initial = .ok state ∧ holds state

theorem Meets.mono {problem : Problem} {id : NodeId} {holds weaker : Environment → StackState → Prop}
    (meets : problem.Meets id holds) (implies : ∀ environment state,
      environment.pool = problem.method.pool → holds environment state →
        weaker environment state) : problem.Meets id weaker := by
  rcases meets with ⟨root, initial, left, starts, walk, brings⟩
  refine ⟨root, initial, left, starts, walk, ?_⟩
  intro environment samePool
  rcases brings environment samePool with ⟨state, ran, given⟩
  exact ⟨state, ran, implies environment state samePool given⟩

end Problem

/-- What an error at a node says, shown by paths. A size is larger than `limit` allows; the edges
`backEdges` were taken out because they close loops. -/
inductive Witnessed (problem : Problem) (limit : Nat) (backEdges : List Edge) (id : NodeId)
    (node : Node) : Observation → Prop where
  /-- A path brings a state on which the instruction fails. -/
  | underflow {cause : StackError}
      (fails : problem.Meets id fun environment state =>
        node.run environment problem.method state = .error cause) :
      Witnessed problem limit backEdges id node (.underflow cause)
  /-- Two paths bring stacks of different sizes, and each size that is listed is brought. -/
  | inconsistentSizes {sizes : List Nat}
      (differ : ∃ first ∈ sizes, ∃ second ∈ sizes, first ≠ second)
      (brought : ∀ size ∈ sizes, problem.Meets id fun _ state => state.sizeInWords = size) :
      Witnessed problem limit backEdges id node (.inconsistentSizes sizes)
  /-- Two paths bring stacks of different types, and all types that are listed are brought. -/
  | inconsistentTypes {layouts : List (List ValueType)}
      (differ : ∃ first ∈ layouts, ∃ second ∈ layouts, first ≠ second)
      (brought : ∀ layout ∈ layouts, problem.Meets id fun _ state => state.types = layout) :
      Witnessed problem limit backEdges id node (.inconsistentTypes layouts)
  /-- A path has a stack of exactly this size before or after the node. -/
  | exceedsMaxStack {size : Nat} (exceeds : limit < size)
      (occurs : (problem.Meets id fun _ state => state.sizeInWords = size) ∨
        problem.MeetsAfter id node fun result => result.sizeInWords = size) :
      Witnessed problem limit backEdges id node (.exceedsMaxStack size limit)
  /-- A path brings a stack with the wrong type in the operand's place, counted from the top. -/
  | operandMismatch {instruction : Instruction} {operands : List Operand} {position : Nat}
      {expected : Operand} {found : ValueType}
      (hasInstruction : problem.method.instruction? node.instruction = some instruction)
      (expects : instruction.expectedOperands problem.method.pool = some operands)
      (isOperand : operands.reverse[position]? = some expected)
      (isKnown : found ≠ .unknown) (differs : expected.valueType ≠ found)
      (brought : problem.Meets id fun _ state => state.types.reverse[position]? = some found) :
      Witnessed problem limit backEdges id node (.operandMismatch expected found)
  /-- A path through the source of an edge that closes a loop leaves it with types with which no
  path arrives at the header. -/
  | loopMismatch {edge : Edge} {source : Node} {reported : StackState}
      (removed : edge ∈ backEdges) (isHeader : edge.target = id)
      (sourceKnown : problem.graph.node? edge.source = some source)
      (returns : problem.MeetsAfter edge.source source fun result =>
        result.types = reported.types)
      (never : problem.MeetsOnly id fun state => state.types ≠ reported.types) :
      Witnessed problem limit backEdges id node
        (.loopMismatch ⟨source.offset, node.offset⟩ reported.signature)

/-! ### Paths to known states -/

section Runs

variable {left right : Environment} {method : Method} {node : Node} {first second : StackState}

theorem Node.run_alike_of_types (method : Method) (node : Node)
    (samePool : left.pool = right.pool) (firstSized : first.WellSized)
    (secondSized : second.WellSized) (same : second.types = first.types) :
    Alike (fun result after => after.types = result.types) (node.run left method first)
      (node.run right method second) :=
  (StackState.respected_types.run samePool False.elim firstSized secondSized same.symm method
    node).mono fun _ _ => Eq.symm

theorem Node.exists_run_of_types {result : StackState} (samePool : left.pool = right.pool)
    (firstSized : first.WellSized) (secondSized : second.WellSized)
    (same : second.types = first.types) (ran : node.run left method first = .ok result) :
    ∃ after, node.run right method second = .ok after ∧ after.WellSized ∧
      after.types = result.types := by
  have alike := node.run_alike_of_types method samePool firstSized secondSized same
  rw [ran] at alike
  rcases alike.exists_ok with ⟨after, afterRan, sameAfter⟩
  exact ⟨after, afterRan, Node.wellSized_of_run secondSized afterRan, sameAfter⟩

theorem Node.run_eq_error_of_types {cause : StackError} (samePool : left.pool = right.pool)
    (firstSized : first.WellSized) (secondSized : second.WellSized)
    (same : second.types = first.types) (failed : node.run left method first = .error cause) :
    node.run right method second = .error cause := by
  have alike := node.run_alike_of_types method samePool firstSized secondSized same
  rw [failed] at alike
  exact alike.eq_error

theorem StackState.sizeInWords_eq_of_types (firstSized : first.WellSized)
    (secondSized : second.WellSized) (same : first.types = second.types) :
    first.sizeInWords = second.sizeInWords :=
  (sameLayout_of_types firstSized secondSized same).sizeInWords_eq

end Runs

namespace Propagation

variable {problem : Problem} {id : NodeId} {node : Node} {property : StackProperty}
  {state result : StackState}

/-- The types of each state before a visited node are brought by a path. -/
theorem meets_of_mem_statesBefore (wellFormed : problem.graph.WellFormed)
    (visited : (final problem).property? id = some property)
    (member : state ∈ property.statesBefore.states) :
    problem.Meets id fun _ reached => reached.WellSized ∧ reached.types = state.types := by
  suffices both : state.WellSized ∧
      problem.Meets id fun _ reached => reached.WellSized ∧ reached.types = state.types from both.2
  refine statesBefore_induction (fun id state => state.WellSized ∧
    problem.Meets id fun _ reached => reached.WellSized ∧ reached.types = state.types)
    wellFormed ?_ ?_ visited member
  · intro root node state known isRoot initial
    have inGraph := FlowGraph.lt_nodeCount_of_node? known
    have starts : problem.Starts root state :=
      ⟨wellFormed.mem_roots.2 ⟨inGraph, isRoot⟩, node, known, initial⟩
    have sized := Node.wellSized_rootStates initial
    exact ⟨sized, root, state, [], starts, .here, fun _ _ => ⟨state, rfl, sized, rfl⟩⟩
  · rintro source target node names state result adjacent known _ resultRan
      ⟨sized, root, initial, left, starts, walk, brings⟩
    refine ⟨Node.wellSized_of_run sized resultRan, root, initial, left ++ [source], starts,
      walk.step adjacent, ?_⟩
    intro environment samePool
    rcases brings environment samePool with ⟨reached, ran, reachedSized, same⟩
    -- The names may have changed since the state was stored, so its types are all that is kept.
    rcases Node.exists_run_of_types samePool.symm sized reachedSized same resultRan with
      ⟨after, afterRan, afterTypes⟩
    refine ⟨after, ?_, afterTypes⟩
    rw [FlowGraph.run_append_singleton known ran, afterRan]

/-- The types of each state after a visited node are those with which a path leaves it. -/
theorem meetsAfter_of_mem_statesAfter (wellFormed : problem.graph.WellFormed)
    (visited : (final problem).property? id = some property)
    (known : problem.graph.node? id = some node)
    (member : state ∈ property.statesAfter.states) :
    problem.MeetsAfter id node fun result => result.WellSized ∧ result.types = state.types := by
  rcases exists_names_runsThrough wellFormed visited known with ⟨names, _, runs⟩
  rcases (runs.after (runs.passed_of_mem member)).sound state member with
    ⟨earlier, earlierMember, ran⟩
  have sized := wellSized_statesBefore wellFormed visited earlierMember
  apply (meets_of_mem_statesBefore wellFormed visited earlierMember).mono
  rintro environment reached samePool ⟨reachedSized, same⟩
  exact Node.exists_run_of_types samePool.symm sized reachedSized same ran

theorem meets_failure (wellFormed : problem.graph.WellFormed)
    (visited : (final problem).property? id = some property)
    (known : problem.graph.node? id = some node) {cause : StackError}
    (failed : property.error = some cause) :
    problem.Meets id fun environment state =>
      node.run environment problem.method state = .error cause := by
  rcases exists_names_runsThrough wellFormed visited known with ⟨names, _, runs⟩
  rcases runs.error failed with ⟨state, member, stateFailed⟩
  have sized := wellSized_statesBefore wellFormed visited member
  apply (meets_of_mem_statesBefore wellFormed visited member).mono
  rintro environment reached samePool ⟨reachedSized, same⟩
  exact Node.run_eq_error_of_types samePool.symm sized reachedSized same stateFailed

theorem meets_size (wellFormed : problem.graph.WellFormed)
    (visited : (final problem).property? id = some property)
    (member : state ∈ property.statesBefore.states) :
    problem.Meets id fun _ reached => reached.sizeInWords = state.sizeInWords := by
  have sized := wellSized_statesBefore wellFormed visited member
  apply (meets_of_mem_statesBefore wellFormed visited member).mono
  rintro environment reached _ ⟨reachedSized, same⟩
  exact StackState.sizeInWords_eq_of_types reachedSized sized same

theorem meetsAfter_size (wellFormed : problem.graph.WellFormed)
    (visited : (final problem).property? id = some property)
    (known : problem.graph.node? id = some node)
    (member : state ∈ property.statesAfter.states) :
    problem.MeetsAfter id node fun result => result.sizeInWords = state.sizeInWords := by
  rcases exists_names_runsThrough wellFormed visited known with ⟨_, _, runs⟩
  have sized := wellSized_statesAfter wellFormed visited (runs.passed_of_mem member) member
  apply (meetsAfter_of_mem_statesAfter wellFormed visited known member).mono
  rintro environment reached _ ⟨result, ran, resultSized, same⟩
  exact ⟨result, ran, StackState.sizeInWords_eq_of_types resultSized sized same⟩

/-- No path brings types to a visited node that are not known. -/
theorem meetsOnly_of_notMem_layouts (wellFormed : problem.graph.WellFormed)
    (visited : (final problem).property? id = some property) {layout : List ValueType}
    (unlisted : layout ∉ property.statesBefore.layouts) :
    problem.MeetsOnly id fun state => state.types ≠ layout := by
  intro root initial left environment starts walk samePool
  rcases exists_covered_of_walk wellFormed StackState.respected_types samePool False.elim starts
    walk visited with ⟨state, ran, _, covers⟩
  refine ⟨state, ran, ?_⟩
  rintro rfl
  exact unlisted (StateSet.mem_layouts.2 covers)

end Propagation

/-! ### What lists of sizes and layouts hold -/

theorem exists_ne_of_nodup {α : Type} {elements : List α} (nodup : elements.Nodup)
    (many : 1 < elements.length) : ∃ first ∈ elements, ∃ second ∈ elements, first ≠ second := by
  cases elements with
  | nil => cases many
  | cons first others =>
      have others_ne : others ≠ [] := by
        rintro rfl
        simp at many
      rcases List.exists_mem_of_ne_nil _ others_ne with ⟨second, member⟩
      refine ⟨first, List.mem_cons_self, second, List.mem_cons_of_mem _ member, ?_⟩
      rintro rfl
      exact (List.nodup_cons.1 nodup).1 member

namespace StateSet

variable {set : StateSet}

theorem mem_sizes {size : Nat} :
    size ∈ set.sizes ↔ ∃ state ∈ set.states, state.sizeInWords = size := by
  rw [sizes, List.mem_mergeSort, List.mem_eraseDups, List.mem_map]

theorem nodup_sizes (set : StateSet) : set.sizes.Nodup :=
  List.nodup_mergeSort.2 (nodup_eraseDups _)

theorem nodup_layouts (set : StateSet) : set.layouts.Nodup := nodup_eraseDups _

/-- Unless it is zero, the greatest size is that of a state. -/
theorem exists_sizeInWords_eq_max (positive : 0 < set.maxSizeInWords) :
    ∃ state ∈ set.states, state.sizeInWords = set.maxSizeInWords := by
  rcases foldl_max_eq_or_mem (set.states.map StackState.sizeInWords) 0 with isZero | member
  · exact absurd isZero (Nat.ne_of_gt positive)
  · exact List.mem_map.1 member

end StateSet

/-! ### Observations at a node -/

section Observations

variable {problem : Problem} {input : ReportInput} {id : NodeId} {node : Node}
  {property : StackProperty} {limit : Nat} {backEdges : List Edge}

theorem witnessed_sizeObservation (wellFormed : problem.graph.WellFormed)
    (visited : (Propagation.final problem).property? id = some property)
    (isError : property.sizeObservation.severity = .error) :
    Witnessed problem limit backEdges id node property.sizeObservation := by
  by_cases many : 1 < property.statesBefore.sizes.length
  · simp only [StackProperty.sizeObservation, many, if_true]
    refine .inconsistentSizes (exists_ne_of_nodup (StateSet.nodup_sizes _) many) ?_
    intro size listed
    rcases StateSet.mem_sizes.1 listed with ⟨state, member, rfl⟩
    exact Propagation.meets_size wellFormed visited member
  · simp [StackProperty.sizeObservation, many, Observation.severity] at isError

theorem witnessed_typeObservation (wellFormed : problem.graph.WellFormed)
    (visited : (Propagation.final problem).property? id = some property)
    (isError : property.typeObservation.severity = .error) :
    Witnessed problem limit backEdges id node property.typeObservation := by
  by_cases many : 1 < property.statesBefore.layouts.length
  · simp only [StackProperty.typeObservation, many, if_true]
    refine .inconsistentTypes (exists_ne_of_nodup (StateSet.nodup_layouts _) many) ?_
    intro layout listed
    rcases StateSet.mem_layouts.1 listed with ⟨state, member, rfl⟩
    apply (Propagation.meets_of_mem_statesBefore wellFormed visited member).mono
    exact fun _ _ _ brought => brought.2
  · simp [StackProperty.typeObservation, many, Observation.severity] at isError

theorem witnessed_largest (wellFormed : problem.graph.WellFormed)
    (visited : (Propagation.final problem).property? id = some property)
    (known : problem.graph.node? id = some node) (exceeds : limit < property.largest) :
    Witnessed problem limit backEdges id node (.exceedsMaxStack property.largest limit) := by
  have positive : 0 < property.largest := Nat.lt_of_le_of_lt (Nat.zero_le limit) exceeds
  refine .exceedsMaxStack exceeds ?_
  rcases Nat.le_total property.statesAfter.maxSizeInWords property.statesBefore.maxSizeInWords with
    before | after
  · have isBefore : property.largest = property.statesBefore.maxSizeInWords :=
      Nat.max_eq_left before
    rw [isBefore] at positive ⊢
    rcases StateSet.exists_sizeInWords_eq_max positive with ⟨state, member, isSize⟩
    rw [← isSize]
    exact .inl (Propagation.meets_size wellFormed visited member)
  · have isAfter : property.largest = property.statesAfter.maxSizeInWords :=
      Nat.max_eq_right after
    rw [isAfter] at positive ⊢
    rcases StateSet.exists_sizeInWords_eq_max positive with ⟨state, member, isSize⟩
    rw [← isSize]
    exact .inr (Propagation.meetsAfter_size wellFormed visited known member)

theorem witnessed_sizeObservations (wellFormed : problem.graph.WellFormed)
    (visited : (Propagation.final problem).property? id = some property)
    (known : problem.graph.node? id = some node) {observation : Observation}
    (observed : observation ∈ property.sizeObservations input node)
    (isError : observation.severity = .error) :
    Witnessed problem input.maxStack backEdges id node observation := by
  simp only [StackProperty.sizeObservations, List.mem_append, List.mem_cons] at observed
  rcases observed with ((rfl | isFailure) | isExcess) | isRemainder
  · exact witnessed_sizeObservation wellFormed visited isError
  · split at isFailure
    · next cause failed =>
      rw [List.mem_singleton.1 isFailure]
      exact .underflow (Propagation.meets_failure wellFormed visited known failed)
    · cases isFailure
  · split at isExcess
    · next exceeds =>
      rw [List.mem_singleton.1 isExcess]
      exact witnessed_largest wellFormed visited known exceeds
    · cases isExcess
  · split at isRemainder
    · rw [List.mem_singleton.1 isRemainder] at isError
      cases isError
    · cases isRemainder

theorem mem_checkOperands {state : StackState} {operands : List Operand}
    {observation : Observation} (observed : observation ∈ checkOperands state operands) :
    ∃ (position : Nat) (expected : Operand) (found : ValueType),
      operands.reverse[position]? = some expected ∧
      state.types.reverse[position]? = some found ∧ found ≠ .unknown ∧
      expected.valueType ≠ found ∧ observation = .operandMismatch expected found := by
  rcases List.mem_filterMap.1 observed with ⟨⟨expected, found⟩, paired, isMismatch⟩
  rcases List.mem_iff_getElem?.1 paired with ⟨position, atPosition⟩
  rcases List.getElem?_zip_eq_some.1 atPosition with ⟨isOperand, isFound⟩
  dsimp only at isMismatch
  split at isMismatch
  · next mismatch =>
    cases isMismatch
    exact ⟨position, expected, found, isOperand, isFound, mismatch.1, mismatch.2, rfl⟩
  · cases isMismatch

theorem witnessed_operandObservations (wellFormed : problem.graph.WellFormed)
    (visited : (Propagation.final problem).property? id = some property)
    (sameMethod : input.method = problem.method) {observation : Observation}
    (observed : observation ∈ property.operandObservations input node) :
    Witnessed problem limit backEdges id node observation := by
  unfold StackProperty.operandObservations at observed
  split at observed
  · next operands expects =>
    rw [sameMethod, Option.bind_eq_some_iff] at expects
    rcases expects with ⟨instruction, hasInstruction, expects⟩
    rcases List.mem_flatMap.1 observed with ⟨state, member, compared⟩
    rcases mem_checkOperands compared with
      ⟨position, expected, found, isOperand, isFound, isKnown, differs, rfl⟩
    refine .operandMismatch hasInstruction expects isOperand isKnown differs ?_
    apply (Propagation.meets_of_mem_statesBefore wellFormed visited member).mono
    rintro _ reached _ ⟨_, same⟩
    rw [same, isFound]
  · cases observed

theorem witnessed_loopMismatch (wellFormed : problem.graph.WellFormed) {edge : Edge}
    (removed : edge ∈ backEdges) {source : Node}
    (sourceKnown : problem.graph.node? edge.source = some source) {entry back : StackProperty}
    (headerVisited : (Propagation.final problem).property? edge.target = some entry)
    (sourceVisited : (Propagation.final problem).property? edge.source = some back)
    {state : StackState} (member : state ∈ back.statesAfter.states)
    (unlisted : state.types ∉ entry.statesBefore.layouts) :
    Witnessed problem limit backEdges edge.target node
      (.loopMismatch ⟨source.offset, node.offset⟩ state.signature) := by
  refine .loopMismatch removed rfl sourceKnown ?_ ?_
  · apply (Propagation.meetsAfter_of_mem_statesAfter wellFormed sourceVisited sourceKnown
      member).mono
    rintro _ _ _ ⟨result, ran, _, same⟩
    exact ⟨result, ran, same⟩
  · exact Propagation.meetsOnly_of_notMem_layouts wellFormed headerVisited unlisted

end Observations

/-! ### Findings of a report -/

section Reports

variable {input : ReportInput} {finding : Finding}

theorem exists_node_of_mem_sizeFindings (member : finding ∈ input.sizeFindings)
    (isError : finding.severity = .error) :
    ∃ id node property, input.graph.node? id = some node ∧
      input.analysis.property? id = some property ∧ finding.site = some (node.site id) ∧
      finding.observation ∈ property.sizeObservations input node := by
  rcases List.mem_flatten.1 member with ⟨_, isSection, member⟩
  rcases List.mem_mapIdx.1 isSection with ⟨id, inBounds, rfl⟩
  rcases List.mem_map.1 member with ⟨observation, observed, rfl⟩
  have known : input.graph.node? id = some input.graph.nodes.toList[id] := by
    rw [FlowGraph.node?, ← Array.getElem?_toList]
    exact List.getElem?_eq_getElem inBounds
  cases visited : input.analysis.property? id with
  | none =>
      rw [visited, List.mem_singleton] at observed
      rw [Finding.severity, observed] at isError
      cases isError
  | some property =>
      rw [visited] at observed
      exact ⟨id, _, property, known, visited, rfl, observed⟩

theorem exists_node_of_mem_typeFindings (member : finding ∈ input.typeFindings) :
    ∃ id node property, input.graph.node? id = some node ∧
      input.analysis.property? id = some property ∧ finding.site = some (node.site id) ∧
      finding.observation ∈ property.typeObservation :: property.operandObservations input node := by
  rcases List.mem_flatMap.1 member with ⟨⟨id, node, property⟩, analyzed, member⟩
  rcases List.mem_map.1 member with ⟨observation, observed, rfl⟩
  rcases ReportInput.of_mem_analyzedNodes analyzed with ⟨known, visited⟩
  exact ⟨id, node, property, known, visited, rfl, observed⟩

theorem severity_ne_error_of_mem_contentFindings (member : finding ∈ input.contentFindings) :
    finding.severity ≠ .error := by
  rcases List.mem_flatMap.1 member with ⟨⟨id, node, property⟩, _, member⟩
  rcases List.mem_map.1 member with ⟨observation, observed, rfl⟩
  rcases List.mem_cons.1 observed with rfl | repeated
  · exact Severity.noConfusion
  · unfold ReportInput.repeatedArrivals at repeated
    split at repeated
    · cases repeated
    · rcases List.mem_filterMap.1 repeated with ⟨state, _, isRepeated⟩
      split at isRepeated
      · cases isRepeated
        exact Severity.noConfusion
      · cases isRepeated

theorem severity_ne_error_of_mem_summaryFindings (member : finding ∈ input.summaryFindings) :
    finding.severity ≠ .error := by
  rcases List.mem_map.1 member with ⟨⟨what, count⟩, _, rfl⟩
  exact Severity.noConfusion

end Reports

theorem exists_witness_of_mem_findings {problem : Problem} (wellFormed : problem.graph.WellFormed)
    {analysis : Analysis} (records : analysis.Records problem) {settings : Settings}
    {kind : SectionKind} {finding : Finding}
    (member : finding ∈
      ReportInput.findings ⟨problem.method, problem.graph, analysis, settings⟩ kind)
    (isError : finding.severity = .error) :
    ∃ id node, problem.graph.node? id = some node ∧ finding.site = some (node.site id) ∧
      Witnessed problem (settings.maxStackFor problem.method.maxStack) analysis.backEdges id node
        finding.observation := by
  cases kind with
  | size =>
      rcases exists_node_of_mem_sizeFindings member isError with
        ⟨id, node, property, known, visited, isSite, observed⟩
      rw [records.property?] at visited
      exact ⟨id, node, known, isSite,
        witnessed_sizeObservations wellFormed visited known observed isError⟩
  | types =>
      rcases exists_node_of_mem_typeFindings member with
        ⟨id, node, property, known, visited, isSite, observed⟩
      rw [records.property?] at visited
      refine ⟨id, node, known, isSite, ?_⟩
      rcases List.mem_cons.1 observed with isTypes | isOperand
      · rw [Finding.severity, isTypes] at isError
        rw [isTypes]
        exact witnessed_typeObservation wellFormed visited isError
      · exact witnessed_operandObservations wellFormed visited rfl isOperand
  | content => exact absurd isError (severity_ne_error_of_mem_contentFindings member)
  | loops =>
      rcases List.mem_flatMap.1 member with ⟨edge, removed, member⟩
      unfold ReportInput.edgeLoopFindings at member
      split at member
      · next source header sourceKnown headerKnown =>
        rcases List.mem_map.1 member with ⟨observation, observed, rfl⟩
        rcases ReportInput.exists_mismatch_of_mem_loopObservations observed isError with
          ⟨entry, back, state, headerVisited, sourceVisited, _, stateMember, unlisted, rfl⟩
        rw [records.property?] at headerVisited sourceVisited
        exact ⟨edge.target, header, headerKnown, rfl, witnessed_loopMismatch wellFormed removed
          sourceKnown headerVisited sourceVisited stateMember unlisted⟩
      · cases member
  | summary => exact absurd isError (severity_ne_error_of_mem_summaryFindings member)

/-- No error is reported in vain: it is about a node of the graph that is left when loops are
broken, and what it says is shown by paths from the roots of that graph. -/
theorem analyze_errors_witnessed {method : Method} {graph rest : FlowGraph}
    {finder : BackEdgeFinder} {settings : Settings} {analysis : Analysis} (built : graph.Built)
    (analyzed : analyze method graph finder settings = .ok (analysis, rest))
    (reportSettings : Settings) {finding : Finding}
    (reported : finding ∈
      (Report.build ⟨method, rest, analysis, reportSettings⟩).withSeverity .error) :
    ∃ id node, rest.node? id = some node ∧ finding.site = some (node.site id) ∧
      Witnessed ⟨method, rest, settings⟩ (reportSettings.maxStackFor method.maxStack)
        (graph.removeBackEdges finder).1 id node finding.observation := by
  rcases eq_of_analyze analyzed with ⟨_, records, isRemoved⟩
  simp only [Report.withSeverity, Report.build, List.mem_flatMap, List.mem_map, List.mem_filter,
    beq_iff_eq] at reported
  rcases reported with ⟨_, ⟨kind, _, rfl⟩, member, isError⟩
  rw [← isRemoved]
  exact exists_witness_of_mem_findings (wellFormed_of_analyze built analyzed) records member isError

/-- A method that pushes a value on one of two branches. -/
def unevenBranches : Method :=
  { instructions := #[{ offset := 0, opcode := .nop }, { offset := 1, opcode := .nullConst },
      { offset := 2, opcode := .nop }, { offset := 3, opcode := .nop },
      { offset := 4, opcode := .returnVoid }] }

/-- The branches join and go back to where they part. -/
def unevenLoop : FlowGraph :=
  .ofCalls [.addInstructionNodes unevenBranches, .addEdge 0 1, .addEdge 0 2, .addEdge 1 3,
    .addEdge 2 3, .addEdge 3 0, .addEdge 3 4]

/-- What is wrong about the types of its stacks. -/
def unevenErrors : List Finding :=
  [⟨some ⟨3, 3, "nop"⟩, .inconsistentTypes [[.reference], []]⟩,
    ⟨some ⟨4, 4, "return"⟩, .inconsistentTypes [[.reference], []]⟩,
    ⟨some ⟨0, 0, "nop"⟩, .loopMismatch ⟨3, 0⟩ "[L:\"null\"]"⟩]

theorem analyze_errors_witnessed_unevenLoop :
    unevenLoop.Built ∧ ∃ analysis rest,
      analyze unevenBranches unevenLoop FlowGraph.depthFirstBackEdges {} = .ok (analysis, rest) ∧
        (Report.build ⟨unevenBranches, rest, analysis, { reports := ⟨0x0a⟩ }⟩).withSeverity .error =
          unevenErrors ∧
        ∃ header, rest.node? 0 = some header ∧
          Witnessed ⟨unevenBranches, rest, {}⟩ 0
            (unevenLoop.removeBackEdges FlowGraph.depthFirstBackEdges).1 0 header
            (.loopMismatch ⟨3, 0⟩ "[L:\"null\"]") := by
  have built : unevenLoop.Built := ⟨_, rfl⟩
  have valid : unevenLoop.validate unevenBranches = .ok () := by decide +kernel
  rcases analyze_of_valid valid FlowGraph.depthFirstBackEdges {} with ⟨analysis, analyzed, _⟩
  have errors : (analyze unevenBranches unevenLoop FlowGraph.depthFirstBackEdges {}).toOption.map
      (fun result => (Report.build
        ⟨unevenBranches, result.2, result.1, { reports := ⟨0x0a⟩ }⟩).withSeverity .error) =
      some unevenErrors := by
    decide +kernel
  simp only [analyzed, Except.toOption, Option.map_some, Option.some.injEq] at errors
  refine ⟨built, analysis, _, analyzed, errors, ?_⟩
  have reported : ⟨some ⟨0, 0, "nop"⟩, .loopMismatch ⟨3, 0⟩ "[L:\"null\"]"⟩ ∈ unevenErrors := by
    simp [unevenErrors]
  rw [← errors] at reported
  rcases analyze_errors_witnessed built analyzed { reports := ⟨0x0a⟩ } reported with
    ⟨id, header, known, isSite, witnessed⟩
  have isHeader : id = 0 := (congrArg Site.node (Option.some.inj isSite)).symm
  subst id
  exact ⟨header, known, witnessed⟩

end StackFlow
