import StackFlow.Proofs.FlowGraph.BackEdges
import StackFlow.Proofs.Propagation.Schedule

/-!
# Which nodes are visited

Each node is visited at most once, which the log of a run shows, and what keeps a node from being
visited is a cycle among its ancestors or an ancestor that failed. After loops have been broken by
depth-first search only the second is left.
-/

namespace StackFlow

open Relation

/-- Whether an event tells of a visit of a node. -/
def Event.isVisitOf (node : NodeId) : Event → Bool
  | .visited label _ _ => label.node == node
  | _ => false

/-- Whether an event warns of something that an instruction refers to in vain. -/
def Event.isResolution : Event → Bool
  | .unreadableOperand .. | .unresolvableClass _ | .unresolvableField _ | .unresolvableMethod _
  | .unresolvableConstant _ => true
  | _ => false

section Events

variable (id : NodeId) (instruction : Instruction) (pool : ConstantPool)

@[simp]
theorem all_operandWarnings {α : Type} (operand : Except Error α) :
    (instruction.operandWarnings operand).all Event.isResolution = true := by
  cases operand <;> rfl

@[simp]
theorem all_classWarnings : (instruction.classWarnings pool).all Event.isResolution = true := by
  simp only [Instruction.classWarnings, List.all_append, all_operandWarnings]
  split <;> rfl

@[simp]
theorem all_fieldWarnings : (instruction.fieldWarnings pool).all Event.isResolution = true := by
  simp only [Instruction.fieldWarnings, List.all_append, all_operandWarnings]
  split <;> rfl

@[simp]
theorem all_callWarnings : (instruction.callWarnings pool).all Event.isResolution = true := by
  unfold Instruction.callWarnings
  split
  · rfl
  · split <;> rfl

@[simp]
theorem all_constantWarnings :
    (instruction.constantWarnings pool).all Event.isResolution = true := by
  simp only [Instruction.constantWarnings, List.all_append, all_operandWarnings]
  split
  · rw [all_classWarnings]
    rfl
  · split <;> rfl

@[simp]
theorem all_warnings (succeeded : Bool) :
    (instruction.warnings pool succeeded).all Event.isResolution = true := by
  unfold Instruction.warnings
  split <;> cases succeeded <;>
    simp only [List.all_append, all_operandWarnings, all_classWarnings, all_fieldWarnings,
      all_callWarnings, all_constantWarnings, List.all_nil, Bool.false_eq_true, if_true, if_false,
      Bool.and_true]

/-- Whatever the states are, an instruction warns of what it refers to and of nothing else. -/
theorem isResolution_of_mem_runWarnings {environment : Environment} {states : List StackState}
    {event : Event} (told : event ∈ runWarnings environment instruction states) :
    event.isResolution = true := by
  suffices all : (runWarnings environment instruction states).all Event.isResolution = true from
    List.all_eq_true.1 all event told
  clear told
  induction states with
  | nil => rfl
  | cons state states ih =>
      unfold runWarnings
      split
      · exact all_warnings instruction _ _
      · rw [List.all_append, all_warnings, ih]
        rfl

theorem countP_runWarnings (environment : Environment) (states : List StackState) :
    (runWarnings environment instruction states).countP (Event.isVisitOf id) = 0 := by
  apply List.countP_eq_zero.2
  intro event told isVisit
  have isResolution := isResolution_of_mem_runWarnings instruction told
  cases event <;> simp [Event.isVisitOf, Event.isResolution] at isVisit isResolution

theorem countP_rootEvents (method : Method) (settings : Settings) (names : LocalNames)
    (root : NodeId) (node : Node) :
    (node.rootEvents method settings names root).countP (Event.isVisitOf id) = 0 := by
  unfold Node.rootEvents
  split
  · rfl
  · split
    · rfl
    · split <;> rfl

theorem countP_mergeEvents (propagation : Propagation) (graph : FlowGraph) (target : NodeId) :
    (propagation.mergeEvents graph target).countP (Event.isVisitOf id) = 0 := by
  apply List.countP_eq_zero.2
  intro event member
  simp only [Propagation.mergeEvents, List.mem_filterMap] at member
  rcases member with ⟨predecessor, _, isEvent⟩
  split at isEvent
  · cases isEvent
  · cases isEvent
    exact Bool.false_ne_true

end Events

namespace Propagation

theorem countP_visited {arrival warnings outcome : List Event} (label : NodeLabel)
    (statesBefore statesAfter : Nat) {other : NodeId}
    (fromArrival : arrival.countP (Event.isVisitOf other) = 0)
    (fromWarnings : warnings.countP (Event.isVisitOf other) = 0)
    (fromOutcome : outcome.countP (Event.isVisitOf other) = 0) :
    (arrival ++ warnings ++ [Event.visited label statesBefore statesAfter] ++ outcome).countP
      (Event.isVisitOf other) = if other = label.node then 1 else 0 := by
  simp only [List.countP_append, fromArrival, fromWarnings, fromOutcome]
  by_cases same : label.node = other
  · simp [Event.isVisitOf, same]
  · simp [Event.isVisitOf, same, Ne.symm same]

/-- A visit tells of itself once and of no other visit. -/
theorem countP_events (propagation : Propagation) (problem : Problem) (id other : NodeId)
    (node : Node) :
    (propagation.visit problem id node).events.countP (Event.isVisitOf other) =
      if other = id then 1 else 0 := by
  refine countP_visited ⟨id, node.mnemonic, node.offset⟩ _ _ ?_ ?_ ?_
  · split
    · exact countP_rootEvents other _ _ _ _ _
    · exact countP_mergeEvents other _ _ _
  · split
    · rfl
    · exact countP_runWarnings other _ _ _
  · split <;> rfl

/-- Says that the log tells of one visit of each visited node and of no other. -/
def Logged (propagation : Propagation) : Prop :=
  ∀ id, propagation.log.toList.countP (Event.isVisitOf id) =
    (propagation.property? id).isSome.toNat

theorem logged_final {problem : Problem} (wellFormed : problem.graph.WellFormed) :
    Logged (final problem) := by
  refine final_preserves Logged wellFormed ?_ ?_
  · intro id
    rw [property?_initial]
    rfl
  · intro propagation next scheduled logged turn
    cases turn with
    | stay => exact logged
    | drop => exact logged
    | @visit id node rest nextNode known fresh ready =>
        intro other
        rw [property?_settle (scheduled.inBounds known)]
        simp only [settle, Array.toList_append, List.countP_append, logged other, countP_events]
        by_cases same : other = id
        · subst other
          simp [fresh]
        · simp [same]

variable {problem : Problem}

theorem passed_of_precedes {propagation : Propagation} (scheduled : Scheduled problem propagation)
    {source target : NodeId} (visited : (propagation.property? target).isSome = true)
    (precedes : problem.graph.Precedes source target) : propagation.Passed source := by
  induction precedes using TransGen.head_induction_on with
  | single adjacent => exact scheduled.before visited _ adjacent
  | head adjacent _ ih =>
      rcases ih with ⟨property, known, _⟩
      exact scheduled.before (Option.isSome_of_eq_some known) _ adjacent

theorem acc_of_reaches {graph : FlowGraph} {source target : NodeId}
    (reaches : graph.Reaches source target) (accessible : Acc graph.Adjacent target) :
    Acc graph.Adjacent source := by
  induction reaches using ReflTransGen.head_induction_on with
  | refl => exact accessible
  | head adjacent _ ih => exact ih.inv adjacent

/-- A node is visited exactly if no ancestor lies on a cycle and no proper ancestor failed. -/
theorem visited_iff (problem : Problem) (wellFormed : problem.graph.WellFormed) {id : NodeId}
    (inGraph : id < problem.graph.nodeCount) :
    ((final problem).property? id).isSome = true ↔
      (∀ ancestor, problem.graph.Reaches ancestor id → ¬problem.graph.OnCycle ancestor) ∧
        ∀ ancestor property, problem.graph.Precedes ancestor id →
          (final problem).property? ancestor = some property → property.isErrored = false := by
  have scheduled := scheduled_final wellFormed
  constructor
  · intro visited
    constructor
    · intro ancestor reaches
      apply FlowGraph.not_transGen_self_of_acc
      exact acc_of_reaches reaches (scheduled.accessible visited)
    · intro ancestor property precedes known
      rcases passed_of_precedes scheduled visited precedes with ⟨other, otherKnown, passed⟩
      rw [known, Option.some.injEq] at otherKnown
      rw [otherKnown, passed]
  · rintro ⟨noCycle, noError⟩
    have accessible := wellFormed.acc_of_noCycle noCycle
    induction accessible with
    | intro id _ ih =>
        -- All predecessors are visited and passed, so the node was listed unless it was visited.
        have passed : ∀ source, problem.graph.Adjacent source id →
            (final problem).Passed source := by
          intro source adjacent
          have visited := ih source adjacent (wellFormed.source_lt_of_adjacent adjacent)
            (fun ancestor reaches => noCycle ancestor (reaches.tail adjacent))
            (fun ancestor property precedes => noError ancestor property (precedes.tail adjacent))
          rcases Option.isSome_iff_exists.1 visited with ⟨property, known⟩
          exact ⟨property, known, noError source property (.single adjacent) known⟩
        rcases Option.eq_none_or_eq_some ((final problem).property? id) with fresh | ⟨_, known⟩
        · have listed := scheduled.listed inGraph fresh passed
          rw [worklist_final wellFormed] at listed
          cases listed
        · rw [known]
          rfl

end Propagation

/-- Says that an analysis holds what a finished propagation found out. -/
structure Analysis.Records (analysis : Analysis) (problem : Problem) : Prop where
  properties : analysis.properties = (Propagation.final problem).properties
  metrics : analysis.metrics = (Propagation.final problem).metrics
  visits : ∀ id, analysis.log.countP (Event.isVisitOf id) =
    (Propagation.final problem).log.toList.countP (Event.isVisitOf id)
  told : ∀ {event}, event.level ≠ .debug →
    (event ∈ analysis.log ↔ event ∈ (Propagation.final problem).log.toList)

theorem Analysis.Records.warnings {analysis : Analysis} {problem : Problem}
    (records : analysis.Records problem) (event : Event) (told : event ∈ analysis.log)
    (isWarning : event.level = .warn) : event ∈ (Propagation.final problem).log.toList := by
  refine (records.told ?_).1 told
  rw [isWarning]
  decide

theorem Analysis.Records.property? {analysis : Analysis} {problem : Problem}
    (records : analysis.Records problem) (id : NodeId) :
    analysis.property? id = (Propagation.final problem).property? id := by
  simp only [Analysis.property?, Propagation.property?, records.properties]

theorem records_ofPropagation (problem : Problem) :
    (Analysis.ofPropagation problem.graph (.final problem)).Records problem := by
  refine ⟨rfl, rfl, ?_, ?_⟩
  · intro id
    simp [Analysis.ofPropagation, Event.isVisitOf]
  · intro event notDebug
    simp only [Analysis.ofPropagation, List.mem_append, List.mem_singleton, or_iff_left_iff_imp]
    rintro rfl
    exact absurd rfl notDebug

theorem analyzeAcyclic_of_valid {method : Method} {graph : FlowGraph}
    (valid : graph.validate method = .ok ()) (settings : Settings) :
    ∃ analysis, analyzeAcyclic method graph settings = .ok analysis ∧
      analysis.Records ⟨method, graph, settings⟩ := by
  refine ⟨_, by simp only [analyzeAcyclic, valid], records_ofPropagation ⟨method, graph, settings⟩⟩

theorem records_of_analyzeAcyclic {problem : Problem} {analysis : Analysis}
    (analyzed : analyzeAcyclic problem.method problem.graph problem.settings = .ok analysis) :
    analysis.Records problem := by
  unfold analyzeAcyclic at analyzed
  split at analyzed
  · cases analyzed
  · cases analyzed
    exact records_ofPropagation problem

/-- A graph whose nodes refer to instructions of the method is analyzed without its back edges. -/
theorem analyze_of_valid {method : Method} {graph : FlowGraph}
    (valid : graph.validate method = .ok ()) (finder : BackEdgeFinder) (settings : Settings) :
    ∃ analysis, analyze method graph finder settings =
        .ok (analysis, (graph.removeBackEdges finder).2) ∧
      analysis.Records ⟨method, (graph.removeBackEdges finder).2, settings⟩ ∧
      analysis.backEdges = (graph.removeBackEdges finder).1 := by
  have validRest : (graph.removeBackEdges finder).2.validate method = .ok () := by
    simp only [FlowGraph.removeBackEdges, FlowGraph.validate_removeEdges, valid]
  rcases analyzeAcyclic_of_valid validRest settings with ⟨analysis, analyzed, records⟩
  refine ⟨{ analysis with
      backEdges := (graph.removeBackEdges finder).1
      log := .removedBackEdges (graph.removeBackEdges finder).1.length :: analysis.log },
    by simp only [analyze, valid, analyzed], ⟨records.properties, records.metrics, ?_, ?_⟩, rfl⟩
  · intro id
    have visits := records.visits id
    simpa [Event.isVisitOf] using visits
  · intro event notDebug
    rw [List.mem_cons, records.told notDebug, or_iff_right_iff_imp]
    rintro rfl
    exact absurd rfl notDebug

theorem eq_of_analyze {method : Method} {graph rest : FlowGraph} {finder : BackEdgeFinder}
    {settings : Settings} {analysis : Analysis}
    (analyzed : analyze method graph finder settings = .ok (analysis, rest)) :
    rest = (graph.removeBackEdges finder).2 ∧ analysis.Records ⟨method, rest, settings⟩ ∧
      analysis.backEdges = (graph.removeBackEdges finder).1 := by
  cases valid : graph.validate method with
  | error cause => simp [analyze, valid] at analyzed
  | ok =>
      rcases analyze_of_valid valid finder settings with ⟨found, foundAnalyzed, records, removed⟩
      rw [analyzed, Except.ok.injEq, Prod.mk.injEq] at foundAnalyzed
      rcases foundAnalyzed with ⟨rfl, rfl⟩
      exact ⟨rfl, records, removed⟩

theorem wellFormed_of_analyze {method : Method} {graph rest : FlowGraph} {finder : BackEdgeFinder}
    {settings : Settings} {analysis : Analysis} (built : graph.Built)
    (analyzed : analyze method graph finder settings = .ok (analysis, rest)) :
    rest.WellFormed := by
  rw [(eq_of_analyze analyzed).1]
  exact (built.removeBackEdges finder).wellFormed

/-- The analysis comes to an end, visits each node at most once, and leaves out exactly the nodes
behind a cycle that is left or behind a failure; if loops were broken by depth-first search, exactly
those behind a failure. -/
theorem analyze_coverage {method : Method} {graph : FlowGraph} (built : graph.Built)
    (valid : graph.validate method = .ok ()) (finder : BackEdgeFinder) (settings : Settings) :
    ∃ analysis rest, analyze method graph finder settings = .ok (analysis, rest) ∧
      rest = (graph.removeBackEdges finder).2 ∧
      analysis.properties = (Propagation.final ⟨method, rest, settings⟩).properties ∧
      (Propagation.final ⟨method, rest, settings⟩).worklist = [] ∧
      (∀ id, analysis.log.countP (Event.isVisitOf id) = (analysis.property? id).isSome.toNat) ∧
      (∀ id < graph.nodeCount, (analysis.property? id).isSome = true ↔
        (∀ ancestor, rest.Reaches ancestor id → ¬rest.OnCycle ancestor) ∧
          ∀ ancestor property, rest.Precedes ancestor id →
            analysis.property? ancestor = some property → property.isErrored = false) ∧
      (finder = FlowGraph.depthFirstBackEdges → ∀ id < graph.nodeCount,
        analysis.property? id = none ↔ ∃ ancestor property, rest.Precedes ancestor id ∧
          analysis.property? ancestor = some property ∧ property.isErrored = true) := by
  rcases analyze_of_valid valid finder settings with ⟨analysis, analyzed, records, _⟩
  have wellFormed := (built.removeBackEdges finder).wellFormed
  have nodeCount : (graph.removeBackEdges finder).2.nodeCount = graph.nodeCount :=
    FlowGraph.nodeCount_removeEdges graph _
  refine ⟨analysis, _, analyzed, rfl, records.properties, Propagation.worklist_final wellFormed,
    ?_, ?_, ?_⟩
  · intro id
    rw [records.visits, records.property?]
    exact Propagation.logged_final wellFormed id
  · intro id inGraph
    simp only [records.property?]
    rw [← nodeCount] at inGraph
    exact Propagation.visited_iff _ wellFormed inGraph
  · rintro rfl id inGraph
    simp only [records.property?]
    rw [← nodeCount] at inGraph
    rw [← Option.not_isSome_iff_eq_none, Propagation.visited_iff ⟨method, _, settings⟩ wellFormed
      inGraph]
    constructor
    · intro notBoth
      by_contra noFailure
      apply notBoth
      refine ⟨fun ancestor _ => FlowGraph.acyclic_removeBackEdges built.wellFormed ancestor, ?_⟩
      intro ancestor property precedes known
      by_contra failed
      exact noFailure ⟨ancestor, property, precedes, known, by simpa using failed⟩
    · rintro ⟨ancestor, property, precedes, known, failed⟩ ⟨_, noFailure⟩
      rw [noFailure ancestor property precedes known] at failed
      cases failed

/-- A method that takes one entry too many. -/
def underflowing : Method :=
  { instructions := #[{ offset := 0, opcode := .nullConst }, { offset := 1, opcode := .pop },
      { offset := 2, opcode := .pop }, { offset := 3, opcode := .nop },
      { offset := 4, opcode := .returnVoid }] }

/-- A loop without a root, with a way out of it that fails and another that joins what lies
behind. -/
def failingLoop : FlowGraph :=
  .ofCalls [.addInstructionNodes underflowing, .addEdge 0 1, .addEdge 1 2, .addEdge 1 0,
    .addEdge 2 3, .addEdge 3 4, .addEdge 0 4]

theorem analyze_coverage_failingLoop :
    failingLoop.Built ∧ failingLoop.validate underflowing = .ok () ∧
      ∃ analysis rest,
        analyze underflowing failingLoop FlowGraph.depthFirstBackEdges {} = .ok (analysis, rest) ∧
          analysis.property? 4 = none := by
  have built : failingLoop.Built := ⟨_, rfl⟩
  have valid : failingLoop.validate underflowing = .ok () := by decide +kernel
  rcases analyze_coverage built valid FlowGraph.depthFirstBackEdges {} with
    ⟨analysis, rest, analyzed, isRest, _, _, _, _, unvisited_iff⟩
  refine ⟨built, valid, analysis, rest, analyzed, (unvisited_iff rfl 4 (by decide +kernel)).2 ?_⟩
  have failure : ((analyze underflowing failingLoop FlowGraph.depthFirstBackEdges {}).toOption.bind
      fun result => result.1.property? 2).map StackProperty.isErrored = some true := by
    decide +kernel
  simp only [analyzed, Except.toOption, Option.bind_some, Option.map_eq_some_iff] at failure
  rcases failure with ⟨property, known, failed⟩
  refine ⟨2, property, ?_, known, failed⟩
  have first : rest.Adjacent 2 3 := ⟨3, by rw [isRest]; decide +kernel⟩
  have second : rest.Adjacent 3 4 := ⟨4, by rw [isRest]; decide +kernel⟩
  exact TransGen.head first (.single second)

end StackFlow
