import StackFlow.Proofs.Findings.NoErrors
import StackFlow.Proofs.Propagation.Paths

/-!
# Loops are accounted for

An analysis goes through no loop, and yet its findings can speak for all the ways round them. If no
node failed and every loop comes back to its header with types with which the header was entered,
then the layouts before each node are closed under all edges of the graph, those that were taken out
included. They therefore contain the layout of every path, however often it goes round.
-/

namespace StackFlow

theorem Node.run_congr {node other : Node} (same : node.instruction = other.instruction)
    (environment : Environment) (method : Method) (state : StackState) :
    node.run environment method state = other.run environment method state := by
  simp only [run, same]

theorem StateSet.Covers.sizeInWords_le {set : StateSet} {state : StackState}
    (covers : set.Covers StackState.types state) (sized : state.WellSized)
    (allSized : ∀ kept ∈ set.states, kept.WellSized) :
    state.sizeInWords ≤ set.maxSizeInWords := by
  rcases covers with ⟨kept, member, same⟩
  have layouts := StackState.sameLayout_of_types (allSized kept member) sized same
  rw [← layouts.sizeInWords_eq]
  exact set.sizeInWords_le member

namespace Propagation

/-- Says that what a propagation knows about the layouts before nodes is closed under all edges of a
graph with the same nodes. -/
structure Closed (problem : Problem) (graph : FlowGraph) : Prop where
  instruction_eq : ∀ {id rest}, problem.graph.node? id = some rest →
    ∃ node, graph.node? id = some node ∧ node.instruction = rest.instruction
  passed : ∀ {id}, id < problem.graph.nodeCount → (final problem).Passed id
  target_lt : ∀ {source target}, graph.Adjacent source target → target < problem.graph.nodeCount
  handsOn : ∀ {source target found property state}, graph.Adjacent source target →
    (final problem).property? source = some found →
      found.statesAfter.Covers StackState.types state →
        (final problem).property? target = some property →
          property.statesBefore.Covers StackState.types state

namespace Closed

variable {problem : Problem} {graph : FlowGraph} {environment : Environment} {root id : NodeId}
  {left : List NodeId} {initial before : StackState} {property : StackProperty}

theorem not_errored (closed : Closed problem graph) (wellFormed : problem.graph.WellFormed)
    (visited : (final problem).property? id = some property) : property.isErrored = false := by
  rcases exists_runsThrough wellFormed visited with ⟨node, _, known, _, _⟩
  rcases closed.passed (FlowGraph.lt_nodeCount_of_node? known) with ⟨found, foundVisited, passed⟩
  rw [visited, Option.some.injEq] at foundVisited
  rwa [foundVisited]

theorem exists_after (closed : Closed problem graph) (wellFormed : problem.graph.WellFormed)
    (samePool : environment.pool = problem.method.pool)
    (visited : (final problem).property? id = some property) (sized : before.WellSized)
    (covers : property.statesBefore.Covers StackState.types before)
    (ran : graph.run environment problem.method left initial = .ok before) :
    ∃ after, graph.run environment problem.method (left ++ [id]) initial = .ok after ∧
      after.WellSized ∧ property.statesAfter.Covers StackState.types after := by
  rcases exists_runsThrough wellFormed visited with ⟨rest, _, restKnown, _, _⟩
  rcases closed.instruction_eq restKnown with ⟨node, known, sameInstruction⟩
  have passed := closed.not_errored wellFormed visited
  rcases covers_after wellFormed StackState.respected_types samePool False.elim visited passed
    restKnown sized covers with ⟨after, afterRan, afterCovers⟩
  refine ⟨after, ?_, Node.wellSized_of_run sized afterRan, afterCovers⟩
  rw [FlowGraph.run_append_singleton known ran, Node.run_congr sameInstruction, afterRan]

/-- A path through all edges of the graph runs through, and its layouts are known. -/
theorem exists_before (closed : Closed problem graph) (wellFormed : problem.graph.WellFormed)
    (samePool : environment.pool = problem.method.pool) (starts : problem.Starts root initial)
    (walk : graph.Walk root left id) :
    ∃ before property, graph.run environment problem.method left initial = .ok before ∧
      (final problem).property? id = some property ∧ before.WellSized ∧
      property.statesBefore.Covers StackState.types before := by
  induction walk with
  | here =>
      rcases closed.passed (wellFormed.mem_roots.1 starts.1).1 with ⟨property, visited, _⟩
      exact ⟨initial, property, rfl, visited, covers_start wellFormed starts visited⟩
  | step _ adjacent ih =>
      rcases ih with ⟨before, found, ran, sourceVisited, sized, covers⟩
      rcases closed.exists_after wellFormed samePool sourceVisited sized covers ran with
        ⟨after, afterRan, afterSized, afterCovers⟩
      rcases closed.passed (closed.target_lt adjacent) with ⟨property, visited, _⟩
      exact ⟨after, property, afterRan, visited, afterSized,
        closed.handsOn adjacent sourceVisited afterCovers visited⟩

/-- The stacks around the last node of such a path are no larger than those that are known. -/
theorem exists_around (closed : Closed problem graph) (wellFormed : problem.graph.WellFormed)
    (samePool : environment.pool = problem.method.pool) (starts : problem.Starts root initial)
    (walk : graph.Walk root left id) :
    ∃ before after property, graph.run environment problem.method left initial = .ok before ∧
      graph.run environment problem.method (left ++ [id]) initial = .ok after ∧
      (final problem).property? id = some property ∧
      property.statesBefore.Covers StackState.types before ∧
      before.sizeInWords ≤ property.statesBefore.maxSizeInWords ∧
      after.sizeInWords ≤ property.statesAfter.maxSizeInWords := by
  rcases closed.exists_before wellFormed samePool starts walk with
    ⟨before, property, ran, visited, sized, covers⟩
  rcases closed.exists_after wellFormed samePool visited sized covers ran with
    ⟨after, afterRan, afterSized, afterCovers⟩
  have passed := closed.not_errored wellFormed visited
  refine ⟨before, after, property, ran, afterRan, visited, covers, ?_, ?_⟩
  · apply covers.sizeInWords_le sized
    intro kept member
    exact wellSized_statesBefore wellFormed visited member
  · apply afterCovers.sizeInWords_le afterSized
    intro kept member
    exact wellSized_statesAfter wellFormed visited passed member

end Closed

end Propagation

section Analysis

variable {method : Method} {graph rest : FlowGraph} {settings reportSettings : Settings}
  {analysis : Analysis}

theorem exists_node_of_property {problem : Problem} (records : analysis.Records problem)
    (wellFormed : problem.graph.WellFormed) {id : NodeId} {property : StackProperty}
    (visited : analysis.property? id = some property) :
    ∃ node, problem.graph.node? id = some node := by
  rw [records.property?] at visited
  rcases Propagation.exists_runsThrough wellFormed visited with ⟨node, _, known, _, _⟩
  exact ⟨node, known⟩

theorem nodeCount_of_analyze {finder : BackEdgeFinder}
    (analyzed : analyze method graph finder settings = .ok (analysis, rest)) :
    rest.nodeCount = graph.nodeCount := by
  rw [(eq_of_analyze analyzed).1]
  exact FlowGraph.nodeCount_removeEdges graph _

theorem instruction_eq_of_analyze {finder : BackEdgeFinder}
    (analyzed : analyze method graph finder settings = .ok (analysis, rest)) {id : NodeId}
    {restNode : Node} (known : rest.node? id = some restNode) :
    ∃ node, graph.node? id = some node ∧ node.instruction = restNode.instruction := by
  have same : (rest.node? id).map Node.instruction = (graph.node? id).map Node.instruction := by
    rw [(eq_of_analyze analyzed).1]
    exact FlowGraph.map_node?_removeEdges graph _ id Node.instruction fun _ _ _ => rfl
  rw [known] at same
  exact Option.map_eq_some_iff.1 same.symm

/-- If no node failed, every node was visited. -/
theorem passed_of_analyze (built : graph.Built)
    (analyzed : analyze method graph FlowGraph.depthFirstBackEdges settings = .ok (analysis, rest))
    (noFailure : ∀ id property, analysis.property? id = some property →
      property.isErrored = false) {id : NodeId} (inGraph : id < rest.nodeCount) :
    (Propagation.final ⟨method, rest, settings⟩).Passed id := by
  rcases eq_of_analyze analyzed with ⟨isRest, records, _⟩
  have visited : ((Propagation.final ⟨method, rest, settings⟩).property? id).isSome = true := by
    apply (Propagation.visited_iff _ (wellFormed_of_analyze built analyzed) inGraph).2
    constructor
    · intro ancestor _
      rw [isRest]
      exact FlowGraph.acyclic_removeBackEdges built.wellFormed ancestor
    · intro ancestor property _ known
      exact noFailure ancestor property (by rw [records.property?, known])
  rcases Option.isSome_iff_exists.1 visited with ⟨property, known⟩
  exact ⟨property, known, noFailure id property (by rw [records.property?, known])⟩

/-- What is handed on along an edge arrives with a known layout, be it that the edge stayed or that
it was taken out and the findings about loops speak for it. -/
theorem covers_of_adjacent {finder : BackEdgeFinder} (built : graph.Built)
    (analyzed : analyze method graph finder settings = .ok (analysis, rest))
    (clean : Clean (ReportInput.loopFindings ⟨method, rest, analysis, reportSettings⟩))
    {source target : NodeId} (adjacent : graph.Adjacent source target)
    {found property : StackProperty} (sourceVisited : analysis.property? source = some found)
    (passed : found.isErrored = false) (visited : analysis.property? target = some property)
    {state : StackState} (covers : found.statesAfter.Covers StackState.types state) :
    property.statesBefore.Covers StackState.types state := by
  rcases eq_of_analyze analyzed with ⟨isRest, records, removed⟩
  have wellFormed := wellFormed_of_analyze built analyzed
  rcases adjacent with ⟨edge, edgeKnown⟩
  by_cases isBack : edge ∈ finder graph
  · have isRemoved : ⟨source, target⟩ ∈ analysis.backEdges := by
      rw [removed]
      exact FlowGraph.mem_removeEdges.2 ⟨edge, isBack, edgeKnown⟩
    rcases exists_node_of_property records wellFormed sourceVisited with ⟨sourceNode, sourceKnown⟩
    rcases exists_node_of_property records wellFormed visited with ⟨headerNode, headerKnown⟩
    rcases covers with ⟨kept, member, same⟩
    rcases ReportInput.covers_of_clean clean isRemoved sourceKnown headerKnown sourceVisited
      visited passed member with ⟨entry, entryMember, entrySame⟩
    exact ⟨entry, entryMember, entrySame.trans same⟩
  · have stays : (graph.removeEdges (finder graph)).2.edge? edge = some ⟨source, target⟩ := by
      rw [FlowGraph.edge?_removeEdges, if_neg isBack, edgeKnown]
    rw [records.property?] at sourceVisited visited
    refine Propagation.covers_before wellFormed StackState.respected_types ⟨edge, ?_⟩
      sourceVisited visited covers
    rw [isRest]
    exact stays

/-- The layouts that an analysis without failures found are closed under all edges, if the findings
about loops have no error. -/
theorem closed_of_analyze (built : graph.Built)
    (analyzed : analyze method graph FlowGraph.depthFirstBackEdges settings = .ok (analysis, rest))
    (noFailure : ∀ id property, analysis.property? id = some property →
      property.isErrored = false)
    (clean : Clean (ReportInput.loopFindings ⟨method, rest, analysis, reportSettings⟩)) :
    Propagation.Closed ⟨method, rest, settings⟩ graph := by
  have records := (eq_of_analyze analyzed).2.1
  constructor
  · intro id restNode known
    exact instruction_eq_of_analyze analyzed known
  · intro id inGraph
    exact passed_of_analyze built analyzed noFailure inGraph
  · intro source target adjacent
    have inGraph := built.wellFormed.target_lt_of_adjacent adjacent
    rwa [← nodeCount_of_analyze analyzed] at inGraph
  · intro source target found property state adjacent sourceVisited covers visited
    rw [← records.property?] at sourceVisited visited
    exact covers_of_adjacent built analyzed clean adjacent sourceVisited
      (noFailure _ _ sourceVisited) visited covers

theorem not_errored_of_erroredNodes {finder : BackEdgeFinder} (built : graph.Built)
    (analyzed : analyze method graph finder settings = .ok (analysis, rest))
    (none : analysis.metrics.erroredNodes = 0) (id : NodeId) (property : StackProperty)
    (visited : analysis.property? id = some property) : property.isErrored = false := by
  have records := (eq_of_analyze analyzed).2.1
  by_contra errored
  rw [records.property?] at visited
  have bounds := Propagation.bounds_final (wellFormed_of_analyze built analyzed) visited
  have counted := bounds.errored_pos (by simpa using errored)
  rw [← records.metrics, none] at counted
  exact Nat.lt_irrefl 0 counted

theorem not_errored_of_sizeFindings {finder : BackEdgeFinder} (built : graph.Built)
    (analyzed : analyze method graph finder settings = .ok (analysis, rest))
    (clean : Clean (ReportInput.sizeFindings ⟨method, rest, analysis, reportSettings⟩))
    (id : NodeId) (property : StackProperty) (visited : analysis.property? id = some property) :
    property.isErrored = false := by
  have records := (eq_of_analyze analyzed).2.1
  rcases exists_node_of_property records (wellFormed_of_analyze built analyzed) visited with
    ⟨node, known⟩
  exact ReportInput.not_errored_of_clean clean known visited

theorem exists_layout_of_typeFindings {finder : BackEdgeFinder} (built : graph.Built)
    (analyzed : analyze method graph finder settings = .ok (analysis, rest))
    (clean : Clean (ReportInput.typeFindings ⟨method, rest, analysis, reportSettings⟩))
    (id : NodeId) : ∃ layout, ∀ property, analysis.property? id = some property →
      ∀ state ∈ property.statesBefore.states, state.types = layout := by
  have records := (eq_of_analyze analyzed).2.1
  cases found : analysis.property? id with
  | none => exact ⟨[], fun _ visited => nomatch visited⟩
  | some property =>
      rcases exists_node_of_property records (wellFormed_of_analyze built analyzed) found with
        ⟨node, known⟩
      rcases ReportInput.exists_layout_of_clean clean known found with ⟨layout, same⟩
      refine ⟨layout, ?_⟩
      intro other isOther
      cases isOther
      exact same

end Analysis

/-- Cutting loops and checking them afterwards is sound. If no node failed and no loop comes back
with new types, then every path of the whole graph runs through, however often it goes round loops,
and arrives at each node with a layout that the analysis knows, so that no stack is larger than the
largest that it saw. If a full report has no errors, then no stack on such a path is larger than
declared, or than the settings of the report say instead, and all paths to a node arrive with the
same layout. -/
theorem analyze_loops_sound {method : Method} {graph rest : FlowGraph} {settings : Settings}
    {analysis : Analysis} (built : graph.Built)
    (analyzed : analyze method graph FlowGraph.depthFirstBackEdges settings = .ok (analysis, rest))
    (reportSettings : Settings) :
    (analysis.metrics.erroredNodes = 0 →
      Clean (ReportInput.loopFindings ⟨method, rest, analysis, reportSettings⟩) →
      ∀ environment root initial left id, environment.pool = method.pool →
        Problem.Starts ⟨method, rest, settings⟩ root initial → graph.Walk root left id →
          ∃ before after property, graph.run environment method left initial = .ok before ∧
            graph.run environment method (left ++ [id]) initial = .ok after ∧
            analysis.property? id = some property ∧
            (∃ kept ∈ property.statesBefore.states, kept.types = before.types) ∧
            before.sizeInWords ≤ analysis.metrics.maxStackSize ∧
            after.sizeInWords ≤ analysis.metrics.maxStackSize) ∧
    ((∀ kind, reportSettings.reports.contains kind = true) →
      (Report.build ⟨method, rest, analysis, reportSettings⟩).hasErrors = false →
      ∀ id, ∃ layout, ∀ environment root initial left, environment.pool = method.pool →
        Problem.Starts ⟨method, rest, settings⟩ root initial → graph.Walk root left id →
          ∃ before after, graph.run environment method left initial = .ok before ∧
            graph.run environment method (left ++ [id]) initial = .ok after ∧
            before.types = layout ∧
            before.sizeInWords ≤ reportSettings.maxStackFor method.maxStack ∧
            after.sizeInWords ≤ reportSettings.maxStackFor method.maxStack) := by
  have wellFormed := wellFormed_of_analyze built analyzed
  have records := (eq_of_analyze analyzed).2.1
  constructor
  · intro noneErrored clean environment root initial left id samePool starts walk
    have closed := closed_of_analyze built analyzed
      (not_errored_of_erroredNodes built analyzed noneErrored) clean
    rcases closed.exists_around wellFormed samePool starts walk with
      ⟨before, after, property, ran, afterRan, visited, covers, beforeLe, afterLe⟩
    have bounds := Propagation.bounds_final wellFormed visited
    rw [records.metrics]
    exact ⟨before, after, property, ran, afterRan, by rw [records.property?, visited], covers,
      beforeLe.trans bounds.before_le, afterLe.trans bounds.after_le⟩
  · intro allSections noErrors
    have clean (kind : SectionKind) := clean_findings noErrors (allSections kind)
    have closed := closed_of_analyze built analyzed
      (not_errored_of_sizeFindings built analyzed (clean .size)) (clean .loops)
    intro id
    rcases exists_layout_of_typeFindings built analyzed (clean .types) id with ⟨layout, sameLayout⟩
    refine ⟨layout, ?_⟩
    intro environment root initial left samePool starts walk
    rcases closed.exists_around wellFormed samePool starts walk with
      ⟨before, after, property, ran, afterRan, visited, ⟨kept, member, same⟩, beforeLe, afterLe⟩
    rw [← records.property?] at visited
    rcases exists_node_of_property records wellFormed visited with ⟨node, known⟩
    have allowed : property.largest ≤ reportSettings.maxStackFor method.maxStack :=
      ReportInput.largest_le_of_clean (clean .size) known visited
    have largest : property.largest = max property.statesBefore.maxSizeInWords
      property.statesAfter.maxSizeInWords := rfl
    exact ⟨before, after, ran, afterRan, by rw [← same, sameLayout property visited kept member],
      by omega, by omega⟩

/-- A method that pushes a value and drops it again. -/
def pushAndDrop : Method :=
  { maxStack := 1
    instructions := #[{ offset := 0, opcode := .nop }, { offset := 1, opcode := .nullConst },
      { offset := 2, opcode := .pop }, { offset := 3, opcode := .returnVoid }] }

/-- A loop that pushes a value and drops it again each time round. -/
def pushingLoop : FlowGraph :=
  .ofCalls [.addInstructionNodes pushAndDrop, .addEdge 0 1, .addEdge 1 2, .addEdge 2 1,
    .addEdge 2 3]

theorem analyze_loops_sound_pushingLoop :
    pushingLoop.Built ∧ ∃ analysis rest,
      analyze pushAndDrop pushingLoop FlowGraph.depthFirstBackEdges {} = .ok (analysis, rest) ∧
      analysis.metrics.erroredNodes = 0 ∧
      (Report.build ⟨pushAndDrop, rest, analysis, {}⟩).hasErrors = false ∧
      (∃ before after property,
        pushingLoop.run ⟨.empty, ⟨[], []⟩, "?"⟩ pushAndDrop [0, 1, 2, 1] .empty = .ok before ∧
        pushingLoop.run ⟨.empty, ⟨[], []⟩, "?"⟩ pushAndDrop [0, 1, 2, 1, 2] .empty = .ok after ∧
        analysis.property? 2 = some property ∧
        (∃ kept ∈ property.statesBefore.states, kept.types = before.types) ∧
        before.sizeInWords ≤ analysis.metrics.maxStackSize ∧
        after.sizeInWords ≤ analysis.metrics.maxStackSize) ∧
      ∃ layout before after,
        pushingLoop.run ⟨.empty, ⟨[], []⟩, "?"⟩ pushAndDrop [0, 1, 2, 1] .empty = .ok before ∧
        pushingLoop.run ⟨.empty, ⟨[], []⟩, "?"⟩ pushAndDrop [0, 1, 2, 1, 2] .empty = .ok after ∧
        before.types = layout ∧ before.sizeInWords ≤ 1 ∧ after.sizeInWords ≤ 1 := by
  have built : pushingLoop.Built := ⟨_, rfl⟩
  have valid : pushingLoop.validate pushAndDrop = .ok () := by decide +kernel
  rcases analyze_of_valid valid FlowGraph.depthFirstBackEdges {} with ⟨analysis, analyzed, _, _⟩
  have noneErrored : ((analyze pushAndDrop pushingLoop
      FlowGraph.depthFirstBackEdges {}).toOption.map
        fun result => result.1.metrics.erroredNodes) = some 0 := by decide +kernel
  have noErrors : ((analyze pushAndDrop pushingLoop FlowGraph.depthFirstBackEdges {}).toOption.map
      fun result => (Report.build ⟨pushAndDrop, result.2, result.1, {}⟩).hasErrors) =
        some false := by decide +kernel
  simp only [analyzed, Except.toOption, Option.map_some, Option.some.injEq] at noneErrored noErrors
  have starts : Problem.Starts
      ⟨pushAndDrop, (pushingLoop.removeBackEdges FlowGraph.depthFirstBackEdges).2, {}⟩ 0 .empty :=
    ⟨by decide +kernel, _, rfl, List.mem_singleton.2 rfl⟩
  have entering : pushingLoop.Adjacent 0 1 := ⟨0, by decide +kernel⟩
  have inside : pushingLoop.Adjacent 1 2 := ⟨1, by decide +kernel⟩
  have back : pushingLoop.Adjacent 2 1 := ⟨2, by decide +kernel⟩
  have walk : pushingLoop.Walk 0 [0, 1, 2, 1] 2 :=
    (((FlowGraph.Walk.here.step entering).step inside).step back).step inside
  rcases analyze_loops_sound built analyzed {} with ⟨known, allowed⟩
  have asked : ∀ kind, ({} : Settings).reports.contains kind = true := by
    intro kind
    cases kind <;> decide
  refine ⟨built, analysis, _, analyzed, noneErrored, noErrors, ?_, ?_⟩
  · exact known noneErrored (clean_findings noErrors (asked .loops)) _ 0 _ _ 2 rfl starts walk
  · rcases allowed asked noErrors 2 with ⟨layout, onPaths⟩
    exact ⟨layout, onPaths _ 0 _ _ rfl starts walk⟩

end StackFlow
