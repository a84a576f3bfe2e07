import StackFlow.Proofs.Effect.Footprint
import StackFlow.Proofs.Findings.Witnesses

/-!
# Where the entries of known states come from

An entry says how large it is and which instruction pushed it. Both can be relied on in every state
that an analysis knows: an entry is as large as its type says, its producer is an instruction at or
above the node, and an entry without one is the exception that a handler above the node catches, as
it was caught. Instructions keep this, since they pass entries on or make new ones, and so does
merging, though it may put a state in place of another that came along a different branch.
-/

namespace StackFlow

open Relation

/-- Says where an entry comes from: an instruction of one of the nodes `makers` made it, or a
handler at a root that reaches the node caught it. -/
inductive Problem.Origin (problem : Problem) (makers : NodeId → Prop) (id : NodeId)
    (entry : Entry) : Prop where
  | made {maker : NodeId} {node : Node} {instruction : Instruction} (isMaker : makers maker)
      (known : problem.graph.node? maker = some node)
      (hasInstruction : problem.method.instruction? node.instruction = some instruction)
      (isProducer : entry.producer = some instruction.offset)
  | caught {root : NodeId} {node : Node} {handler : Handler}
      (isRoot : root ∈ problem.graph.roots) (reaches : problem.graph.Reaches root id)
      (known : problem.graph.node? root = some node)
      (handles : handler ∈ node.handlers problem.method)
      (isException : entry = .make none .reference
        (handler.caughtValue problem.method problem.settings.placeholder))

theorem Problem.Origin.mono {problem : Problem} {makers others : NodeId → Prop}
    {id target : NodeId} {entry : Entry} (origin : problem.Origin makers id entry)
    (more : ∀ maker, makers maker → others maker) (reaches : problem.graph.Reaches id target) :
    problem.Origin others target entry := by
  cases origin with
  | made isMaker known hasInstruction isProducer =>
      exact .made (more _ isMaker) known hasInstruction isProducer
  | caught isRoot rootReaches known handles isException =>
      exact .caught isRoot (rootReaches.trans reaches) known handles isException

namespace Node

variable {problem : Problem} {id : NodeId} {node : Node} {entry : Entry}

theorem origin_of_mem_rootStates (isRoot : id ∈ problem.graph.roots)
    (known : problem.graph.node? id = some node) {state : StackState}
    (initial : state ∈ (node.rootStates problem.method problem.settings).states)
    (member : entry ∈ state.toList) (makers : NodeId → Prop) :
    problem.Origin makers id entry := by
  unfold rootStates at initial
  split at initial
  · rw [StateSet.states_singleEmpty, List.mem_singleton] at initial
    subst state
    cases member
  · next handlers _ =>
    have made := (StateSet.collects_ofList _).sound state initial
    rcases List.mem_map.1 made with ⟨handler, handles, rfl⟩
    exact .caught isRoot .refl known handles (List.mem_singleton.1 member)

/-- A node hands on what came to it, and what its own instruction made. -/
theorem origin_of_run {names : LocalNames} {state result : StackState}
    (known : problem.graph.node? id = some node)
    (ran : node.run (problem.environment names) problem.method state = .ok result)
    (origins : ∀ entry ∈ state.toList, problem.Origin (problem.graph.Precedes · id) id entry)
    (member : entry ∈ result.toList) : problem.Origin (problem.graph.Reaches · id) id entry := by
  have kept : entry ∈ state.toList → problem.Origin (problem.graph.Reaches · id) id entry :=
    fun earlier => (origins entry earlier).mono (fun _ => TransGen.to_reflTransGen) .refl
  unfold run at ran
  split at ran
  · cases ran
    exact kept member
  · next instruction hasInstruction =>
    rcases mem_of_interpret ran member with earlier | ⟨type, text, rfl⟩
    · exact kept earlier
    · exact .made .refl known hasInstruction rfl

end Node

namespace Propagation

variable {problem : Problem} {id : NodeId} {property : StackProperty} {state : StackState}
  {entry : Entry}

theorem origin_of_mem_statesBefore (wellFormed : problem.graph.WellFormed)
    (visited : (final problem).property? id = some property)
    (stored : state ∈ property.statesBefore.states) (member : entry ∈ state.toList) :
    problem.Origin (problem.graph.Precedes · id) id entry := by
  refine statesBefore_induction (fun id state => ∀ entry ∈ state.toList,
    problem.Origin (problem.graph.Precedes · id) id entry) wellFormed ?_ ?_ visited stored entry
    member
  · intro root node state known isRoot initial entry member
    have inGraph := FlowGraph.lt_nodeCount_of_node? known
    exact Node.origin_of_mem_rootStates (wellFormed.mem_roots.2 ⟨inGraph, isRoot⟩) known initial
      member _
  · intro source target node names state result adjacent known _ ran origins entry member
    have origin := Node.origin_of_run known ran origins member
    exact origin.mono (fun _ reaches => TransGen.tail' reaches adjacent) (.single adjacent)

theorem origin_of_mem_statesAfter (wellFormed : problem.graph.WellFormed)
    (visited : (final problem).property? id = some property)
    (stored : state ∈ property.statesAfter.states) (member : entry ∈ state.toList) :
    problem.Origin (problem.graph.Reaches · id) id entry := by
  rcases exists_runsThrough wellFormed visited with ⟨node, names, known, _, runs⟩
  rcases (runs.after (runs.passed_of_mem stored)).sound state stored with
    ⟨earlier, earlierStored, ran⟩
  exact Node.origin_of_run known ran
    (fun _ => origin_of_mem_statesBefore wellFormed visited earlierStored) member

end Propagation

/-! ### Sizes and types -/

theorem one_lt_length_of_ne {α : Type} {elements : List α} {first second : α}
    (firstMember : first ∈ elements) (secondMember : second ∈ elements)
    (differ : first ≠ second) : 1 < elements.length := by
  match elements with
  | [] => cases firstMember
  | [single] =>
      simp only [List.mem_singleton] at firstMember secondMember
      exact absurd (firstMember.trans secondMember.symm) differ
  | _ :: _ :: _ => simp

theorem StateSet.one_lt_length_layouts {set : StateSet}
    (sized : ∀ state ∈ set.states, state.WellSized) (many : 1 < set.sizes.length) :
    1 < set.layouts.length := by
  rcases exists_ne_of_nodup set.nodup_sizes many with ⟨_, isFirst, _, isSecond, differ⟩
  rcases mem_sizes.1 isFirst with ⟨first, firstMember, rfl⟩
  rcases mem_sizes.1 isSecond with ⟨second, secondMember, rfl⟩
  refine one_lt_length_of_ne (mem_layouts.2 ⟨first, firstMember, rfl⟩)
    (mem_layouts.2 ⟨second, secondMember, rfl⟩) ?_
  intro same
  exact differ
    (StackState.sizeInWords_eq_of_types (sized _ firstMember) (sized _ secondMember) same)

theorem StackProperty.many_of_inconsistentSizes {property : StackProperty} {input : ReportInput}
    {node : Node} {sizes : List Nat}
    (observed : .inconsistentSizes sizes ∈ property.sizeObservations input node) :
    1 < property.statesBefore.sizes.length := by
  by_contra few
  simp only [sizeObservations, sizeObservation, few, if_false, List.mem_append, List.mem_cons]
    at observed
  rcases observed with ((isSize | isFailure) | isExcess) | isRemainder
  · cases isSize
  · split at isFailure <;> simp at isFailure
  · split at isExcess <;> simp at isExcess
  · split at isRemainder <;> simp at isRemainder

theorem exists_typeFinding {input : ReportInput}
    (sized : ∀ id property, input.analysis.property? id = some property →
      ∀ state ∈ property.statesBefore.states, state.WellSized) {finding : Finding}
    {sizes : List Nat} (member : finding ∈ input.sizeFindings)
    (isSizes : finding.observation = .inconsistentSizes sizes) :
    ∃ layouts, ⟨finding.site, .inconsistentTypes layouts⟩ ∈ input.typeFindings := by
  have isError : finding.severity = .error := by rw [Finding.severity, isSizes]; rfl
  rcases exists_node_of_mem_sizeFindings member isError with
    ⟨id, node, property, known, visited, isSite, observed⟩
  rw [isSizes] at observed
  have many := StateSet.one_lt_length_layouts (sized id property visited)
    (StackProperty.many_of_inconsistentSizes observed)
  refine ⟨property.statesBefore.layouts, List.mem_flatMap.2
    ⟨_, ReportInput.mem_analyzedNodes known visited, List.mem_map.2 ⟨_, List.mem_cons_self, ?_⟩⟩⟩
  simp only [StackProperty.typeObservation, many, if_true, isSite]

/-- Says that a state stands before or after a node in the results of an analysis. -/
def Analysis.Knows (analysis : Analysis) (state : StackState) : Prop :=
  ∃ id property, analysis.property? id = some property ∧
    (state ∈ property.statesBefore.states ∨ state ∈ property.statesAfter.states)

/-- The entries of all known states are accounted for. Each is as large as its type says. Its
producer is an instruction above the node, or after the node also the node's own, and if it has none
it is an exception as a handler above the node caught it. So states with the same types, or the same
signature, are equally large, and no report finds sizes inconsistent without finding types
inconsistent. -/
theorem analyze_entries_accounted {method : Method} {graph rest : FlowGraph}
    {finder : BackEdgeFinder} {settings : Settings} {analysis : Analysis} (built : graph.Built)
    (analyzed : analyze method graph finder settings = .ok (analysis, rest)) :
    (∀ id property, analysis.property? id = some property →
      (∀ state ∈ property.statesBefore.states, ∀ entry ∈ state.toList, entry.Sized ∧
        Problem.Origin ⟨method, rest, settings⟩ (rest.Precedes · id) id entry) ∧
      ∀ state ∈ property.statesAfter.states, ∀ entry ∈ state.toList, entry.Sized ∧
        Problem.Origin ⟨method, rest, settings⟩ (rest.Reaches · id) id entry) ∧
    (∀ first second, analysis.Knows first → analysis.Knows second →
      (first.signature = second.signature → first.types = second.types) ∧
      (first.types = second.types → first.sizeInWords = second.sizeInWords)) ∧
    ∀ (input : ReportInput) (finding : Finding) (sizes : List Nat), input.analysis = analysis →
      finding ∈ input.sizeFindings → finding.observation = .inconsistentSizes sizes →
      ∃ layouts, ⟨finding.site, .inconsistentTypes layouts⟩ ∈ input.typeFindings := by
  have wellFormed := wellFormed_of_analyze built analyzed
  have records := (eq_of_analyze analyzed).2.1
  have sizedBefore : ∀ id property, analysis.property? id = some property →
      ∀ state ∈ property.statesBefore.states, state.WellSized := by
    intro id property visited state stored
    rw [records.property?] at visited
    exact Propagation.wellSized_statesBefore wellFormed visited stored
  have sizedAfter : ∀ id property, analysis.property? id = some property →
      ∀ state ∈ property.statesAfter.states, state.WellSized := by
    intro id property visited state stored
    rw [records.property?] at visited
    rcases Propagation.exists_runsThrough wellFormed visited with ⟨_, _, _, _, runs⟩
    exact Propagation.wellSized_statesAfter wellFormed visited (runs.passed_of_mem stored) stored
  have sized : ∀ state, analysis.Knows state → state.WellSized := by
    rintro state ⟨id, property, visited, before | after⟩
    · exact sizedBefore id property visited state before
    · exact sizedAfter id property visited state after
  refine ⟨?_, ?_, ?_⟩
  · intro id property visited
    refine ⟨fun state stored entry member => ⟨sizedBefore id property visited state stored _ member,
      ?_⟩, fun state stored entry member => ⟨sizedAfter id property visited state stored _ member,
      ?_⟩⟩
    · rw [records.property?] at visited
      exact Propagation.origin_of_mem_statesBefore wellFormed visited stored member
    · rw [records.property?] at visited
      exact Propagation.origin_of_mem_statesAfter wellFormed visited stored member
  · intro first second firstKnown secondKnown
    refine ⟨fun same => StackState.types_eq_of_shown_eq (StackState.signature_eq_iff.1 same), ?_⟩
    exact StackState.sizeInWords_eq_of_types (sized _ firstKnown) (sized _ secondKnown)
  · rintro input finding sizes rfl
    exact exists_typeFinding sizedBefore

/-- A method that throws a value of its own or passes a caught exception on. -/
def rethrowing : Method :=
  { instructions := #[{ offset := 0, opcode := .nullConst }, { offset := 1, opcode := .nop },
      { offset := 2, opcode := .dup 0 }, { offset := 3, opcode := .throw }]
    handlers := [⟨0, 1, 1, 0⟩] }

/-- The entry and the handler lead to the same throw. -/
def rethrownTogether : FlowGraph :=
  .ofCalls [.addInstructionNodes rethrowing, .addEdge 0 2, .addEdge 1 2, .addEdge 2 3]

theorem analyze_entries_accounted_rethrownTogether :
    rethrownTogether.Built ∧ ∃ analysis rest property,
      analyze rethrowing rethrownTogether FlowGraph.depthFirstBackEdges {} = .ok (analysis, rest) ∧
        analysis.property? 3 = some property ∧
        property.statesAfter.states.map StackState.toList =
          [[.make (some 0) .reference "null"], [.make none .reference anyException]] ∧
        ∀ state ∈ property.statesAfter.states, ∀ entry ∈ state.toList, entry.Sized ∧
          Problem.Origin ⟨rethrowing, rest, {}⟩ (rest.Reaches · 3) 3 entry := by
  have built : rethrownTogether.Built := ⟨_, rfl⟩
  have valid : rethrownTogether.validate rethrowing = .ok () := by decide +kernel
  rcases analyze_of_valid valid FlowGraph.depthFirstBackEdges {} with ⟨analysis, analyzed, _⟩
  have thrown : ((analyze rethrowing rethrownTogether FlowGraph.depthFirstBackEdges
      {}).toOption.bind fun result => result.1.property? 3).map
        (fun property => property.statesAfter.states.map StackState.toList) =
      some [[.make (some 0) .reference "null"], [.make none .reference anyException]] := by
    decide +kernel
  simp only [analyzed, Except.toOption, Option.bind_some, Option.map_eq_some_iff] at thrown
  rcases thrown with ⟨property, visited, states⟩
  exact ⟨built, analysis, _, property, analyzed, visited, states,
    ((analyze_entries_accounted built analyzed).1 3 property visited).2⟩

end StackFlow
