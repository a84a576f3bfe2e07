import StackFlow.Proofs.Propagation.Coverage
import StackFlow.Proofs.Propagation.States

/-!
# Propagation and paths

States that are merged at every join stand for the states of all paths. `StateSet.Covers` carries
this along a path: a state that looks like one of those before a node is taken by the node's
instruction to one that looks like one of those after it, and from there to the states before each
successor. Nothing else is known about a node than what its paths bring.
-/

namespace StackFlow

namespace FlowGraph

/-- `graph.Walk start left stop` says that a directed path leads from `start` to `stop`, leaving the
nodes `left` on the way, in this order. -/
inductive Walk (graph : FlowGraph) (start : NodeId) : List NodeId → NodeId → Prop where
  | here : Walk graph start [] start
  | step {left : List NodeId} {node next : NodeId} : Walk graph start left node →
      graph.Adjacent node next → Walk graph start (left ++ [node]) next

/-- Runs the instructions of nodes on a state, in order, until one of them fails. -/
def run (graph : FlowGraph) (environment : Environment) (method : Method) (nodes : List NodeId)
    (state : StackState) : Except StackError StackState :=
  nodes.foldlM (fun state id =>
    match graph.node? id with
    | some node => node.run environment method state
    | none => .ok state) state

theorem run_append_singleton {graph : FlowGraph} {environment : Environment} {method : Method}
    {left : List NodeId} {id : NodeId} {node : Node} {initial state : StackState}
    (known : graph.node? id = some node)
    (ran : graph.run environment method left initial = .ok state) :
    graph.run environment method (left ++ [id]) initial = node.run environment method state := by
  unfold run at ran ⊢
  rw [List.foldlM_append, ran]
  simp only [List.foldlM_cons, List.foldlM_nil, known, bind_pure]
  rfl

end FlowGraph

/-- Says that a state is one of those with which a propagation starts at a root. -/
def Problem.Starts (problem : Problem) (root : NodeId) (initial : StackState) : Prop :=
  root ∈ problem.graph.roots ∧ ∃ node, problem.graph.node? root = some node ∧
    initial ∈ (node.rootStates problem.method problem.settings).states

/-- Says that a path from a root to a node brings a state to it. -/
def Problem.Brings (problem : Problem) (id : NodeId) (state : StackState) : Prop :=
  ∃ root initial left, problem.Starts root initial ∧ problem.graph.Walk root left id ∧
    problem.graph.run (problem.environment problem.ownNames) problem.method left initial = .ok state

namespace Propagation

variable {problem : Problem} {values : Prop} {γ : Type} {view : StackState → γ}
  {environment : Environment} {id : NodeId} {node : Node} {property : StackProperty}
  {state : StackState}

theorem covers_after (wellFormed : problem.graph.WellFormed)
    (respected : StackState.Respected values view)
    (samePool : environment.pool = problem.method.pool)
    (sameNames : values → problem.settings.registerHandlerLocals = false ∧
      environment = problem.environment problem.ownNames)
    (visited : (final problem).property? id = some property)
    (passed : property.isErrored = false) (known : problem.graph.node? id = some node)
    (sized : state.WellSized) (covers : property.statesBefore.Covers view state) :
    ∃ result, node.run environment problem.method state = .ok result ∧
      property.statesAfter.Covers view result := by
  rcases exists_names_runsThrough wellFormed visited known with ⟨names, own, runs⟩
  rcases covers with ⟨kept, member, looksAlike⟩
  rcases runs.exists_ok passed member with ⟨keptResult, keptRan⟩
  have same : values → problem.environment names = environment := by
    intro given
    rcases sameNames given with ⟨unregistered, isOwn⟩
    rw [isOwn, own unregistered]
  have keptSized := wellSized_statesBefore wellFormed visited member
  have alike := respected.run samePool.symm same keptSized sized looksAlike problem.method node
  rw [keptRan] at alike
  rcases alike.exists_ok with ⟨result, ran, resultsAlike⟩
  -- The result may have been replaced by another state with the same signature.
  rcases (runs.after passed).exists_shown ⟨kept, member, keptRan⟩ with
    ⟨stored, storedMember, shown⟩
  exact ⟨result, ran, stored, storedMember, (respected.of_shown shown).trans resultsAlike⟩

theorem covers_before (wellFormed : problem.graph.WellFormed)
    (respected : StackState.Respected values view) {source target : NodeId}
    {found : StackProperty} (adjacent : problem.graph.Adjacent source target)
    (sourceVisited : (final problem).property? source = some found)
    (visited : (final problem).property? target = some property)
    (covers : found.statesAfter.Covers view state) : property.statesBefore.Covers view state := by
  rcases covers with ⟨kept, member, looksAlike⟩
  rcases (collects_statesBefore wellFormed visited adjacent).exists_shown
    ⟨source, found, adjacent, sourceVisited, member⟩ with ⟨stored, storedMember, shown⟩
  exact ⟨stored, storedMember, (respected.of_shown shown).trans looksAlike⟩

theorem covers_start (wellFormed : problem.graph.WellFormed) {root : NodeId}
    (starts : problem.Starts root state)
    (visited : (final problem).property? root = some property) :
    state.WellSized ∧ property.statesBefore.Covers view state := by
  rcases starts with ⟨isRoot, node, known, initial⟩
  refine ⟨Node.wellSized_rootStates initial, state, ?_, rfl⟩
  rwa [statesBefore_of_root wellFormed visited known (wellFormed.mem_roots.1 isRoot).2]

/-- A path to a visited node runs through, and brings a state that looks like one that is known. -/
theorem exists_covered_of_walk (wellFormed : problem.graph.WellFormed)
    (respected : StackState.Respected values view)
    (samePool : environment.pool = problem.method.pool)
    (sameNames : values → problem.settings.registerHandlerLocals = false ∧
      environment = problem.environment problem.ownNames) {root : NodeId}
    {left : List NodeId} {initial : StackState} (starts : problem.Starts root initial)
    (walk : problem.graph.Walk root left id)
    (visited : (final problem).property? id = some property) :
    ∃ state, problem.graph.run environment problem.method left initial = .ok state ∧
      state.WellSized ∧ property.statesBefore.Covers view state := by
  induction walk generalizing property with
  | here => exact ⟨initial, rfl, covers_start wellFormed starts visited⟩
  | @step left source target _ adjacent ih =>
      rcases (scheduled_final wellFormed).before (Option.isSome_of_eq_some visited) source
        adjacent with
        ⟨found, sourceVisited, passed⟩
      rcases ih sourceVisited with ⟨state, ran, sized, covers⟩
      rcases exists_runsThrough wellFormed sourceVisited with ⟨node, _, known, _, _⟩
      rcases covers_after wellFormed respected samePool sameNames sourceVisited passed known sized
        covers with ⟨result, resultRan, resultCovers⟩
      refine ⟨result, ?_, Node.wellSized_of_run sized resultRan,
        covers_before wellFormed respected adjacent sourceVisited visited resultCovers⟩
      rw [FlowGraph.run_append_singleton known ran, resultRan]

/-- With the method's own names, the state is known up to its signature. -/
theorem exists_run_of_walk (wellFormed : problem.graph.WellFormed)
    (unregistered : problem.settings.registerHandlerLocals = false) {root : NodeId}
    {left : List NodeId} {initial : StackState} (starts : problem.Starts root initial)
    (walk : problem.graph.Walk root left id)
    (visited : (final problem).property? id = some property) :
    ∃ state, problem.graph.run (problem.environment problem.ownNames) problem.method left initial =
        .ok state ∧ state.WellSized ∧ property.statesBefore.Covers StackState.shown state :=
  exists_covered_of_walk wellFormed StackState.respected_shown rfl (fun _ => ⟨unregistered, rfl⟩)
    starts walk visited

theorem covers_of_brings (wellFormed : problem.graph.WellFormed)
    (unregistered : problem.settings.registerHandlerLocals = false)
    (visited : (final problem).property? id = some property) (brings : problem.Brings id state) :
    state.WellSized ∧ property.statesBefore.Covers StackState.shown state := by
  rcases brings with ⟨root, initial, left, starts, walk, ran⟩
  rcases exists_run_of_walk wellFormed unregistered starts walk visited with
    ⟨found, foundRan, sized, covers⟩
  rw [ran, Except.ok.injEq] at foundRan
  subst found
  exact ⟨sized, covers⟩

theorem runsThrough_own (wellFormed : problem.graph.WellFormed)
    (unregistered : problem.settings.registerHandlerLocals = false)
    (visited : (final problem).property? id = some property)
    (known : problem.graph.node? id = some node) :
    RunsThrough problem problem.ownNames node property := by
  rcases exists_names_runsThrough wellFormed visited known with ⟨names, own, runs⟩
  rwa [own unregistered] at runs

/-- The states before a visited node are those that paths bring to it, up to their signatures. -/
theorem collects_brings (wellFormed : problem.graph.WellFormed)
    (unregistered : problem.settings.registerHandlerLocals = false)
    (visited : (final problem).property? id = some property) :
    property.statesBefore.Collects (problem.Brings id) := by
  constructor
  · intro state member
    refine statesBefore_induction problem.Brings wellFormed ?_ ?_ visited member
    · intro root node state known isRoot initial
      have inGraph := FlowGraph.lt_nodeCount_of_node? known
      exact ⟨root, state, [], ⟨wellFormed.mem_roots.2 ⟨inGraph, isRoot⟩, node, known, initial⟩,
        .here, rfl⟩
    · rintro source target node names state result adjacent known own resultRan
        ⟨root, initial, left, starts, walk, ran⟩
      rw [own unregistered] at resultRan
      refine ⟨root, initial, left ++ [source], starts, walk.step adjacent, ?_⟩
      rw [FlowGraph.run_append_singleton known ran, resultRan]
  · intro state brings
    rcases covers_of_brings wellFormed unregistered visited brings with ⟨_, kept, member, shown⟩
    exact StateSet.mem_signatures.2 ⟨kept, member, StackState.signature_eq_iff.2 shown⟩

/-- The states after a visited node that did not fail are what its instruction makes of the states
that paths bring. -/
theorem collects_run_brings (wellFormed : problem.graph.WellFormed)
    (unregistered : problem.settings.registerHandlerLocals = false)
    (visited : (final problem).property? id = some property)
    (known : problem.graph.node? id = some node) (passed : property.isErrored = false) :
    property.statesAfter.Collects fun result => ∃ state, problem.Brings id state ∧
      node.run (problem.environment problem.ownNames) problem.method state = .ok result := by
  have before := collects_brings wellFormed unregistered visited
  have runs := runsThrough_own wellFormed unregistered visited known
  constructor
  · intro result member
    rcases (runs.after passed).sound result member with ⟨state, stored, ran⟩
    exact ⟨state, before.sound state stored, ran⟩
  · rintro result ⟨state, brings, ran⟩
    rcases covers_of_brings wellFormed unregistered visited brings with ⟨sized, covers⟩
    rcases covers_after wellFormed StackState.respected_shown rfl (fun _ => ⟨unregistered, rfl⟩)
      visited passed known sized covers with ⟨other, otherRan, kept, member, shown⟩
    rw [ran, Except.ok.injEq] at otherRan
    subst other
    exact StateSet.mem_signatures.2 ⟨kept, member, StackState.signature_eq_iff.2 shown⟩

/-- A visited node fails exactly if a path brings a state on which its instruction fails. -/
theorem isErrored_iff_brings (wellFormed : problem.graph.WellFormed)
    (unregistered : problem.settings.registerHandlerLocals = false)
    (visited : (final problem).property? id = some property)
    (known : problem.graph.node? id = some node) :
    property.isErrored = true ↔ ∃ state cause, problem.Brings id state ∧
      node.run (problem.environment problem.ownNames) problem.method state = .error cause := by
  constructor
  · intro errored
    have runs := runsThrough_own wellFormed unregistered visited known
    rcases runs.errored_iff.1 errored with ⟨state, member, cause, failed⟩
    have before := collects_brings wellFormed unregistered visited
    exact ⟨state, cause, before.sound state member, failed⟩
  · rintro ⟨state, cause, brings, failed⟩
    by_contra notErrored
    rcases covers_of_brings wellFormed unregistered visited brings with ⟨sized, covers⟩
    rcases covers_after wellFormed StackState.respected_shown rfl (fun _ => ⟨unregistered, rfl⟩)
      visited (by simpa using notErrored) known sized covers with ⟨result, ran, _⟩
    rw [failed] at ran
    cases ran

end Propagation

/-- The signatures around an analyzed node are those that paths bring. Every path to the node runs
through, the signatures before it are those of the states that the paths bring, the signatures after
it are those of what its instruction makes of these states, and the node fails exactly if the
instruction fails on one of them. Loops need not be excluded, since what lies behind one is not
analyzed. -/
theorem analyzeAcyclic_mergeOverPaths (problem : Problem) {analysis : Analysis} {id : NodeId}
    {property : StackProperty} (built : problem.graph.Built)
    (unregistered : problem.settings.registerHandlerLocals = false)
    (analyzed : analyzeAcyclic problem.method problem.graph problem.settings = .ok analysis)
    (visited : analysis.property? id = some property) :
    (∀ root initial left, problem.Starts root initial → problem.graph.Walk root left id →
      ∃ state, problem.graph.run (problem.environment problem.ownNames) problem.method left
        initial = .ok state) ∧
    (∀ signature, signature ∈ property.statesBefore.signatures ↔
      ∃ state, problem.Brings id state ∧ state.signature = signature) ∧
    ∃ node, problem.graph.node? id = some node ∧
      (property.isErrored = false → ∀ signature, signature ∈ property.statesAfter.signatures ↔
        ∃ state result, problem.Brings id state ∧
          node.run (problem.environment problem.ownNames) problem.method state = .ok result ∧
          result.signature = signature) ∧
      (property.isErrored = true ↔ ∃ state cause, problem.Brings id state ∧
        node.run (problem.environment problem.ownNames) problem.method state = .error cause) := by
  have wellFormed := built.wellFormed
  rw [(records_of_analyzeAcyclic analyzed).property?] at visited
  refine ⟨?_, ?_, ?_⟩
  · intro root initial left starts walk
    rcases Propagation.exists_run_of_walk wellFormed unregistered starts walk visited with
      ⟨state, ran, _⟩
    exact ⟨state, ran⟩
  · intro signature
    exact (Propagation.collects_brings wellFormed unregistered visited).mem_signatures_iff
  · rcases Propagation.exists_runsThrough wellFormed visited with ⟨node, _, known, _, _⟩
    refine ⟨node, known, ?_, Propagation.isErrored_iff_brings wellFormed unregistered visited known⟩
    intro passed signature
    have after := Propagation.collects_run_brings wellFormed unregistered visited known passed
    rw [after.mem_signatures_iff]
    constructor
    · rintro ⟨result, ⟨state, brings, ran⟩, same⟩
      exact ⟨state, result, brings, ran, same⟩
    · rintro ⟨state, result, brings, ran, same⟩
      exact ⟨result, ⟨state, brings, ran⟩, same⟩

/-- A method that pushes one of two values and drops it. -/
def eitherValue : Method :=
  { instructions := #[{ offset := 0, opcode := .nop }, { offset := 1, opcode := .nullConst },
      { offset := 2, opcode := .intConst 1 }, { offset := 3, opcode := .pop }] }

/-- Two ways from the first node to the last. -/
def diamond : FlowGraph :=
  .ofCalls [.addInstructionNodes eitherValue, .addEdge 0 1, .addEdge 0 2, .addEdge 1 3,
    .addEdge 2 3]

theorem analyzeAcyclic_mergeOverPaths_diamond :
    diamond.Built ∧ ∃ analysis property,
      analyzeAcyclic eitherValue diamond { registerHandlerLocals := false } = .ok analysis ∧
        analysis.property? 3 = some property ∧
        "[L:\"null\"]" ∈ property.statesBefore.signatures ∧
        "[I:\"0\"]" ∈ property.statesBefore.signatures := by
  have built : diamond.Built := ⟨_, rfl⟩
  have valid : diamond.validate eitherValue = .ok () := by decide +kernel
  rcases analyzeAcyclic_of_valid valid { registerHandlerLocals := false } with
    ⟨analysis, analyzed, _⟩
  have visited : ((analyzeAcyclic eitherValue diamond
      { registerHandlerLocals := false }).toOption.bind
        fun analysis => analysis.property? 3).isSome = true := by decide +kernel
  simp only [analyzed, Except.toOption, Option.bind_some, Option.isSome_iff_exists] at visited
  rcases visited with ⟨property, visited⟩
  let problem : Problem := ⟨eitherValue, diamond, { registerHandlerLocals := false }⟩
  have starts : problem.Starts 0 .empty := ⟨by decide +kernel, _, rfl, List.mem_singleton.2 rfl⟩
  have joined : ∀ side, diamond.Adjacent 0 side → diamond.Adjacent side 3 →
      diamond.Walk 0 [0, side] 3 := fun _ leaving entering =>
    (FlowGraph.Walk.here.step leaving).step entering
  rcases analyzeAcyclic_mergeOverPaths problem built rfl analyzed visited with ⟨_, signatures, _⟩
  refine ⟨built, analysis, property, analyzed, visited, (signatures _).2 ?_, (signatures _).2 ?_⟩
  · refine ⟨.ofList [.make (some 1) .reference "null"], ⟨0, .empty, [0, 1], starts, ?_, rfl⟩,
      by decide +kernel⟩
    exact joined 1 ⟨0, by decide +kernel⟩ ⟨2, by decide +kernel⟩
  · refine ⟨.ofList [.make (some 2) .int "0"], ⟨0, .empty, [0, 2], starts, ?_, rfl⟩,
      by decide +kernel⟩
    exact joined 2 ⟨1, by decide +kernel⟩ ⟨3, by decide +kernel⟩

end StackFlow
