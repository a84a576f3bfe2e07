import StackFlow.Proofs.Propagation.Coverage
import StackFlow.Proofs.Propagation.States

/-!
# Propagation as a recursion on predecessors

What a propagation finds out about a node can be said without lists of nodes and edges to come:
`Problem.infer` says what follows for a node from what is known about its predecessors, and in a
graph without cycles `Problem.inferred` is the recursion along the edges. A finished propagation
solves the equations of `infer`, whatever the order of its visits, and equations of this kind have
one solution where no cycle lies behind. A change that leaves a node and all that lies before it as
they are therefore leaves the node's property as it is.
-/

namespace StackFlow

open Relation

/-- All states before a node run through its instruction, or nothing but the first failure. -/
def Node.outcome (environment : Environment) (method : Method) (node : Node)
    (statesBefore : StateSet) : StackProperty :=
  match statesBefore.states.mapM (node.run environment method) with
  | .ok results =>
    { instruction := node.instruction, statesBefore, statesAfter := .ofList results, error := none }
  | .error cause =>
    { instruction := node.instruction, statesBefore, statesAfter := .empty, error := some cause }

theorem runStates_eq_mapM (run : StackState → Except StackError StackState) (done : StateSet)
    (states : List StackState) :
    runStates run done states = (states.mapM run).map done.extend := by
  induction states generalizing done with
  | nil => rfl
  | cons state states ih =>
      rw [runStates, List.mapM_cons]
      cases run state with
      | error cause => rfl
      | ok result =>
          simp only [ih]
          cases states.mapM run with
          | error cause => rfl
          | ok results => rfl

theorem nodeProperty_eq_outcome (environment : Environment) (method : Method) (node : Node)
    (statesBefore : StateSet) :
    nodeProperty environment method node statesBefore =
      node.outcome environment method statesBefore := by
  cases found : method.instruction? node.instruction with
  | none =>
      have unchanged : statesBefore.states.mapM (node.run environment method) =
          .ok statesBefore.states := by
        have run : node.run environment method = fun state => pure (id state) := by
          funext state
          simp only [Node.run, found]
          rfl
        rw [run, List.mapM_pure, List.map_id]
        rfl
      simp only [nodeProperty, found, Node.outcome, unchanged, StateSet.ofList_states]
  | some instruction =>
      have run : node.run environment method = interpret environment instruction := by
        funext state
        simp only [Node.run, found]
      simp only [nodeProperty, found, Node.outcome, run, runStates_eq_mapM]
      cases statesBefore.states.mapM (interpret environment instruction) with
      | error cause => rfl
      | ok results => rfl

namespace Problem

variable {problem other : Problem} {known otherKnown : NodeId → Option StackProperty} {id : NodeId}

/-- Whether all predecessors of a node have a property and none of them failed. -/
def isDue (problem : Problem) (known : NodeId → Option StackProperty) (id : NodeId) : Bool :=
  (problem.graph.predecessors id).all fun source =>
    (known source).any fun property => !property.isErrored

/-- The states that come to a node: the initial ones if no edge leads to it, or else those after its
predecessors, in the order of the edges. -/
def incomingStates (problem : Problem) (known : NodeId → Option StackProperty) (id : NodeId)
    (node : Node) : StateSet :=
  if problem.graph.predecessors id = [] then node.rootStates problem.method problem.settings
  else .ofList (((problem.graph.predecessors id).filterMap known).flatMap (·.statesAfter.states))

/-- What follows for a node from what is known about its predecessors. -/
def infer (problem : Problem) (known : NodeId → Option StackProperty) (id : NodeId) :
    Option StackProperty :=
  (problem.graph.node? id).bind fun node =>
    if problem.isDue known id then
      some (node.outcome (problem.environment problem.ownNames) problem.method
        (problem.incomingStates known id node))
    else none

theorem isDue_iff (wellFormed : problem.graph.WellFormed) :
    problem.isDue known id = true ↔ ∀ source, problem.graph.Adjacent source id →
      ∃ property, known source = some property ∧ property.isErrored = false := by
  simp only [isDue, List.all_eq_true, Option.any_eq_true, Bool.not_eq_true',
    wellFormed.mem_predecessors]

/-- Says that a node stands for the same instruction in two problems, that the same edges lead to
it, and that all else that its instruction is run with is the same. -/
structure SameAt (problem other : Problem) (id : NodeId) : Prop where
  settings : other.settings = problem.settings
  pool : other.method.pool = problem.method.pool
  locals : other.method.locals = problem.method.locals
  handlers : other.method.handlers = problem.method.handlers
  node : (other.graph.node? id).map (fun node => (node.offset, node.instruction)) =
    (problem.graph.node? id).map fun node => (node.offset, node.instruction)
  instruction : ∀ node, problem.graph.node? id = some node →
    other.method.instruction? node.instruction = problem.method.instruction? node.instruction
  predecessors : other.graph.predecessors id = problem.graph.predecessors id

/-- Says that two problems do not differ at a node nor at any node that it can be reached from. -/
def SameBehind (problem other : Problem) (id : NodeId) : Prop :=
  ∀ ancestor, problem.graph.Reaches ancestor id → problem.SameAt other ancestor

theorem sameAt_refl (problem : Problem) (id : NodeId) : problem.SameAt problem id :=
  ⟨rfl, rfl, rfl, rfl, rfl, fun _ _ => rfl, rfl⟩

theorem SameAt.outcome_eq (same : problem.SameAt other id) {node otherNode : Node}
    (isKnown : problem.graph.node? id = some node)
    (index : otherNode.instruction = node.instruction) (statesBefore : StateSet) :
    otherNode.outcome (other.environment other.ownNames) other.method statesBefore =
      node.outcome (problem.environment problem.ownNames) problem.method statesBefore := by
  have environment : other.environment other.ownNames = problem.environment problem.ownNames := by
    simp only [Problem.environment, ownNames, same.settings, same.pool, same.locals]
  have run : otherNode.run (other.environment other.ownNames) other.method =
      node.run (problem.environment problem.ownNames) problem.method := by
    funext state
    simp only [Node.run, index, same.instruction node isKnown, environment]
  simp only [Node.outcome, run, index]

theorem SameAt.rootStates_eq (same : problem.SameAt other id) {node otherNode : Node}
    (offset : otherNode.offset = node.offset) :
    otherNode.rootStates other.method other.settings =
      node.rootStates problem.method problem.settings := by
  have entryState : Handler.entryState other.method = Handler.entryState problem.method := by
    funext placeholder handler
    simp only [Handler.entryState, Handler.caughtValue, same.pool]
  have handlers : otherNode.handlers other.method = node.handlers problem.method := by
    simp only [Node.handlers, Method.handlersAt, offset, same.handlers]
  simp only [Node.rootStates, handlers, entryState, same.settings]

/-- What follows for a node depends on the node itself and on its predecessors alone. -/
theorem SameAt.infer_eq (same : problem.SameAt other id)
    (agree : ∀ source ∈ problem.graph.predecessors id, otherKnown source = known source) :
    other.infer otherKnown id = problem.infer known id := by
  have due : other.isDue otherKnown id = problem.isDue known id := by
    rw [isDue, isDue, same.predecessors, Bool.eq_iff_iff, List.all_eq_true, List.all_eq_true]
    apply forall₂_congr
    intro source member
    rw [agree source member]
  have handedOn : (problem.graph.predecessors id).filterMap otherKnown =
      (problem.graph.predecessors id).filterMap known := List.filterMap_congr agree
  have sameNode := same.node
  cases isKnown : problem.graph.node? id with
  | none =>
      rw [isKnown, Option.map_none, Option.map_eq_none_iff] at sameNode
      simp only [infer, isKnown, sameNode, Option.bind_none]
  | some node =>
      rw [isKnown, Option.map_some, Option.map_eq_some_iff] at sameNode
      rcases sameNode with ⟨otherNode, otherIsKnown, sameData⟩
      rw [Prod.mk.injEq] at sameData
      have states : other.incomingStates otherKnown id otherNode =
          problem.incomingStates known id node := by
        simp only [incomingStates, same.predecessors, handedOn, same.rootStates_eq sameData.1]
      simp only [infer, isKnown, otherIsKnown, Option.bind_some, due, states,
        same.outcome_eq isKnown sameData.2]

/-- Two solutions agree at a node if the problems do not differ behind it and no cycle lies
there. -/
theorem eq_of_infer_eq (accessible : Acc problem.graph.Adjacent id)
    (wellFormed : problem.graph.WellFormed) (same : problem.SameBehind other id)
    (solved : ∀ id, known id = problem.infer known id)
    (otherSolved : ∀ id, otherKnown id = other.infer otherKnown id) :
    otherKnown id = known id := by
  induction accessible with
  | intro id _ ih =>
      rw [solved, otherSolved]
      apply (same id .refl).infer_eq
      intro source member
      have adjacent := wellFormed.mem_predecessors.1 member
      apply ih source adjacent
      intro ancestor reaches
      exact same ancestor (reaches.tail adjacent)

theorem wellFounded_adjacent (built : problem.graph.Built) (acyclic : problem.graph.Acyclic) :
    WellFounded problem.graph.Adjacent :=
  ⟨fun _ => built.wellFormed.acc_of_noCycle fun ancestor _ => acyclic ancestor⟩

/-- What follows for a node by recursion on its predecessors, in a graph without cycles. -/
def inferred (problem : Problem) (built : problem.graph.Built) (acyclic : problem.graph.Acyclic)
    (id : NodeId) : Option StackProperty :=
  problem.infer (fun source =>
    if _ : source ∈ problem.graph.predecessors id then problem.inferred built acyclic source
    else none) id
termination_by (wellFounded_adjacent built acyclic).wrap id
decreasing_by exact built.wellFormed.mem_predecessors.1 (by assumption)

theorem inferred_eq (problem : Problem) (built : problem.graph.Built)
    (acyclic : problem.graph.Acyclic) (id : NodeId) :
    problem.inferred built acyclic id = problem.infer (problem.inferred built acyclic) id := by
  rw [inferred]
  apply (problem.sameAt_refl id).infer_eq
  intro source member
  rw [dif_pos member]

end Problem

namespace Propagation

variable {problem : Problem} {id : NodeId}

theorem arriving_eq (wellFormed : problem.graph.WellFormed) (propagation : Propagation)
    {node : Node} (known : problem.graph.node? id = some node) :
    propagation.arriving problem id node =
      problem.incomingStates propagation.property? id node := by
  have root_iff : node.incoming.isEmpty = true ↔ problem.graph.predecessors id = [] := by
    rw [List.isEmpty_iff, ← incoming_eq known, wellFormed.incoming_eq_nil_iff,
      List.eq_nil_iff_forall_not_mem]
    simp only [wellFormed.mem_predecessors]
  simp only [arriving, Problem.incomingStates, root_iff, mergedStates_eq]

/-- A finished propagation solves the equations, whatever the order of its visits. -/
theorem property?_final_eq (wellFormed : problem.graph.WellFormed)
    (unregistered : problem.settings.registerHandlerLocals = false) (id : NodeId) :
    (final problem).property? id = problem.infer (final problem).property? id := by
  have scheduled := scheduled_final wellFormed
  cases visited : (final problem).property? id with
  | some property =>
      rcases (explained_final wellFormed).property visited with ⟨node, names, known, own, rfl⟩
      have due : problem.isDue (final problem).property? id = true :=
        (Problem.isDue_iff wellFormed).2 (scheduled.before (Option.isSome_of_eq_some visited))
      rw [Problem.infer, known, Option.bind_some, if_pos due, own unregistered,
        nodeProperty_eq_outcome, arriving_eq wellFormed _ known]
  | none =>
      cases known : problem.graph.node? id with
      | none => rw [Problem.infer, known, Option.bind_none]
      | some node =>
          -- A node whose predecessors all passed would still be on the list.
          have notDue : ¬problem.isDue (final problem).property? id = true := by
            intro due
            have listed := scheduled.listed (FlowGraph.lt_nodeCount_of_node? known) visited
              ((Problem.isDue_iff wellFormed).1 due)
            rw [worklist_final wellFormed] at listed
            exact List.not_mem_nil listed
          rw [Problem.infer, known, Option.bind_some, if_neg notDue]

end Propagation

/-- The analysis of a graph without cycles gives each node the property that follows by recursion on
its predecessors, and only what lies behind a node can change its property. -/
theorem analyzeAcyclic_eq_inferred (problem : Problem) (built : problem.graph.Built)
    (acyclic : problem.graph.Acyclic)
    (unregistered : problem.settings.registerHandlerLocals = false)
    (valid : problem.graph.validate problem.method = .ok ()) :
    ∃ analysis, analyzeAcyclic problem.method problem.graph problem.settings = .ok analysis ∧
      (∀ id, analysis.property? id = problem.inferred built acyclic id) ∧
      ∀ (other : Problem) (id : NodeId), other.graph.Built →
        other.graph.validate other.method = .ok () → problem.SameBehind other id →
        ∃ changed, analyzeAcyclic other.method other.graph other.settings = .ok changed ∧
          changed.property? id = analysis.property? id := by
  have accessible := (Problem.wellFounded_adjacent built acyclic).apply
  have solved := Propagation.property?_final_eq built.wellFormed unregistered
  rcases analyzeAcyclic_of_valid valid problem.settings with ⟨analysis, analyzed, records⟩
  refine ⟨analysis, analyzed, ?_, ?_⟩
  · intro id
    rw [records.property?]
    exact Problem.eq_of_infer_eq (accessible id) built.wellFormed
      (fun ancestor _ => problem.sameAt_refl ancestor) (problem.inferred_eq built acyclic) solved
  · intro other id otherBuilt otherValid same
    have otherUnregistered : other.settings.registerHandlerLocals = false := by
      rw [(same id .refl).settings, unregistered]
    rcases analyzeAcyclic_of_valid otherValid other.settings with
      ⟨changed, otherAnalyzed, otherRecords⟩
    refine ⟨changed, otherAnalyzed, ?_⟩
    rw [records.property?, otherRecords.property?]
    exact Problem.eq_of_infer_eq (accessible id) built.wellFormed same solved
      (Propagation.property?_final_eq otherBuilt.wellFormed otherUnregistered)

/-- A method with an instruction of choice on one of its two ways. -/
def forked (opcode : Opcode) : Method :=
  { instructions := #[{ offset := 0, opcode := .nop }, { offset := 1, opcode },
      { offset := 2, opcode := .nullConst }, { offset := 3, opcode := .returnVoid }] }

/-- Two ways that part at the first node and do not meet again. -/
def fork : FlowGraph :=
  .ofCalls [.addInstructionNodes (forked .nop), .addEdge 0 1, .addEdge 0 2, .addEdge 1 3]

/-- The same ways, of which one takes an entry that is not there and leads nowhere. -/
def brokenFork : FlowGraph :=
  .ofCalls [.addInstructionNodes (forked .pop), .addEdge 0 1, .addEdge 0 2]

theorem analyzeAcyclic_eq_inferred_fork :
    fork.Built ∧ fork.Acyclic ∧ ∃ analysis changed,
      analyzeAcyclic (forked .nop) fork { registerHandlerLocals := false } = .ok analysis ∧
      analyzeAcyclic (forked .pop) brokenFork { registerHandlerLocals := false } = .ok changed ∧
      (analysis.property? 1).map StackProperty.isErrored = some false ∧
      (changed.property? 1).map StackProperty.isErrored = some true ∧
      (analysis.property? 2).isSome = true ∧ changed.property? 2 = analysis.property? 2 := by
  have built : fork.Built := ⟨_, rfl⟩
  have acyclic : fork.Acyclic :=
    (FlowGraph.depthFirstBackEdges_eq_nil_iff built.wellFormed).1 (by decide +kernel)
  let problem : Problem := ⟨forked .nop, fork, { registerHandlerLocals := false }⟩
  let other : Problem := ⟨forked .pop, brokenFork, { registerHandlerLocals := false }⟩
  -- Only the first node lies before the way that stays as it is.
  have same : problem.SameBehind other 2 := by
    intro ancestor reaches
    have isBehind : ancestor = 2 ∨ ancestor = 0 := by
      rcases reaches.cases_tail with isSelf | ⟨middle, before, adjacent⟩
      · exact .inl isSelf.symm
      · have entering := built.wellFormed.mem_predecessors.2 adjacent
        rw [show fork.predecessors 2 = [0] by decide +kernel, List.mem_singleton] at entering
        subst middle
        rcases before.cases_tail with isRoot | ⟨_, _, entered⟩
        · exact .inr isRoot.symm
        · have none := built.wellFormed.mem_predecessors.2 entered
          rw [show fork.predecessors 0 = [] by decide +kernel] at none
          exact absurd none List.not_mem_nil
    rcases isBehind with rfl | rfl
    all_goals
      refine ⟨rfl, rfl, rfl, rfl, by decide +kernel, ?_, by decide +kernel⟩
      intro node isKnown
      cases isKnown
      rfl
  rcases analyzeAcyclic_eq_inferred problem built acyclic rfl (by decide +kernel) with
    ⟨analysis, analyzed, _, unaffected⟩
  rcases unaffected other 2 ⟨_, rfl⟩ (by decide +kernel) same with ⟨changed, otherAnalyzed, equal⟩
  have passed : ((analyzeAcyclic problem.method problem.graph problem.settings).toOption.bind
      fun analysis => analysis.property? 1).map StackProperty.isErrored = some false ∧
      ((analyzeAcyclic problem.method problem.graph problem.settings).toOption.bind
        fun analysis => analysis.property? 2).isSome = true := by decide +kernel
  have failed : ((analyzeAcyclic other.method other.graph other.settings).toOption.bind
      fun analysis => analysis.property? 1).map StackProperty.isErrored = some true := by
    decide +kernel
  rw [analyzed] at passed
  rw [otherAnalyzed] at failed
  exact ⟨built, acyclic, analysis, changed, analyzed, otherAnalyzed, passed.1, failed, passed.2,
    equal⟩

end StackFlow
