import StackFlow.Proofs.Effect.Congruence
import StackFlow.Proofs.Propagation.Schedule
import StackFlow.Proofs.Stack.StateSet

/-!
# The states around a node

When a propagation is done, what is known about a node follows from what is known about its
predecessors: the states before it are the initial ones of a root, or those that the predecessors
hand on, and the states after it come from running each of them through the instruction. This is
`Explained`; it holds because all predecessors of a visited node were visited before it and nothing
is visited twice. The metrics take account of all that is known.
-/

namespace StackFlow

/-- Runs the instruction of a node on a state; a node without one leaves the state as it is. -/
def Node.run (environment : Environment) (method : Method) (node : Node) (state : StackState) :
    Except StackError StackState :=
  match method.instruction? node.instruction with
  | none => .ok state
  | some instruction => interpret environment instruction state

theorem Node.run_alike {values : Prop} {related : Entry → Entry → Prop}
    {left right : Environment} {first second : StackState}
    (congruence : Entry.Congruence values related) (samePool : left.pool = right.pool)
    (same : values → left = right) (method : Method) (node : Node)
    (states : StackState.Related related first second) :
    Alike (StackState.Related related) (node.run left method first)
      (node.run right method second) := by
  unfold run
  split
  · exact .ok states
  · exact interpret_alike congruence samePool same _ states

theorem Node.wellSized_of_run {environment : Environment} {method : Method} {node : Node}
    {state result : StackState} (sized : state.WellSized)
    (ran : node.run environment method state = .ok result) : result.WellSized := by
  unfold run at ran
  split at ran
  · cases ran
    exact sized
  · exact StackState.wellSized_of_interpret sized ran

/-- A view of states that runs respect: states that look alike give states that look alike, or fail
together, provided that their values are looked at in the same environment. It must not tell apart
states with the same signature. -/
structure StackState.Respected (values : Prop) {γ : Type} (view : StackState → γ) : Prop where
  of_shown {left right : StackState} : left.shown = right.shown → view left = view right
  run {left right : Environment} {first second : StackState} (samePool : left.pool = right.pool)
    (same : values → left = right) (firstSized : first.WellSized) (secondSized : second.WellSized)
    (alike : view first = view second) (method : Method) (node : Node) :
    Alike (fun leftResult rightResult => view leftResult = view rightResult)
      (node.run left method first) (node.run right method second)

theorem StackState.respected_types : Respected False types where
  of_shown := types_eq_of_shown_eq
  run samePool same firstSized secondSized alike method node :=
    (node.run_alike Entry.congruence_sameLayout samePool same method
      (sameLayout_of_types firstSized secondSized alike)).mono fun _ _ => Related.types_eq

theorem StackState.respected_shown : Respected True shown where
  of_shown same := same
  run samePool same firstSized secondSized alike method node :=
    (node.run_alike Entry.congruence_sameShown samePool same method
      (sameShown_of_shown firstSized secondSized alike)).mono fun _ _ => Related.shown_eq

/-- Says that a state looks like one of a set. -/
def StateSet.Covers (set : StateSet) {γ : Type} (view : StackState → γ) (state : StackState) :
    Prop :=
  ∃ kept ∈ set.states, view kept = view state

theorem Node.wellSized_rootStates {method : Method} {settings : Settings} {node : Node}
    {state : StackState} (member : state ∈ (node.rootStates method settings).states) :
    state.WellSized := by
  unfold rootStates at member
  split at member
  · rw [StateSet.states_singleEmpty, List.mem_singleton] at member
    subst state
    simp [StackState.WellSized]
  · have made := (StateSet.collects_ofList _).sound state member
    rcases List.mem_map.1 made with ⟨handler, _, rfl⟩
    simp [StackState.WellSized, Handler.entryState, Entry.Sized, Entry.make]

section NodeProperty

variable {run : StackState → Except StackError StackState} {done after : StateSet}
  {states : List StackState}

theorem collects_runStates {source : StackState → Prop} (collects : done.Collects source)
    (ran : runStates run done states = .ok after) :
    after.Collects fun result => source result ∨ ∃ state ∈ states, run state = .ok result := by
  induction states generalizing done source with
  | nil =>
      cases ran
      exact collects.congr fun state => by simp
  | cons first states ih =>
      unfold runStates at ran
      split at ran
      · cases ran
      · next result found =>
        refine (ih (collects.insert result) ran).congr fun state => ?_
        simp [found, or_assoc, eq_comm (a := result)]

theorem exists_failing_of_runStates {cause : StackError}
    (failed : runStates run done states = .error cause) :
    ∃ state ∈ states, run state = .error cause := by
  induction states generalizing done with
  | nil => cases failed
  | cons first states ih =>
      unfold runStates at failed
      split at failed
      · next found =>
        cases failed
        exact ⟨first, List.mem_cons_self, found⟩
      · rcases ih failed with ⟨state, member, stateFailed⟩
        exact ⟨state, List.mem_cons_of_mem _ member, stateFailed⟩

theorem runStates_eq_error_iff :
    (∃ cause, runStates run done states = .error cause) ↔
      ∃ state ∈ states, ∃ cause, run state = .error cause := by
  induction states generalizing done with
  | nil => simp [runStates]
  | cons first states ih =>
      unfold runStates
      split
      · next cause found => exact iff_of_true ⟨cause, rfl⟩ ⟨first, by simp, cause, found⟩
      · next found => simp [found, ih]

variable (environment : Environment) (method : Method) (node : Node) (before : StateSet)

theorem statesBefore_nodeProperty :
    (nodeProperty environment method node before).statesBefore = before := by
  unfold nodeProperty
  split
  · rfl
  · split <;> rfl

/-- A node fails if its instruction fails on one of the states before it. -/
theorem isErrored_nodeProperty :
    (nodeProperty environment method node before).isErrored = true ↔
      ∃ state ∈ before.states, ∃ cause, node.run environment method state = .error cause := by
  cases found : method.instruction? node.instruction with
  | none => simp [nodeProperty, Node.run, found, StackProperty.isErrored]
  | some instruction =>
      have failure : (∃ cause, runStates (interpret environment instruction) .empty before.states =
          .error cause) ↔ _ := runStates_eq_error_iff
      simp only [nodeProperty, Node.run, found, ← failure]
      split
      · next ran => simp [StackProperty.isErrored, ran]
      · next cause ran => exact iff_of_true rfl ⟨cause, ran⟩

theorem exists_failing_of_nodeProperty {cause : StackError}
    (failed : (nodeProperty environment method node before).error = some cause) :
    ∃ state ∈ before.states, node.run environment method state = .error cause := by
  cases found : method.instruction? node.instruction with
  | none => simp [nodeProperty, found] at failed
  | some instruction =>
      simp only [nodeProperty, Node.run, found] at failed ⊢
      split at failed
      · cases failed
      · next ran =>
        cases failed
        exact exists_failing_of_runStates ran

theorem statesAfter_of_errored
    (errored : (nodeProperty environment method node before).isErrored = true) :
    (nodeProperty environment method node before).statesAfter = .empty := by
  cases found : method.instruction? node.instruction with
  | none => simp [nodeProperty, found, StackProperty.isErrored] at errored
  | some instruction =>
      simp only [nodeProperty, found] at errored ⊢
      split at errored
      · cases errored
      · rfl

theorem collects_nodeProperty
    (passed : (nodeProperty environment method node before).isErrored = false) :
    (nodeProperty environment method node before).statesAfter.Collects fun result =>
      ∃ state ∈ before.states, node.run environment method state = .ok result := by
  cases found : method.instruction? node.instruction with
  | none =>
      simp only [nodeProperty, Node.run, found]
      exact before.collects_states.congr fun state => by simp
  | some instruction =>
      simp only [nodeProperty, Node.run, found] at passed ⊢
      split at passed
      · next ran =>
        exact (collects_runStates StateSet.collects_empty ran).congr fun state => by simp
      · cases passed

end NodeProperty

/-- What instructions are interpreted in, given the names of local variables. -/
def Problem.environment (problem : Problem) (names : LocalNames) : Environment :=
  { pool := problem.method.pool, names, placeholder := problem.settings.placeholder }

/-- The names of local variables that the method comes with. -/
def Problem.ownNames (problem : Problem) : LocalNames := { table := problem.method.locals }

namespace Propagation

/-- The states that arrive at a node: the initial ones of a root, or those handed on. -/
def arriving (propagation : Propagation) (problem : Problem) (id : NodeId) (node : Node) :
    StateSet :=
  if node.incoming.isEmpty then node.rootStates problem.method problem.settings
  else propagation.mergedStates problem.graph id

variable {problem : Problem} {propagation next : Propagation} {id other : NodeId} {node : Node}
  {rest : List NodeId}

theorem property_visit : (propagation.visit problem id node).property =
    nodeProperty (problem.environment (propagation.visit problem id node).names) problem.method node
      (propagation.arriving problem id node) := rfl

theorem names_visit (unregistered : problem.settings.registerHandlerLocals = false) :
    (propagation.visit problem id node).names = propagation.names := by
  simp only [visit]
  split
  · simp [Node.rootNames, Node.handlerLocal?, unregistered]
  · rfl

theorem foldl_extend_eq (sources : List NodeId) (merged : StateSet) :
    sources.foldl (fun merged source =>
        match propagation.property? source with
        | some property => merged.extend property.statesAfter.states
        | none => merged) merged =
      merged.extend
        ((sources.filterMap propagation.property?).flatMap (·.statesAfter.states)) := by
  induction sources generalizing merged with
  | nil => rfl
  | cons source sources ih =>
      rw [List.foldl_cons, List.filterMap_cons, ih]
      cases propagation.property? source with
      | none => rfl
      | some property => rw [List.flatMap_cons, StateSet.extend_append]

theorem mergedStates_eq (propagation : Propagation) (graph : FlowGraph) (id : NodeId) :
    propagation.mergedStates graph id = .ofList
      (((graph.predecessors id).filterMap propagation.property?).flatMap
        (·.statesAfter.states)) :=
  foldl_extend_eq (graph.predecessors id) .empty

theorem collects_mergedStates (propagation : Propagation) (graph : FlowGraph) (id : NodeId) :
    (propagation.mergedStates graph id).Collects fun state =>
      ∃ source ∈ graph.predecessors id, ∃ property,
        propagation.property? source = some property ∧ state ∈ property.statesAfter.states := by
  rw [mergedStates_eq]
  refine (StateSet.collects_ofList _).congr fun state => ?_
  simp only [List.mem_flatMap, List.mem_filterMap]
  constructor
  · rintro ⟨property, ⟨source, entering, visited⟩, member⟩
    exact ⟨source, entering, property, visited, member⟩
  · rintro ⟨source, entering, property, visited, member⟩
    exact ⟨property, ⟨source, entering, visited⟩, member⟩

/-- Says that what is known about each node follows from what is known about its predecessors. The
names of local variables may change on the way, unless none are registered. -/
structure Explained (problem : Problem) (propagation : Propagation) : Prop where
  names : problem.settings.registerHandlerLocals = false → propagation.names = problem.ownNames
  property : ∀ {id property}, propagation.property? id = some property → ∃ node names,
    problem.graph.node? id = some node ∧
      (problem.settings.registerHandlerLocals = false → names = problem.ownNames) ∧
      property = nodeProperty (problem.environment names) problem.method node
        (propagation.arriving problem id node)

/-- What arrives at a node does not change by a visit of a node that is none of its predecessors. -/
theorem arriving_settle (wellFormed : problem.graph.WellFormed)
    (inBounds : id < propagation.properties.size) (apart : ¬problem.graph.Adjacent id other)
    (otherNode : Node) :
    (propagation.settle problem id node rest).arriving problem other otherNode =
      propagation.arriving problem other otherNode := by
  unfold arriving
  split
  · rfl
  · apply List.foldl_ext
    intro merged predecessor member
    have different : predecessor ≠ id := by
      rintro rfl
      exact apart (wellFormed.mem_predecessors.1 member)
    rw [property?_settle inBounds, if_neg different]

theorem Explained.settle (explained : Explained problem propagation)
    (scheduled : Scheduled problem propagation) (wellFormed : problem.graph.WellFormed)
    (known : problem.graph.node? id = some node) (fresh : propagation.property? id = none)
    (ready : propagation.isReady node = true) :
    Explained problem (propagation.settle problem id node rest) := by
  have inBounds := scheduled.inBounds known
  have notPassed : ¬propagation.Passed id := by
    rintro ⟨property, visited, _⟩
    rw [fresh] at visited
    cases visited
  have ownNames : problem.settings.registerHandlerLocals = false →
      (propagation.visit problem id node).names = problem.ownNames := fun unregistered =>
    (names_visit unregistered).trans (explained.names unregistered)
  constructor
  · exact ownNames
  · intro other property visited
    rw [property?_settle inBounds] at visited
    split at visited
    · next same =>
      subst other
      cases visited
      have apart : ¬problem.graph.Adjacent id id := fun adjacent =>
        notPassed ((scheduled.ready_iff wellFormed known).1 ready id adjacent)
      refine ⟨node, _, known, ownNames, ?_⟩
      rw [arriving_settle wellFormed inBounds apart]
      exact property_visit
    · have apart : ¬problem.graph.Adjacent id other := fun adjacent =>
        notPassed (scheduled.before (Option.isSome_of_eq_some visited) id adjacent)
      rcases explained.property visited with ⟨otherNode, names, otherKnown, own, explanation⟩
      refine ⟨otherNode, names, otherKnown, own, ?_⟩
      rw [arriving_settle wellFormed inBounds apart]
      exact explanation

theorem explained_final (wellFormed : problem.graph.WellFormed) :
    Explained problem (final problem) := by
  refine final_preserves (Explained problem) wellFormed ⟨fun _ => rfl, ?_⟩ ?_
  · intro id property visited
    rw [property?_initial] at visited
    cases visited
  · intro propagation next scheduled explained turn
    cases turn with
    | stay => exact explained
    | drop => exact ⟨explained.names, explained.property⟩
    | visit nextNode known fresh ready =>
        exact explained.settle scheduled wellFormed known fresh ready

/-- Says that the states after a node come from running its instruction on those before it. -/
structure RunsThrough (problem : Problem) (names : LocalNames) (node : Node)
    (property : StackProperty) : Prop where
  errored_iff : property.isErrored = true ↔ ∃ state ∈ property.statesBefore.states, ∃ cause,
    node.run (problem.environment names) problem.method state = .error cause
  error : ∀ {cause}, property.error = some cause → ∃ state ∈ property.statesBefore.states,
    node.run (problem.environment names) problem.method state = .error cause
  nothing : property.isErrored = true → property.statesAfter = .empty
  after : property.isErrored = false → property.statesAfter.Collects fun result =>
    ∃ state ∈ property.statesBefore.states,
      node.run (problem.environment names) problem.method state = .ok result

theorem runsThrough_nodeProperty (problem : Problem) (names : LocalNames) (node : Node)
    (before : StateSet) :
    RunsThrough problem names node
      (nodeProperty (problem.environment names) problem.method node before) := by
  refine ⟨?_, ?_, statesAfter_of_errored _ _ _ _, ?_⟩
  · rw [statesBefore_nodeProperty]
    exact isErrored_nodeProperty _ _ _ _
  · intro cause failed
    rw [statesBefore_nodeProperty]
    exact exists_failing_of_nodeProperty _ _ _ _ failed
  · intro passed
    rw [statesBefore_nodeProperty]
    exact collects_nodeProperty _ _ _ _ passed

theorem RunsThrough.passed_of_mem {names : LocalNames} {property : StackProperty}
    {state : StackState} (runs : RunsThrough problem names node property)
    (member : state ∈ property.statesAfter.states) : property.isErrored = false := by
  by_contra errored
  rw [runs.nothing (by simpa using errored)] at member
  cases member

theorem RunsThrough.exists_ok {names : LocalNames} {property : StackProperty} {state : StackState}
    (runs : RunsThrough problem names node property) (passed : property.isErrored = false)
    (member : state ∈ property.statesBefore.states) :
    ∃ result, node.run (problem.environment names) problem.method state = .ok result := by
  cases ran : node.run (problem.environment names) problem.method state with
  | error cause =>
      rw [runs.errored_iff.2 ⟨state, member, cause, ran⟩] at passed
      cases passed
  | ok result => exact ⟨result, rfl⟩

section Final

variable {property : StackProperty}

theorem exists_runsThrough (wellFormed : problem.graph.WellFormed)
    (visited : (final problem).property? id = some property) :
    ∃ node names, problem.graph.node? id = some node ∧
      (problem.settings.registerHandlerLocals = false → names = problem.ownNames) ∧
      RunsThrough problem names node property := by
  rcases (explained_final wellFormed).property visited with ⟨node, names, known, own, rfl⟩
  exact ⟨node, names, known, own, runsThrough_nodeProperty problem names node _⟩

theorem exists_names_runsThrough (wellFormed : problem.graph.WellFormed)
    (visited : (final problem).property? id = some property)
    (known : problem.graph.node? id = some node) :
    ∃ names, (problem.settings.registerHandlerLocals = false → names = problem.ownNames) ∧
      RunsThrough problem names node property := by
  rcases exists_runsThrough wellFormed visited with ⟨found, names, foundKnown, own, runs⟩
  rw [known, Option.some.injEq] at foundKnown
  subst found
  exact ⟨names, own, runs⟩

theorem statesBefore_of_root (wellFormed : problem.graph.WellFormed)
    (visited : (final problem).property? id = some property)
    (known : problem.graph.node? id = some node)
    (isRoot : ∀ source, ¬problem.graph.Adjacent source id) :
    property.statesBefore = node.rootStates problem.method problem.settings := by
  rcases (explained_final wellFormed).property visited with ⟨found, names, foundKnown, _, rfl⟩
  rw [known, Option.some.injEq] at foundKnown
  subst found
  have noEdge := wellFormed.incoming_eq_nil_iff.2 isRoot
  rw [incoming_eq known] at noEdge
  rw [statesBefore_nodeProperty, arriving, noEdge]
  rfl

theorem collects_statesBefore (wellFormed : problem.graph.WellFormed)
    (visited : (final problem).property? id = some property) {source : NodeId}
    (adjacent : problem.graph.Adjacent source id) :
    property.statesBefore.Collects fun state => ∃ predecessor found,
      problem.graph.Adjacent predecessor id ∧ (final problem).property? predecessor = some found ∧
        state ∈ found.statesAfter.states := by
  rcases (explained_final wellFormed).property visited with ⟨node, names, known, _, rfl⟩
  have entered : ¬node.incoming.isEmpty = true := by
    intro empty
    rw [List.isEmpty_iff, ← incoming_eq known] at empty
    exact wellFormed.incoming_eq_nil_iff.1 empty source adjacent
  rw [statesBefore_nodeProperty, arriving, if_neg entered]
  refine (collects_mergedStates _ _ _).congr fun state => ?_
  simp only [wellFormed.mem_predecessors, exists_and_left]

/-- What holds of the initial states of roots and is handed on along the edges holds of all states
before a visited node. -/
theorem statesBefore_induction (motive : NodeId → StackState → Prop)
    (wellFormed : problem.graph.WellFormed)
    (initially : ∀ {id node state}, problem.graph.node? id = some node →
      (∀ source, ¬problem.graph.Adjacent source id) →
      state ∈ (node.rootStates problem.method problem.settings).states → motive id state)
    (handedOn : ∀ {source target node names state result}, problem.graph.Adjacent source target →
      problem.graph.node? source = some node →
      (problem.settings.registerHandlerLocals = false → names = problem.ownNames) →
      node.run (problem.environment names) problem.method state = .ok result →
      motive source state → motive target result)
    (visited : (final problem).property? id = some property) {state : StackState}
    (member : state ∈ property.statesBefore.states) : motive id state := by
  have scheduled := scheduled_final wellFormed
  -- A visited node has no cycle behind it, so the induction can go along the edges.
  have accessible := scheduled.accessible (Option.isSome_of_eq_some visited)
  induction accessible generalizing property state with
  | intro id _ ih =>
      by_cases isRoot : ∀ source, ¬problem.graph.Adjacent source id
      · rcases exists_runsThrough wellFormed visited with ⟨node, _, known, _, _⟩
        rw [statesBefore_of_root wellFormed visited known isRoot] at member
        exact initially known isRoot member
      · simp only [not_forall, not_not] at isRoot
        rcases isRoot with ⟨source, adjacent⟩
        rcases (collects_statesBefore wellFormed visited adjacent).sound state member with
          ⟨predecessor, found, entering, foundVisited, after⟩
        rcases scheduled.before (Option.isSome_of_eq_some visited) predecessor entering with
          ⟨passed, passedVisited, notErrored⟩
        rw [foundVisited, Option.some.injEq] at passedVisited
        subst passed
        rcases exists_runsThrough wellFormed foundVisited with ⟨node, names, known, own, runs⟩
        rcases (runs.after notErrored).sound state after with ⟨earlier, earlierMember, ran⟩
        exact handedOn entering known own ran (ih predecessor entering foundVisited earlierMember)

theorem wellSized_statesBefore (wellFormed : problem.graph.WellFormed)
    (visited : (final problem).property? id = some property) {state : StackState}
    (member : state ∈ property.statesBefore.states) : state.WellSized :=
  statesBefore_induction (fun _ => StackState.WellSized) wellFormed
    (fun _ _ initial => Node.wellSized_rootStates initial)
    (fun _ _ _ ran sized => Node.wellSized_of_run sized ran) visited member

theorem wellSized_statesAfter (wellFormed : problem.graph.WellFormed)
    (visited : (final problem).property? id = some property) (passed : property.isErrored = false)
    {state : StackState} (member : state ∈ property.statesAfter.states) : state.WellSized := by
  rcases exists_runsThrough wellFormed visited with ⟨node, names, _, _, runs⟩
  rcases (runs.after passed).sound state member with ⟨earlier, earlierMember, ran⟩
  exact Node.wellSized_of_run (wellSized_statesBefore wellFormed visited earlierMember) ran

end Final

end Propagation

/-- Says that metrics take account of what is known about a node. -/
structure Metrics.Bounds (metrics : Metrics) (property : StackProperty) : Prop where
  before_le : property.statesBefore.maxSizeInWords ≤ metrics.maxStackSize
  after_le : property.statesAfter.maxSizeInWords ≤ metrics.maxStackSize
  errored_pos : property.isErrored = true → 0 < metrics.erroredNodes

theorem Metrics.bounds_record (metrics : Metrics) (property : StackProperty) :
    (metrics.record property).Bounds property := by
  simp only [record, recordSet]
  constructor
  · exact Nat.le_trans (Nat.le_max_right _ _) (Nat.le_max_left _ _)
  · exact Nat.le_max_right _ _
  · intro errored
    simp [errored]

theorem Metrics.Bounds.record {metrics : Metrics} {property : StackProperty}
    (bounds : metrics.Bounds property) (other : StackProperty) :
    (metrics.record other).Bounds property := by
  have beforeLe := bounds.before_le
  have afterLe := bounds.after_le
  simp only [Metrics.record, Metrics.recordSet]
  constructor
  · dsimp only
    omega
  · dsimp only
    omega
  · intro errored
    have counted := bounds.errored_pos errored
    dsimp only
    omega

theorem Propagation.bounds_final {problem : Problem} (wellFormed : problem.graph.WellFormed)
    {id : NodeId} {property : StackProperty}
    (visited : (final problem).property? id = some property) :
    (final problem).metrics.Bounds property := by
  suffices all : ∀ id property, (final problem).property? id = some property →
      (final problem).metrics.Bounds property from all id property visited
  refine final_preserves (fun propagation => ∀ id property,
    propagation.property? id = some property → propagation.metrics.Bounds property) wellFormed ?_ ?_
  · intro id property visited
    rw [property?_initial] at visited
    cases visited
  · intro propagation next scheduled bounded turn
    cases turn with
    | stay => exact bounded
    | drop => exact bounded
    | @visit settled node rest nextNode known fresh ready =>
        intro other found foundVisited
        rw [property?_settle (scheduled.inBounds known)] at foundVisited
        split at foundVisited
        · cases foundVisited
          exact Metrics.bounds_record _ _
        · exact (bounded other found foundVisited).record _

end StackFlow
