import StackFlow.Proofs.Propagation.Bounds
import StackFlow.Proofs.Propagation.RegisteredNames

/-!
# Names of handlers' locals

The local variable that a handler stores its exception into is given a name when the handler's root
is visited, so whether a load reads it under that name depends on the order of visits. Roots are
visited in the order of their numbers, and everything that can be visited is visited before the next
root. A node therefore sees the names that were registered at the roots up to the last one that
reaches it, and no others (`FlowGraph.Sees`). By its offset alone a load may look as if it came
after the store, and still be visited before it.
-/

namespace StackFlow

open Relation

/-! ### The order of roots -/

theorem FlowGraph.pairwise_roots (graph : FlowGraph) : graph.roots.Pairwise (· < ·) :=
  List.pairwise_lt_range.filter _

/-- Says that `seen` are the roots up to the last one that reaches a node. -/
def FlowGraph.Sees (graph : FlowGraph) (id : NodeId) (seen : List NodeId) : Prop :=
  ∃ earlier last later, seen = earlier ++ [last] ∧ graph.roots = seen ++ later ∧
    graph.Reaches last id ∧ ∀ root ∈ later, ¬graph.Reaches root id

theorem FlowGraph.Sees.mem_iff {graph : FlowGraph} {id root : NodeId} {seen : List NodeId}
    (sees : graph.Sees id seen) : root ∈ seen ↔
      root ∈ graph.roots ∧ ∃ last ∈ graph.roots, root ≤ last ∧ graph.Reaches last id := by
  rcases sees with ⟨earlier, last, later, rfl, roots, reaches, unreached⟩
  have sorted := graph.pairwise_roots
  rw [roots, List.pairwise_append, List.pairwise_append] at sorted
  rcases sorted with ⟨⟨_, _, earlierLt⟩, _, laterLt⟩
  rw [roots]
  constructor
  · intro member
    refine ⟨List.mem_append_left _ member, last, by simp, ?_, reaches⟩
    rcases List.mem_append.1 member with isEarlier | isLast
    · exact Nat.le_of_lt (earlierLt root isEarlier last (List.mem_singleton.2 rfl))
    · exact Nat.le_of_eq (List.mem_singleton.1 isLast)
  · rintro ⟨member, final, finalMember, isLater, finalReaches⟩
    rcases List.mem_append.1 member with inSeen | inLater
    · exact inSeen
    · rcases List.mem_append.1 finalMember with finalSeen | finalLater
      · exact absurd isLater (Nat.not_le_of_lt (laterLt final finalSeen root inLater))
      · exact absurd finalReaches (unreached final finalLater)

namespace Propagation

/-- Says that the roots `done` were visited, in order, and that whatever can be visited is behind
the last of them or on the list as one of the other roots, `ahead`. -/
structure Swept (problem : Problem) (propagation : Propagation) (done inner ahead : List NodeId) :
    Prop where
  roots_eq : problem.graph.roots = done ++ ahead
  worklist_eq : propagation.worklist = inner ++ ahead
  inner_entered : ∀ id ∈ inner, ∃ source, problem.graph.Adjacent source id
  unvisited : ∀ root ∈ ahead, propagation.property? root = none
  names_eq : propagation.names = problem.namesAfter done
  reached : ∀ {id source}, problem.graph.Adjacent source id → propagation.property? id = none →
    (∀ source, problem.graph.Adjacent source id → propagation.Passed source) →
      ∃ earlier last, done = earlier ++ [last] ∧ problem.graph.Reaches last id
  sees : ∀ {id property}, propagation.property? id = some property → ∃ node seen,
    problem.graph.node? id = some node ∧ problem.graph.Sees id seen ∧
      RunsThrough problem (problem.namesAfter seen) node property

variable {problem : Problem} {propagation next : Propagation} {id : NodeId} {node : Node}
  {done inner ahead rest : List NodeId}

theorem swept_initial (problem : Problem) :
    Swept problem (initial problem) [] [] problem.graph.roots := by
  constructor
  · rfl
  · rfl
  · intro id member
    cases member
  · intro root _
    exact property?_initial problem root
  · rfl
  · intro id source adjacent _ passed
    exact absurd (passed source adjacent) (not_passed_initial problem source)
  · intro id property visited
    rw [property?_initial] at visited
    cases visited

theorem names_visit_of_root (isRoot : problem.graph.incoming id = [])
    (known : problem.graph.node? id = some node) :
    (propagation.visit problem id node).names = problem.enter propagation.names id := by
  rw [incoming_eq known] at isRoot
  simp [visit, Problem.enter, known, isRoot]

theorem names_visit_of_entered (entered : problem.graph.incoming id ≠ [])
    (known : problem.graph.node? id = some node) :
    (propagation.visit problem id node).names = propagation.names := by
  rw [incoming_eq known] at entered
  simp [visit, entered]

/-- What was not visited reaches nothing that can be visited. -/
theorem Scheduled.not_reaches_of_unvisited (scheduled : Scheduled problem propagation)
    {root : NodeId} (unvisited : propagation.property? root = none) (apart : root ≠ id)
    (passed : ∀ source, problem.graph.Adjacent source id → propagation.Passed source) :
    ¬problem.graph.Reaches root id := by
  intro reaches
  rcases reaches.cases_tail with same | ⟨source, rootReaches, adjacent⟩
  · exact apart same.symm
  · have rootPassed : propagation.Passed root := by
      rcases reflTransGen_iff_eq_or_transGen.1 rootReaches with rfl | precedes
      · exact passed source adjacent
      · rcases passed source adjacent with ⟨property, visited, _⟩
        exact passed_of_precedes scheduled (Option.isSome_of_eq_some visited) precedes
    rcases rootPassed with ⟨property, visited, _⟩
    rw [unvisited] at visited
    cases visited

/-- A visit keeps the order if it takes place after the right roots: `entered` were visited by then,
and `left` were not. -/
theorem Swept.settle (swept : Swept problem propagation done inner ahead)
    (scheduled : Scheduled problem propagation) (wellFormed : problem.graph.WellFormed)
    (known : problem.graph.node? id = some node) (fresh : propagation.property? id = none)
    {entered others left : List NodeId} (sees : problem.graph.Sees id entered)
    (names : (propagation.visit problem id node).names = problem.namesAfter entered)
    (roots : problem.graph.roots = entered ++ left)
    (fewer : ∀ root ∈ left, root ∈ ahead ∧ root ≠ id)
    (othersEntered : ∀ other ∈ others, ∃ source, problem.graph.Adjacent source other)
    (kept : ∀ {target source}, problem.graph.Adjacent source target →
      propagation.property? target = none →
      (∀ source, problem.graph.Adjacent source target → propagation.Passed source) →
        ∃ earlier last, entered = earlier ++ [last] ∧ problem.graph.Reaches last target) :
    ∃ inner, Swept problem (propagation.settle problem id node (others ++ left)) entered inner
      left := by
  have inBounds := scheduled.inBounds known
  refine ⟨if (propagation.visit problem id node).property.isErrored then others
    else problem.graph.successors id ++ others, roots, ?_, ?_, ?_, names, ?_, ?_⟩
  · cases errored : (propagation.visit problem id node).property.isErrored <;>
      simp [Propagation.settle, errored]
  · intro other member
    split at member
    · exact othersEntered other member
    · rcases List.mem_append.1 member with isSuccessor | isOther
      · exact ⟨id, wellFormed.mem_successors.1 isSuccessor⟩
      · exact othersEntered other isOther
  · intro root member
    rcases fewer root member with ⟨wasAhead, apart⟩
    rw [property?_settle inBounds, if_neg apart]
    exact swept.unvisited root wasAhead
  · intro target source adjacent unvisited passed
    rw [property?_settle inBounds] at unvisited
    split at unvisited
    · cases unvisited
    · rcases passed_or_adjacent_of_settle inBounds fresh passed with before | ⟨leaves, _⟩
      · exact kept adjacent unvisited before
      · rcases sees with ⟨earlier, last, _, isEntered, _, reaches, _⟩
        exact ⟨earlier, last, isEntered, reaches.tail leaves⟩
  · intro other property visited
    rw [property?_settle inBounds] at visited
    split at visited
    · next same =>
      subst other
      cases visited
      refine ⟨node, entered, known, sees, ?_⟩
      rw [property_visit, names]
      exact runsThrough_nodeProperty problem _ node _
    · exact swept.sees visited

theorem Swept.mem_roots (swept : Swept problem propagation done inner ahead) {root : NodeId}
    (member : root ∈ ahead) : root ∈ problem.graph.roots := by
  rw [swept.roots_eq]
  exact List.mem_append_right _ member

theorem Swept.not_adjacent (swept : Swept problem propagation done inner ahead)
    (wellFormed : problem.graph.WellFormed) {root : NodeId} (member : root ∈ ahead)
    (source : NodeId) : ¬problem.graph.Adjacent source root :=
  (wellFormed.mem_roots.1 (swept.mem_roots member)).2 source

theorem Swept.isReady (swept : Swept problem propagation done inner ahead)
    (scheduled : Scheduled problem propagation) (wellFormed : problem.graph.WellFormed)
    (member : id ∈ ahead) (known : problem.graph.node? id = some node) :
    propagation.isReady node = true := by
  apply (scheduled.ready_iff wellFormed known).2
  intro source adjacent
  exact absurd adjacent (swept.not_adjacent wellFormed member source)

/-- When the next root is visited, nothing else can be. -/
theorem Swept.visit_root (swept : Swept problem propagation done [] (id :: ahead))
    (scheduled : Scheduled problem propagation) (wellFormed : problem.graph.WellFormed)
    (known : problem.graph.node? id = some node) (fresh : propagation.property? id = none) :
    ∃ inner, Swept problem (propagation.settle problem id node ahead) (done ++ [id]) inner
      ahead := by
  have isRoot := swept.not_adjacent wellFormed List.mem_cons_self
  have roots : problem.graph.roots = (done ++ [id]) ++ ahead := by
    rw [swept.roots_eq, List.append_assoc, List.singleton_append]
  have apart : ∀ root ∈ ahead, root ≠ id := by
    have sorted := problem.graph.pairwise_roots
    rw [swept.roots_eq, List.pairwise_append, List.pairwise_cons] at sorted
    intro root member
    exact Nat.ne_of_gt (sorted.2.1.1 root member)
  have sees : problem.graph.Sees id (done ++ [id]) := by
    refine ⟨done, id, ahead, rfl, roots, .refl, ?_⟩
    intro root member
    exact scheduled.not_reaches_of_unvisited
      (swept.unvisited root (List.mem_cons_of_mem _ member)) (apart root member)
      fun source adjacent => absurd adjacent (isRoot source)
  have names : (propagation.visit problem id node).names = problem.namesAfter (done ++ [id]) := by
    rw [names_visit_of_root (wellFormed.incoming_eq_nil_iff.2 isRoot) known, swept.names_eq,
      Problem.namesAfter_append_singleton]
  change ∃ inner, Swept problem (propagation.settle problem id node ([] ++ ahead)) _ inner ahead
  refine swept.settle scheduled wellFormed known fresh sees names roots ?_ ?_ ?_
  · intro root member
    exact ⟨List.mem_cons_of_mem _ member, apart root member⟩
  · intro other member
    cases member
  · intro target source adjacent unvisited passed
    have listed := scheduled.listed (wellFormed.target_lt_of_adjacent adjacent) unvisited passed
    rw [swept.worklist_eq] at listed
    exact absurd adjacent (swept.not_adjacent wellFormed listed source)

theorem Swept.visit_inner (swept : Swept problem propagation done (id :: inner) ahead)
    (scheduled : Scheduled problem propagation) (wellFormed : problem.graph.WellFormed)
    (known : problem.graph.node? id = some node) (fresh : propagation.property? id = none)
    (passed : ∀ source, problem.graph.Adjacent source id → propagation.Passed source) :
    ∃ others, Swept problem (propagation.settle problem id node (inner ++ ahead)) done others
      ahead := by
  rcases swept.inner_entered id List.mem_cons_self with ⟨source, adjacent⟩
  have apart : ∀ root ∈ ahead, root ≠ id := by
    rintro root member rfl
    exact swept.not_adjacent wellFormed member source adjacent
  have sees : problem.graph.Sees id done := by
    rcases swept.reached adjacent fresh passed with ⟨earlier, last, isDone, reaches⟩
    refine ⟨earlier, last, ahead, isDone, swept.roots_eq, reaches, ?_⟩
    intro root member
    exact scheduled.not_reaches_of_unvisited (swept.unvisited root member) (apart root member)
      passed
  have entered : problem.graph.incoming id ≠ [] := fun noEdge =>
    wellFormed.incoming_eq_nil_iff.1 noEdge source adjacent
  have names : (propagation.visit problem id node).names = problem.namesAfter done :=
    (names_visit_of_entered entered known).trans swept.names_eq
  refine swept.settle scheduled wellFormed known fresh sees names swept.roots_eq ?_ ?_ ?_
  · intro root member
    exact ⟨member, apart root member⟩
  · intro other member
    exact swept.inner_entered other (List.mem_cons_of_mem _ member)
  · intro target source adjacent unvisited passed
    exact swept.reached adjacent unvisited passed

theorem Swept.turn (swept : Swept problem propagation done inner ahead)
    (scheduled : Scheduled problem propagation) (wellFormed : problem.graph.WellFormed)
    (turn : Turn problem propagation next) :
    ∃ done inner ahead, Swept problem next done inner ahead := by
  have listed := swept.worklist_eq
  cases turn with
  | stay => exact ⟨done, inner, ahead, swept⟩
  | @drop id rest nextNode idle =>
      rw [nextNode] at listed
      cases inner with
      | nil =>
          -- A root that was not visited is not dropped.
          cases listed
          have inGraph := (wellFormed.mem_roots.1 (swept.mem_roots List.mem_cons_self)).1
          rcases FlowGraph.exists_node? inGraph with ⟨node, known⟩
          have unvisited := swept.unvisited id List.mem_cons_self
          have ready := swept.isReady scheduled wellFormed List.mem_cons_self known
          rcases idle node known with visited | notReady
          · rw [unvisited] at visited
            cases visited
          · rw [ready] at notReady
            cases notReady
      | cons first inner =>
          cases listed
          refine ⟨done, inner, ahead, swept.roots_eq, rfl, ?_, swept.unvisited, swept.names_eq,
            swept.reached, swept.sees⟩
          intro other member
          exact swept.inner_entered other (List.mem_cons_of_mem _ member)
  | @visit id node rest nextNode known fresh ready =>
      rw [nextNode] at listed
      cases inner with
      | nil =>
          cases listed
          rcases swept.visit_root scheduled wellFormed known fresh with ⟨inner, after⟩
          exact ⟨_, inner, _, after⟩
      | cons first inner =>
          cases listed
          have passed := (scheduled.ready_iff wellFormed known).1 ready
          rcases swept.visit_inner scheduled wellFormed known fresh passed with ⟨others, after⟩
          exact ⟨done, others, ahead, after⟩

theorem swept_final (wellFormed : problem.graph.WellFormed) :
    ∃ done inner ahead, Swept problem (final problem) done inner ahead := by
  refine final_preserves (fun propagation => ∃ done inner ahead,
    Swept problem propagation done inner ahead) wellFormed ⟨[], [], _, swept_initial problem⟩ ?_
  rintro propagation next scheduled ⟨done, inner, ahead, swept⟩ turn
  exact swept.turn scheduled wellFormed turn

/-- When all is done, all roots were entered. -/
theorem names_final (wellFormed : problem.graph.WellFormed) :
    (final problem).names = problem.namesAfter problem.graph.roots := by
  rcases swept_final wellFormed with ⟨done, inner, ahead, swept⟩
  have empty := swept.worklist_eq
  rw [worklist_final wellFormed, eq_comm, List.append_eq_nil_iff] at empty
  rw [swept.names_eq, swept.roots_eq, empty.2, List.append_nil]

/-! ### What is told about names -/

variable {slot offset : Nat} {name : String}

theorem namedLocal_mem_events_iff :
    Event.namedLocal slot offset name ∈ (propagation.visit problem id node).events ↔
      node.incoming = [] ∧ Event.namedLocal slot offset name ∈
        node.rootEvents problem.method problem.settings propagation.names id := by
  have notWarned : ∀ {environment instruction states},
      Event.namedLocal slot offset name ∉ runWarnings environment instruction states := by
    intro environment instruction states told
    have isResolution := isResolution_of_mem_runWarnings instruction told
    cases isResolution
  have notMerged :
      Event.namedLocal slot offset name ∉ propagation.mergeEvents problem.graph id := by
    intro told
    simp only [mergeEvents, List.mem_filterMap] at told
    rcases told with ⟨predecessor, _, isEvent⟩
    split at isEvent <;> cases isEvent
  constructor
  · intro told
    simp only [visit, List.mem_append] at told
    rcases told with ((arriving | warned) | visited) | abandoned
    · split at arriving
      · next isRoot => exact ⟨List.isEmpty_iff.1 isRoot, arriving⟩
      · exact absurd arriving notMerged
    · split at warned
      · cases warned
      · exact absurd warned notWarned
    · cases List.mem_singleton.1 visited
    · split at abandoned
      · cases List.mem_singleton.1 abandoned
      · cases abandoned
  · rintro ⟨isRoot, told⟩
    simp only [visit, isRoot, List.isEmpty_nil, if_true, List.mem_append, told, true_or]

/-- A visit registers the names of which it tells. -/
theorem mem_registered_visit :
    ⟨slot, offset, name⟩ ∈ (propagation.visit problem id node).names.registered ↔
      ⟨slot, offset, name⟩ ∈ propagation.names.registered ∨
        Event.namedLocal slot offset name ∈ (propagation.visit problem id node).events := by
  rw [namedLocal_mem_events_iff, Node.namedLocal_mem_rootEvents_iff]
  simp only [visit, List.isEmpty_iff]
  split
  · next isRoot => simp [isRoot, Node.mem_registered_rootNames]
  · next entered => simp [entered]

theorem namedLocal_mem_log_iff (wellFormed : problem.graph.WellFormed) :
    Event.namedLocal slot offset name ∈ (final problem).log.toList ↔
      ⟨slot, offset, name⟩ ∈ (final problem).names.registered := by
  refine final_preserves (fun propagation =>
    Event.namedLocal slot offset name ∈ propagation.log.toList ↔
      ⟨slot, offset, name⟩ ∈ propagation.names.registered) wellFormed ?_ ?_
  · simp [initial]
  · intro propagation next scheduled told turn
    cases turn with
    | stay => exact told
    | drop => exact told
    | visit =>
        simp only [settle, Array.toList_append, List.mem_append, told, mem_registered_visit]

end Propagation

/-! ### Loads -/

/-- Says that a slot is named in time for a node, at an offset up to the given one: at a root that
comes no later than some root from which the node is reached. -/
def Problem.NamedInTime (problem : Problem) (id : NodeId) (slot offset : Nat) : Prop :=
  ∃ root ∈ problem.graph.roots, (∃ start ≤ offset, problem.Names root slot start) ∧
    ∃ last ∈ problem.graph.roots, root ≤ last ∧ problem.graph.Reaches last id

section Loads

variable {problem : Problem} {id : NodeId} {seen : List NodeId} {instruction : Instruction}
  {slot : Nat}

theorem Problem.namedInTime_iff {offset : Nat} (sees : problem.graph.Sees id seen) :
    problem.NamedInTime id slot offset ↔
      ∃ root ∈ seen, ∃ start ≤ offset, problem.Names root slot start := by
  simp only [NamedInTime, sees.mem_iff]
  constructor
  · rintro ⟨root, isRoot, isNamed, reached⟩
    exact ⟨root, ⟨isRoot, reached⟩, isNamed⟩
  · rintro ⟨root, ⟨isRoot, reached⟩, isNamed⟩
    exact ⟨root, isRoot, isNamed, reached⟩

theorem Problem.loadedName_of_sees (sees : problem.graph.Sees id seen)
    (isSlot : instruction.localIndex = .ok slot)
    (unresolved : problem.method.locals.resolve? slot instruction.offset = none) :
    (problem.NamedInTime id slot instruction.offset →
      instruction.loadedName (problem.environment (problem.namesAfter seen)) = anyException) ∧
    (¬problem.NamedInTime id slot instruction.offset →
      instruction.loadedName (problem.environment (problem.namesAfter seen)) =
        s!"local{slot}") := by
  rw [problem.namedInTime_iff sees]
  have loaded := problem.loadName?_namesAfter seen unresolved
  constructor
  · intro isNamed
    simp only [Instruction.loadedName, isSlot, environment, loaded.1 isNamed, Option.getD_some]
  · intro unnamed
    simp only [Instruction.loadedName, isSlot, environment, loaded.2 unnamed, Option.getD_none]

theorem anyException_ne_local (slot : Nat) : anyException ≠ s!"local{slot}" := by
  intro same
  change "<any exception>" = "local" ++ toString slot at same
  have first := congrArg (fun text : String => text.toList.head?) same
  simp at first

theorem StackState.top_eq_of_push {left right : StackState} {first second : Entry}
    (same : left.push first = right.push second) : first = second := by
  have sameTop := congrArg (fun state => state.toList.getLast?) same
  simpa using sameTop

theorem interpret_load {environment : Environment} {kind : LocalKind} {form : Option (Fin 4)}
    (isLoad : instruction.opcode = .load kind form) (state : StackState) :
    interpret environment instruction state = .ok (state.push
      (.make (some instruction.offset) kind.valueType (instruction.loadedName environment))) := by
  rw [interpret, Instruction.effect, isLoad]
  rfl

/-- A load pushes the same entry onto every state. -/
theorem Propagation.exists_pushed_of_load (wellFormed : problem.graph.WellFormed)
    {property : StackProperty} {node : Node} {kind : LocalKind} {form : Option (Fin 4)}
    (visited : (final problem).property? id = some property) (passed : property.isErrored = false)
    (known : problem.graph.node? id = some node)
    (hasInstruction : problem.method.instruction? node.instruction = some instruction)
    (isLoad : instruction.opcode = .load kind form) :
    ∃ seen, problem.graph.Sees id seen ∧ ∀ state ∈ property.statesAfter.states,
      ∃ before ∈ property.statesBefore.states, state = before.push
        (.make (some instruction.offset) kind.valueType
          (instruction.loadedName (problem.environment (problem.namesAfter seen)))) := by
  rcases swept_final wellFormed with ⟨_, _, _, swept⟩
  rcases swept.sees visited with ⟨found, seen, foundKnown, sees, runs⟩
  rw [known, Option.some.injEq] at foundKnown
  subst found
  refine ⟨seen, sees, ?_⟩
  intro state member
  rcases (runs.after passed).sound state member with ⟨before, stored, ran⟩
  rw [Node.run, hasInstruction] at ran
  dsimp only at ran
  rw [interpret_load isLoad, Except.ok.injEq] at ran
  exact ⟨before, stored, ran.symm⟩

end Loads

/-- A load for which the table has no name pushes the handler's name exactly if the slot is named in
time; otherwise it pushes the number of the slot, even if the slot is named at an earlier offset. -/
theorem analyze_handlerLocals_inTime {method : Method} {graph rest : FlowGraph}
    {finder : BackEdgeFinder} {settings : Settings} {analysis : Analysis} {id : NodeId}
    {property : StackProperty} {node : Node} {instruction : Instruction} {kind : LocalKind}
    {form : Option (Fin 4)} {slot : Nat} (built : graph.Built)
    (analyzed : analyze method graph finder settings = .ok (analysis, rest))
    (visited : analysis.property? id = some property) (passed : property.isErrored = false)
    (known : rest.node? id = some node)
    (hasInstruction : method.instruction? node.instruction = some instruction)
    (isLoad : instruction.opcode = .load kind form) (isSlot : instruction.localIndex = .ok slot)
    (unresolved : method.locals.resolve? slot instruction.offset = none) :
    (∀ start name, Event.namedLocal slot start name ∈ analysis.log ↔
      name = anyException ∧
        ∃ root ∈ rest.roots, Problem.Names ⟨method, rest, settings⟩ root slot start) ∧
    ((∀ state ∈ property.statesAfter.states, ∃ before ∈ property.statesBefore.states,
        state = before.push (.make (some instruction.offset) kind.valueType anyException)) ↔
      Problem.NamedInTime ⟨method, rest, settings⟩ id slot instruction.offset) ∧
    (¬Problem.NamedInTime ⟨method, rest, settings⟩ id slot instruction.offset →
      ∀ state ∈ property.statesAfter.states, ∃ before ∈ property.statesBefore.states,
        state = before.push (.make (some instruction.offset) kind.valueType s!"local{slot}")) := by
  let problem : Problem := ⟨method, rest, settings⟩
  have wellFormed : problem.graph.WellFormed := wellFormed_of_analyze built analyzed
  have records := (eq_of_analyze analyzed).2.1
  rw [records.property?] at visited
  rcases Propagation.exists_pushed_of_load wellFormed visited passed known hasInstruction isLoad
    with ⟨seen, sees, pushed⟩
  rcases Problem.loadedName_of_sees sees isSlot unresolved with ⟨named, unnamed⟩
  have given := Propagation.statesBefore_ne_nil wellFormed visited
  have givenAfter := Propagation.statesAfter_ne_nil_of_statesBefore wellFormed visited passed given
  refine ⟨?_, ⟨?_, ?_⟩, ?_⟩
  · intro start name
    rw [records.told (by simp [Event.level]), Propagation.namedLocal_mem_log_iff wellFormed,
      Propagation.names_final wellFormed, Problem.mem_registered_namesAfter]
  · intro allNamed
    by_contra late
    rcases List.exists_mem_of_ne_nil _ givenAfter with ⟨state, member⟩
    rcases allNamed state member with ⟨before, _, isNamed⟩
    rcases pushed state member with ⟨other, _, isUnnamed⟩
    rw [unnamed late, isNamed] at isUnnamed
    exact anyException_ne_local slot (congrArg Entry.value (StackState.top_eq_of_push isUnnamed))
  · intro inTime state member
    rw [← named inTime]
    exact pushed state member
  · intro late state member
    rw [← unnamed late]
    exact pushed state member

/-- A method with two handlers. The second one loads what the first one stores. -/
def sharedSlot : Method :=
  { instructions := #[{ offset := 0, opcode := .returnVoid },
      { offset := 1, opcode := .store .reference none, operands := [1] },
      { offset := 3, opcode := .returnVoid }, { offset := 4, opcode := .pop },
      { offset := 5, opcode := .load .reference none, operands := [1] },
      { offset := 7, opcode := .returnValue .reference }]
    handlers := [⟨0, 1, 1, 0⟩, ⟨0, 1, 4, 0⟩] }

/-- The entry and the two handlers, apart from each other. -/
def apartHandlers : FlowGraph :=
  .ofCalls [.addInstructionNodes sharedSlot, .addEdge 1 2, .addEdge 3 4, .addEdge 4 5]

theorem analyze_handlerLocals_inTime_apartHandlers :
    apartHandlers.Built ∧ ∃ analysis rest property,
      analyze sharedSlot apartHandlers FlowGraph.depthFirstBackEdges {} = .ok (analysis, rest) ∧
        analysis.property? 4 = some property ∧
        Event.namedLocal 1 1 anyException ∈ analysis.log ∧
        ∀ state ∈ property.statesAfter.states, ∃ before ∈ property.statesBefore.states,
          state = before.push (.make (some 5) .reference anyException) := by
  have built : apartHandlers.Built := ⟨_, rfl⟩
  have valid : apartHandlers.validate sharedSlot = .ok () := by decide +kernel
  rcases analyze_of_valid valid FlowGraph.depthFirstBackEdges {} with ⟨analysis, analyzed, _⟩
  have passes : ((analyze sharedSlot apartHandlers FlowGraph.depthFirstBackEdges
      {}).toOption.bind fun result => result.1.property? 4).map StackProperty.isErrored =
        some false := by
    decide +kernel
  simp only [analyzed, Except.toOption, Option.bind_some, Option.map_eq_some_iff] at passes
  rcases passes with ⟨property, visited, passed⟩
  have names : ∃ node, (apartHandlers.removeBackEdges FlowGraph.depthFirstBackEdges).2.node? 1 =
      some node ∧ node.handlerLocal? sharedSlot {} { table := [] } = some (1, 1) :=
    ⟨_, rfl, by decide +kernel⟩
  have isSlot : Instruction.localIndex
      { offset := 5, opcode := .load .reference none, operands := [1] } = .ok 1 := rfl
  rcases analyze_handlerLocals_inTime built analyzed visited passed rfl rfl rfl isSlot rfl with
    ⟨told, inTime, _⟩
  refine ⟨built, analysis, _, property, analyzed, visited, (told 1 _).2 ?_, inTime.2 ?_⟩
  · exact ⟨rfl, 1, by decide +kernel, names⟩
  · refine ⟨1, by decide +kernel, ⟨1, by decide, names⟩, 3, by decide +kernel, by decide, ?_⟩
    exact .single ⟨1, by decide +kernel⟩

/-- A method that catches an exception on its way into a loop and loads it there. -/
def caughtBeforeLoop : Method :=
  { instructions := #[{ offset := 0, opcode := .nullConst },
      { offset := 1, opcode := .store .reference none, operands := [1] },
      { offset := 3, opcode := .goto, operands := [0, 8] },
      { offset := 6, opcode := .store .reference none, operands := [1] },
      { offset := 8, opcode := .goto, operands := [0, 3] },
      { offset := 11, opcode := .load .reference none, operands := [1] },
      { offset := 13, opcode := .ifNull, operands := [255, 251] },
      { offset := 16, opcode := .returnVoid }]
    handlers := [⟨0, 6, 6, 0⟩]
    maxStack := 1 }

/-- A loop that is entered at the load, and from the handler behind it. -/
def enteredTwice : FlowGraph :=
  .ofCalls [.addInstructionNodes caughtBeforeLoop, .addEdge 0 1, .addEdge 1 2, .addEdge 2 5,
    .addEdge 3 4, .addEdge 4 5, .addEdge 5 6, .addEdge 6 4, .addEdge 6 7]

/-- A load may be visited too early. The handler stores into the slot at offset six and leads to the
load at offset eleven, but by an edge that is taken out because it closes a loop. -/
theorem analyze_handlerLocals_tooLate :
    enteredTwice.Adjacent 3 4 ∧ enteredTwice.Adjacent 4 5 ∧
      (enteredTwice.node? 5).bind (caughtBeforeLoop.instruction? ·.instruction) =
        some { offset := 11, opcode := .load .reference none, operands := [1] } ∧
      caughtBeforeLoop.locals.resolve? 1 11 = none ∧
      ∃ analysis rest property,
        analyze caughtBeforeLoop enteredTwice FlowGraph.depthFirstBackEdges {} =
            .ok (analysis, rest) ∧
          Event.namedLocal 1 6 anyException ∈ analysis.log ∧
          analysis.property? 5 = some property ∧ property.isErrored = false ∧
          property.statesAfter.states.map StackState.toList =
            [[.make (some 11) .reference "local1"]] := by
  have valid : enteredTwice.validate caughtBeforeLoop = .ok () := by decide +kernel
  rcases analyze_of_valid valid FlowGraph.depthFirstBackEdges {} with ⟨analysis, analyzed, _⟩
  have told : ((analyze caughtBeforeLoop enteredTwice FlowGraph.depthFirstBackEdges
      {}).toOption.map fun result => decide (.namedLocal 1 6 anyException ∈ result.1.log)) =
        some true := by
    decide +kernel
  have loaded : ((analyze caughtBeforeLoop enteredTwice FlowGraph.depthFirstBackEdges
      {}).toOption.bind fun result => result.1.property? 5).map (fun property =>
        (property.isErrored, property.statesAfter.states.map StackState.toList)) =
      some (false, [[.make (some 11) .reference "local1"]]) := by
    decide +kernel
  simp only [analyzed, Except.toOption, Option.map_some, Option.some.injEq,
    decide_eq_true_eq] at told
  simp only [analyzed, Except.toOption, Option.bind_some, Option.map_eq_some_iff,
    Prod.mk.injEq] at loaded
  rcases loaded with ⟨property, visited, passed, states⟩
  exact ⟨⟨3, by decide +kernel⟩, ⟨4, by decide +kernel⟩, by decide +kernel, rfl, analysis, _,
    property, analyzed, told, visited, passed, states⟩

end StackFlow
