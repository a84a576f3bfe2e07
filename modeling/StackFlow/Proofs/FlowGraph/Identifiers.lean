import Mathlib.Data.List.Induction
import StackFlow.Proofs.FlowGraph.Calls

/-!
# Numbers of edges

A number that a call gave to an edge stands for that edge until the edge is removed, and for nothing
afterwards: the slot of an edge is never filled again, and new edges get new slots. Together with
well-formedness this is all that holds of the graphs that calls make. A call that fails says what is
unknown to the graph and changes nothing.
-/

namespace StackFlow

namespace FlowGraph

variable {graph result : FlowGraph} {source target : NodeId} {id : EdgeId}

/-! ### One call -/

/-- No call takes slots away. -/
theorem size_le_size_perform (graph : FlowGraph) (call : GraphCall) :
    graph.edges.size ≤ (call.perform graph).edges.size := by
  cases call with
  | addNode offset mnemonic kind instruction => exact Nat.le_refl _
  | addInstructionNodes method => exact Nat.le_refl _
  | addEdge source target =>
      rcases perform_addEdge_cases graph source target with ⟨id, added⟩ | unchanged
      · rcases addEdge_eq_ok_iff.1 added with ⟨_, _, _, isResult⟩
        simp [isResult, withEdge]
      · simp [unchanged]
  | removeEdge id =>
      cases known : graph.edge? id with
      | none => simp [perform_removeEdge_of_none known]
      | some edge => simp [perform_removeEdge_of_some known, eraseEdge]

/-- A call changes what a number stands for only if it removes it, or gives it out. -/
theorem edge?_perform_of_ne {call : GraphCall} (given : id < graph.edges.size)
    (other : call ≠ .removeEdge id) : (call.perform graph).edge? id = graph.edge? id := by
  cases call with
  | addNode offset mnemonic kind instruction => rfl
  | addInstructionNodes method => rfl
  | addEdge source target =>
      rcases perform_addEdge_cases graph source target with ⟨next, added⟩ | unchanged
      · rcases addEdge_eq_ok_iff.1 added with ⟨_, _, isNew, _⟩
        rw [edge?_of_addEdge added, if_neg]
        rw [isNew]
        exact Nat.ne_of_lt given
      · rw [unchanged]
  | removeEdge removedId =>
      cases known : graph.edge? removedId with
      | none => rw [perform_removeEdge_of_none known]
      | some edge =>
          rw [perform_removeEdge_of_some known, edge?_eraseEdge, if_neg]
          rintro rfl
          exact other rfl

theorem edge?_perform_removeEdge (graph : FlowGraph) (id : EdgeId) :
    ((GraphCall.removeEdge id).perform graph).edge? id = none := by
  cases known : graph.edge? id with
  | none => rw [perform_removeEdge_of_none known, known]
  | some edge => rw [perform_removeEdge_of_some known, edge?_eraseEdge, if_pos rfl]

/-- An addition that fails names the first end that the graph does not have, and nothing was changed
before it failed. -/
theorem runOn_addEdgeInPlace_eq_error_iff {error : Error} :
    (addEdgeInPlace source target).runOn graph = (.error error, result) ↔
      (graph.nodeCount ≤ source ∧ error = .unknownNode source ∨
        source < graph.nodeCount ∧ graph.nodeCount ≤ target ∧ error = .unknownNode target) ∧
      result = graph := by
  rw [runOn_addEdgeInPlace]
  split
  · next unknown => simp [unknown, Nat.not_lt.2 unknown, eq_comm]
  · next known =>
    split
    · next unknown => simp [known, unknown, Nat.lt_of_not_le known, eq_comm]
    · next targetKnown => simp [known, targetKnown]

/-- A removal that fails has looked into a slot without an edge, which it left empty. -/
theorem runOn_removeEdgeInPlace_eq_error_iff {error : Error} :
    (removeEdgeInPlace id).runOn graph = (.error error, result) ↔
      graph.edge? id = none ∧ error = .unknownEdge id ∧ result = graph := by
  cases known : graph.edge? id with
  | none => simp [runOn_removeEdgeInPlace_of_none known, eq_comm]
  | some edge => simp [runOn_removeEdgeInPlace_of_some known]

/-! ### Many calls -/

theorem ofCalls_append (calls later : List GraphCall) :
    ofCalls (calls ++ later) = later.foldl (fun graph call => call.perform graph) (ofCalls calls) :=
  List.foldl_append

theorem ofCalls_snoc (calls : List GraphCall) (call : GraphCall) :
    ofCalls (calls ++ [call]) = call.perform (ofCalls calls) :=
  ofCalls_append calls [call]

theorem size_le_size_ofCalls (calls later : List GraphCall) :
    (ofCalls calls).edges.size ≤ (ofCalls (calls ++ later)).edges.size := by
  induction later using List.reverseRecOn with
  | nil => simp
  | append_singleton later call ih =>
      rw [← List.append_assoc, ofCalls_snoc]
      exact Nat.le_trans ih (size_le_size_perform _ call)

/-- A number that was given out stands for the same as before until it is removed. -/
theorem edge?_ofCalls_of_notMem {calls later : List GraphCall}
    (given : id < (ofCalls calls).edges.size) (kept : .removeEdge id ∉ later) :
    (ofCalls (calls ++ later)).edge? id = (ofCalls calls).edge? id := by
  induction later using List.reverseRecOn with
  | nil => simp
  | append_singleton later call ih =>
      rw [List.mem_append, not_or, List.mem_singleton] at kept
      have stillGiven := Nat.lt_of_lt_of_le given (size_le_size_ofCalls calls later)
      rw [← List.append_assoc, ofCalls_snoc, edge?_perform_of_ne stillGiven (Ne.symm kept.2),
        ih kept.1]

/-- A number that was removed stands for nothing from then on. -/
theorem edge?_ofCalls_of_mem {calls later : List GraphCall}
    (given : id < (ofCalls calls).edges.size) (removed : .removeEdge id ∈ later) :
    (ofCalls (calls ++ later)).edge? id = none := by
  induction later using List.reverseRecOn with
  | nil => cases removed
  | append_singleton later call ih =>
      rw [← List.append_assoc, ofCalls_snoc]
      by_cases isRemoval : call = .removeEdge id
      · rw [isRemoval, edge?_perform_removeEdge]
      · have earlier : .removeEdge id ∈ later := by
          rcases List.mem_append.1 removed with earlier | last
          · exact earlier
          · exact absurd (List.mem_singleton.1 last).symm isRemoval
        have stillGiven := Nat.lt_of_lt_of_le given (size_le_size_ofCalls calls later)
        rw [edge?_perform_of_ne stillGiven isRemoval, ih earlier]

/-- Graphs that calls make, in whatever order and whether or not some of them fail, keep their edges
in three places that agree. The number of an added edge is new, stands for that edge until a call
removes it and for nothing afterwards, and no later edge gets it. A call that fails names what is
unknown and leaves the graph as it was. -/
theorem ofCalls_representation (calls : List GraphCall) :
    (ofCalls calls).WellFormed ∧
    (∀ source target id result, (ofCalls calls).addEdge source target = .ok (id, result) →
      (ofCalls calls).edge? id = none ∧
      ∀ later graph, graph = ofCalls (calls ++ .addEdge source target :: later) →
        (.removeEdge id ∉ later → graph.edge? id = some ⟨source, target⟩) ∧
        (.removeEdge id ∈ later →
          graph.edge? id = none ∧ graph.removeEdge id = .error (.unknownEdge id)) ∧
        ∀ nextSource nextTarget next nextResult,
          graph.addEdge nextSource nextTarget = .ok (next, nextResult) → next ≠ id) ∧
    (∀ source target error after,
      (addEdgeInPlace source target).runOn (ofCalls calls) = (.error error, after) →
      ((ofCalls calls).nodeCount ≤ source ∧ error = .unknownNode source ∨
        source < (ofCalls calls).nodeCount ∧ (ofCalls calls).nodeCount ≤ target ∧
          error = .unknownNode target) ∧
      after = ofCalls calls ∧ ofCalls (calls ++ [.addEdge source target]) = ofCalls calls) ∧
    ∀ id error after, (removeEdgeInPlace id).runOn (ofCalls calls) = (.error error, after) →
      (ofCalls calls).edge? id = none ∧ error = .unknownEdge id ∧
      after = ofCalls calls ∧ ofCalls (calls ++ [.removeEdge id]) = ofCalls calls := by
  refine ⟨Built.wellFormed ⟨calls, rfl⟩, ?_, ?_, ?_⟩
  · intro source target id result added
    rcases addEdge_eq_ok_iff.1 added with ⟨_, _, isNew, _⟩
    have unused : (ofCalls calls).edge? id = none := by
      rw [isNew, edge?, Array.getElem?_eq_none (Nat.le_refl _)]
      rfl
    have performed : ofCalls (calls ++ [.addEdge source target]) = result := by
      rw [ofCalls_snoc, perform_addEdge_of_ok added]
    have known : result.edge? id = some ⟨source, target⟩ := by
      rw [edge?_of_addEdge added, if_pos rfl]
    have given := lt_size_of_edge? known
    rw [← performed] at known given
    refine ⟨unused, ?_⟩
    rintro later graph rfl
    rw [List.append_cons]
    refine ⟨?_, ?_, ?_⟩
    · intro kept
      rw [edge?_ofCalls_of_notMem given kept, known]
    · intro removed
      have gone := edge?_ofCalls_of_mem given removed
      exact ⟨gone, removeEdge_of_none gone⟩
    · rintro nextSource nextTarget next nextResult nextAdded rfl
      rcases addEdge_eq_ok_iff.1 nextAdded with ⟨_, _, nextIsNew, _⟩
      have grown := size_le_size_ofCalls (calls ++ [.addEdge source target]) later
      rw [← nextIsNew] at grown
      exact Nat.not_lt.2 grown given
  · intro source target error after failed
    rcases runOn_addEdgeInPlace_eq_error_iff.1 failed with ⟨unknown, unchanged⟩
    refine ⟨unknown, unchanged, ?_⟩
    rw [ofCalls_snoc, GraphCall.perform, failed, unchanged]
  · intro id error after failed
    rcases runOn_removeEdgeInPlace_eq_error_iff.1 failed with ⟨absent, unknown, unchanged⟩
    refine ⟨absent, unknown, unchanged, ?_⟩
    rw [ofCalls_snoc, GraphCall.perform, failed, unchanged]

/-- Two parallel edges and a loop, one of the edges removed twice, and an edge to a node that is not
there. -/
def loopAndParallels : List GraphCall :=
  [.addNode 0 "start" .start none, .addNode 1 "exit" .exit none, .addEdge 0 1, .addEdge 0 0,
    .addEdge 0 1, .removeEdge 0, .removeEdge 0, .addEdge 1 9]

theorem ofCalls_representation_loopAndParallels :
    (∃ result, (ofCalls loopAndParallels).addEdge 1 0 = .ok (3, result)) ∧
    (ofCalls (loopAndParallels ++ [.addEdge 1 0, .removeEdge 1, .addEdge 1 1])).edge? 3 =
      some ⟨1, 0⟩ ∧
    (ofCalls (loopAndParallels ++ [.addEdge 1 0, .removeEdge 3, .addEdge 1 1])).removeEdge 3 =
      .error (.unknownEdge 3) ∧
    ((addEdgeInPlace 1 9).runOn (ofCalls loopAndParallels)).1 = .error (.unknownNode 9) ∧
    ((addEdgeInPlace 1 9).runOn (ofCalls loopAndParallels)).2 = ofCalls loopAndParallels ∧
    ((removeEdgeInPlace 0).runOn (ofCalls loopAndParallels)).1 = .error (.unknownEdge 0) ∧
    ((removeEdgeInPlace 0).runOn (ofCalls loopAndParallels)).2 = ofCalls loopAndParallels ∧
    ofCalls (loopAndParallels ++ [.removeEdge 0]) = ofCalls loopAndParallels := by
  have added : ∃ result, (ofCalls loopAndParallels).addEdge 1 0 = .ok (3, result) :=
    ⟨_, rfl⟩
  have unknownNode :
      ((addEdgeInPlace 1 9).runOn (ofCalls loopAndParallels)).1 = .error (.unknownNode 9) := by
    decide +kernel
  have unknownEdge :
      ((removeEdgeInPlace 0).runOn (ofCalls loopAndParallels)).1 = .error (.unknownEdge 0) := by
    decide +kernel
  rcases ofCalls_representation loopAndParallels with ⟨_, lifetime, additions, removals⟩
  rcases added with ⟨result, isAdded⟩
  rcases lifetime 1 0 3 result isAdded with ⟨_, later⟩
  rcases additions 1 9 _ _ (Prod.ext unknownNode rfl) with ⟨_, added, _⟩
  rcases removals 0 _ _ (Prod.ext unknownEdge rfl) with ⟨_, _, removed, performed⟩
  refine ⟨⟨result, isAdded⟩, ?_, ?_, unknownNode, added, unknownEdge, removed, performed⟩
  · exact (later [.removeEdge 1, .addEdge 1 1] _ rfl).1 (by simp)
  · exact ((later [.removeEdge 3, .addEdge 1 1] _ rfl).2.1 (by simp)).2

end FlowGraph

end StackFlow
