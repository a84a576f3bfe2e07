import Mathlib.Data.List.Nodup
import StackFlow.Proofs.Distinct
import StackFlow.Proofs.Stack.StateSet

/-!
# State sets as records of what was inserted

A set keeps states beside the places of their signatures and replaces a state in place when another
with its signature comes in. `LastWins` ties the data of a set to the list of all states that were
inserted into it: the places are in step with the states, the signatures stand in the order in which
they first came, and the state of each is the one that came last. Each insertion keeps this, so every
sequence of calls does. The calls work on plain data, which nothing but what they do keeps in order.
-/

namespace StackFlow

namespace StateSet

/-- A call that fills a set. Collecting states begins a new set. -/
inductive Call where
  | insert (state : StackState)
  | extend (states : List StackState)
  | collect (states : List StackState)

namespace Call

/-- The data after a call. -/
def perform (data : Raw) : Call → Raw
  | .insert state => (data.insert state).2
  | .extend states => data.extend states
  | .collect states => ({} : Raw).extend states

/-- What was inserted into the set after a call, given what was inserted before. -/
def record (inserted : List StackState) : Call → List StackState
  | .insert state => inserted ++ [state]
  | .extend states => inserted ++ states
  | .collect states => states

end Call

/-- All states that calls insert into their set, in order. -/
def insertions (calls : List Call) : List StackState := calls.foldl Call.record []

namespace Raw

/-- The data of a set after some calls. -/
def ofCalls (calls : List Call) : Raw := calls.foldl Call.perform {}

/-- Says that places are in step with states, and that the data hold the signatures of what was
inserted in the order in which they first came, each with the state that came last. -/
structure LastWins (data : Raw) (inserted : List StackState) : Prop where
  inStep : data.InStep
  order : data.states.map StackState.signature = (inserted.map StackState.signature).eraseDups
  last : ∀ state ∈ data.states,
    inserted.reverse.find? (·.signature == state.signature) = some state

variable {data : Raw} {inserted : List StackState} {state : StackState}

/-- An insertion says that a state is new, and makes room for it, exactly if its signature is not
there. -/
theorem InStep.insert_isNew (inStep : data.InStep) (state : StackState) :
    ((data.insert state).1 = true ↔
      state.signature ∉ data.states.map StackState.signature) ∧
    (data.insert state).2.states.length = data.states.length + (data.insert state).1.toNat := by
  rw [← inStep.position?_eq_none_iff]
  cases found : data.position? state.signature with
  | some position => simp [insert_of_position? found]
  | none => simp [insert_of_absent found]

namespace LastWins

theorem mem_signatures_iff (lastWins : data.LastWins inserted) {signature : String} :
    signature ∈ data.states.map StackState.signature ↔
      ∃ earlier ∈ inserted, earlier.signature = signature := by
  rw [lastWins.order, List.mem_eraseDups, List.mem_map]

theorem insert (lastWins : data.LastWins inserted) (state : StackState) :
    (data.insert state).2.LastWins (inserted ++ [state]) := by
  refine ⟨lastWins.inStep.insert state, ?_, ?_⟩
  · rw [lastWins.inStep.signatures_insert, List.map_append, List.map_singleton,
      eraseDups_append_singleton, lastWins.order]
    simp only [List.mem_eraseDups]
  · intro other member
    rw [List.reverse_append, List.reverse_singleton, List.singleton_append, List.find?_cons]
    rcases lastWins.inStep.mem_insert.1 member with rfl | ⟨kept, differs⟩
    · simp
    · have skipped : (state.signature == other.signature) = false := by
        simpa using Ne.symm differs
      simp [skipped, lastWins.last other kept]

theorem extend (lastWins : data.LastWins inserted) (states : List StackState) :
    (data.extend states).LastWins (inserted ++ states) := by
  induction states generalizing data inserted with
  | nil => simpa [Raw.extend] using lastWins
  | cons state states ih => simpa [Raw.extend] using ih (lastWins.insert state)

theorem empty : ({} : Raw).LastWins [] :=
  ⟨.empty, rfl, fun _ member => absurd member List.not_mem_nil⟩

theorem perform (lastWins : data.LastWins inserted) (call : Call) :
    (call.perform data).LastWins (call.record inserted) := by
  cases call with
  | insert state => exact lastWins.insert state
  | extend states => exact lastWins.extend states
  | collect states => exact empty.extend states

end LastWins

theorem lastWins_ofCalls (calls : List Call) : (ofCalls calls).LastWins (insertions calls) := by
  suffices kept : ∀ data inserted, data.LastWins inserted →
      (calls.foldl Call.perform data).LastWins (calls.foldl Call.record inserted) from
    kept {} [] .empty
  induction calls with
  | nil => exact fun data inserted lastWins => lastWins
  | cons call calls ih => exact fun data inserted lastWins => ih _ _ (lastWins.perform call)

/-- However a set is filled, a place is noted exactly for the signatures of its states, and it is the
place of the state; no signature occurs twice. The states stand in the order in which their
signatures first came in, and each is the last that was inserted with its signature, down to the
producers of its entries. An insertion adds to the set, and says so, exactly if no state with the
signature was inserted before; a state is contained exactly if one with its signature was. -/
theorem ofCalls_lastWins (calls : List Call) :
    (∀ signature position, (ofCalls calls).positions.lookup signature = some position ↔
      ∃ state, (ofCalls calls).states[position]? = some state ∧ state.signature = signature) ∧
    ((ofCalls calls).positions.map Prod.fst).Nodup ∧
    ((ofCalls calls).states.map StackState.signature).Nodup ∧
    (ofCalls calls).states.map StackState.signature =
      ((insertions calls).map StackState.signature).eraseDups ∧
    (∀ state ∈ (ofCalls calls).states,
      (insertions calls).reverse.find? (·.signature == state.signature) = some state) ∧
    ∀ state,
      (((ofCalls calls).insert state).1 = true ↔
        ∀ earlier ∈ insertions calls, earlier.signature ≠ state.signature) ∧
      ((ofCalls calls).insert state).2.states.length =
        (ofCalls calls).states.length + ((ofCalls calls).insert state).1.toNat ∧
      ((ofCalls calls).contains state = true ↔
        ∃ earlier ∈ insertions calls, earlier.signature = state.signature) := by
  have lastWins := lastWins_ofCalls calls
  have inStep := lastWins.inStep
  refine ⟨fun signature position => inStep.position?_eq_some_iff, inStep.nodup,
    inStep.nodup_signatures, lastWins.order, lastWins.last, ?_⟩
  intro state
  rcases inStep.insert_isNew state with ⟨isNew, length⟩
  refine ⟨?_, length, ?_⟩
  · rw [isNew, lastWins.mem_signatures_iff]
    simp
  · rw [inStep.contains_iff, lastWins.mem_signatures_iff]

/-- The stack of a value that an instruction loaded. -/
def loadedBy (producer : Nat) (value : String) : StackState :=
  .ofList [.make (some producer) .int value]

/-- Calls that begin a new set, load a value of it again and then another one. -/
def reloading : List Call :=
  [.insert (loadedBy 9 "w"), .collect [loadedBy 0 "x", loadedBy 1 "y"], .extend [loadedBy 2 "x"],
    .insert (loadedBy 3 "z")]

theorem ofCalls_lastWins_reloading :
    ∃ state ∈ (ofCalls reloading).states, state = loadedBy 2 "x" ∧
      (insertions reloading).reverse.find? (·.signature == "[I:\"x\"]") = some state ∧
      (ofCalls reloading).positions = [("[I:\"z\"]", 2), ("[I:\"y\"]", 1), ("[I:\"x\"]", 0)] ∧
      (ofCalls reloading).positions.lookup "[I:\"x\"]" = some 0 ∧
      ((ofCalls reloading).insert (loadedBy 9 "w")).1 = true ∧
      (ofCalls reloading).contains (loadedBy 4 "y") = true := by
  rcases ofCalls_lastWins reloading with ⟨positions, _, _, _, last, answers⟩
  have first : ((ofCalls reloading).states[0]?).map StackState.toList =
      some [.make (some 2) .int "x"] := by
    decide +kernel
  rcases Option.map_eq_some_iff.1 first with ⟨state, known, entries⟩
  have isState : state = loadedBy 2 "x" :=
    StackState.eq_of_toList_eq (entries.trans (StackState.toList_ofList _).symm)
  have signature : state.signature = "[I:\"x\"]" := by
    rw [isState]
    decide +kernel
  have member := List.mem_of_getElem? known
  refine ⟨state, member, isState, ?_, by decide +kernel,
    (positions _ 0).2 ⟨state, known, signature⟩, ?_, ?_⟩
  · rw [← signature]
    exact last state member
  · exact (answers _).1.2 (by decide +kernel)
  · exact (answers _).2.2.2 ⟨loadedBy 1 "y", by simp [insertions, reloading, Call.record],
      by decide +kernel⟩

end Raw

end StateSet

end StackFlow
