import StackFlow.Stack.State

/-!
# Sets of stack states

A state set holds at most one state for each signature, in the order in which the signatures first
came in. A state whose signature is already there takes the place of the state that had it. The
place of each signature is noted beside the states, so that none of them has to be searched.

The notes are data of their own and are trusted by look-ups and insertions. That they agree with the
states (`StateSet.Raw.InStep`) is kept by each insertion and is part of the type of sets.
-/

namespace StackFlow

/-- The data of a set of states. -/
structure StateSet.Raw where
  states : List StackState := []
  /-- The places of the states by signature, newest first. -/
  positions : List (String × Nat) := []

namespace StateSet.Raw

/-- The place that is noted for a signature. -/
def position? (data : Raw) (signature : String) : Option Nat := data.positions.lookup signature

/-- Whether a place is noted for the signature of a state. -/
def contains (data : Raw) (state : StackState) : Bool :=
  (data.position? state.signature).isSome

/-- Adds a state and says whether its signature is new. A state with a signature that is not new
replaces the one at the place that is noted. -/
def insert (data : Raw) (state : StackState) : Bool × Raw :=
  match data.position? state.signature with
  | some position => (false, { data with states := data.states.set position state })
  | none =>
    (true,
      { states := data.states ++ [state]
        positions := (state.signature, data.states.length) :: data.positions })

/-- Adds states in order. -/
def extend (data : Raw) (states : List StackState) : Raw :=
  states.foldl (fun data state => (data.insert state).2) data

/-- The places of states by signature. -/
def places (states : List StackState) : List (String × Nat) :=
  states.mapIdx fun position state => (state.signature, position)

/-- Says that the place of each state is noted, and no signature twice. -/
structure InStep (data : Raw) : Prop where
  positions_eq : data.positions = (places data.states).reverse
  nodup : (data.positions.map Prod.fst).Nodup

theorem insert_of_position? {data : Raw} {state : StackState} {position : Nat}
    (found : data.position? state.signature = some position) :
    data.insert state = (false, { data with states := data.states.set position state }) := by
  rw [insert, found]

theorem insert_of_absent {data : Raw} {state : StackState}
    (absent : data.position? state.signature = none) :
    data.insert state =
      (true,
        { states := data.states ++ [state]
          positions := (state.signature, data.states.length) :: data.positions }) := by
  rw [insert, absent]

namespace InStep

variable {data : Raw} {state : StackState} {signature : String} {position : Nat}

theorem empty : ({} : Raw).InStep := ⟨rfl, List.nodup_nil⟩

theorem exists_of_position? (inStep : data.InStep)
    (found : data.position? signature = some position) :
    ∃ inBounds : position < data.states.length, data.states[position].signature = signature := by
  obtain ⟨_, _, split, _⟩ := List.lookup_eq_some_iff.1 found
  have noted : (signature, position) ∈ places data.states := by
    rw [← List.mem_reverse, ← inStep.positions_eq, split]
    simp
  obtain ⟨index, inBounds, isNoted⟩ := List.mem_mapIdx.1 noted
  cases isNoted
  exact ⟨inBounds, rfl⟩

/-- Insertion keeps the notes in step with the states. -/
theorem insert (inStep : data.InStep) (state : StackState) : (data.insert state).2.InStep := by
  cases found : data.position? state.signature with
  | some position =>
    -- The signature at the place is the one that was looked up, so the notes stay right.
    obtain ⟨inBounds, isSignature⟩ := inStep.exists_of_position? found
    rw [insert_of_position? found]
    refine ⟨?_, inStep.nodup⟩
    have noted : (places data.states)[position]? = some (state.signature, position) := by
      simp [places, List.getElem?_eq_getElem inBounds, isSignature]
    have kept : places (data.states.set position state) = places data.states := by
      obtain ⟨_, isNoted⟩ := List.getElem?_eq_some_iff.1 noted
      rw [places, List.mapIdx_set, ← places, ← isNoted, List.set_getElem_self]
    rw [kept, ← inStep.positions_eq]
  | none =>
    rw [insert_of_absent found]
    constructor
    · simp [places, List.mapIdx_concat, inStep.positions_eq]
    · rw [List.map_cons, List.nodup_cons]
      refine ⟨?_, inStep.nodup⟩
      intro member
      obtain ⟨pair, noted, same⟩ := List.mem_map.1 member
      have different := List.lookup_eq_none_iff.1 found pair noted
      simp [same] at different

theorem extend (inStep : data.InStep) (states : List StackState) : (data.extend states).InStep := by
  induction states generalizing data with
  | nil => exact inStep
  | cons state states ih => exact ih (inStep.insert state)

end InStep

end StateSet.Raw

/-- A set of states, told apart by signature. -/
structure StateSet extends StateSet.Raw where
  inStep : toRaw.InStep

namespace StateSet

/-- The set without states. -/
def empty : StateSet := ⟨{}, .empty⟩

instance : Inhabited StateSet := ⟨empty⟩

/-- Sets are equal if they hold equal states in the same order. -/
instance : BEq StateSet := ⟨fun left right => left.states == right.states⟩

/-- The signatures of the states. -/
def signatures (set : StateSet) : List String := set.states.map StackState.signature

/-- Adds a state and says whether its signature is new; a state with the same signature is replaced
in place. -/
def insert (set : StateSet) (state : StackState) : Bool × StateSet :=
  ((set.toRaw.insert state).1, ⟨(set.toRaw.insert state).2, set.inStep.insert state⟩)

/-- Adds states in order. -/
def extend (set : StateSet) (states : List StackState) : StateSet :=
  ⟨set.toRaw.extend states, set.inStep.extend states⟩

/-- The set of the given states. -/
def ofList (states : List StackState) : StateSet := empty.extend states

/-- The set of the empty stack alone. -/
def singleEmpty : StateSet := (empty.insert .empty).2

/-- The number of states. -/
def length (set : StateSet) : Nat := set.states.length

/-- Whether there is no state. -/
def isEmpty (set : StateSet) : Bool := set.states.isEmpty

/-- The greatest of some numbers, or zero. -/
def greatest (numbers : List Nat) : Nat := numbers.foldl max 0

/-- The size of the largest state in words. -/
def maxSizeInWords (set : StateSet) : Nat := greatest (set.states.map StackState.sizeInWords)

/-- The number of entries of the longest state. -/
def maxEntries (set : StateSet) : Nat := greatest (set.states.map StackState.length)

end StateSet

end StackFlow
