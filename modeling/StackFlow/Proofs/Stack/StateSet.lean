import Mathlib.Data.List.Nodup
import StackFlow.Proofs.Stack.Signature
import StackFlow.Stack.StateSet

/-!
# What a state set collects

The places of states are noted where they are first inserted and looked up when a state with the same
signature comes in. From the notes being in step with the states follows what an insertion does to a
set: it keeps the states with other signatures, and adds the new one.

A state that comes in may thus take the place of another, so a set need not hold every state that was
added to it. What it keeps is one state for each signature: `Collects` says that all states of a set
come from a source and that every state of the source is there up to its signature.
-/

namespace StackFlow

namespace StateSet

/-! ### Places and states -/

theorem lookup_of_mem {α β : Type} [BEq α] [LawfulBEq α] {pairs : List (α × β)} {key : α} {value : β}
    (nodup : (pairs.map Prod.fst).Nodup) (member : (key, value) ∈ pairs) :
    pairs.lookup key = some value := by
  rcases List.append_of_mem member with ⟨before, after, rfl⟩
  refine List.lookup_eq_some_iff.2 ⟨before, after, rfl, ?_⟩
  intro pair isBefore
  rw [List.map_append, List.nodup_append] at nodup
  have different := nodup.2.2 pair.1 (List.mem_map_of_mem isBefore) key (by simp)
  simpa using Ne.symm different

namespace Raw

theorem map_fst_places (states : List StackState) :
    (places states).map Prod.fst = states.map StackState.signature := by
  apply List.ext_getElem?
  intro index
  simp [places, Function.comp_def]

namespace InStep

variable {data : Raw} {state other : StackState} {signature : String} {position : Nat}

/-- A signature is noted exactly for the place of its state. -/
theorem position?_eq_some_iff (inStep : data.InStep) :
    data.position? signature = some position ↔
      ∃ state, data.states[position]? = some state ∧ state.signature = signature := by
  constructor
  · intro found
    rcases inStep.exists_of_position? found with ⟨inBounds, isSignature⟩
    exact ⟨_, List.getElem?_eq_getElem inBounds, isSignature⟩
  · rintro ⟨state, known, rfl⟩
    apply lookup_of_mem inStep.nodup
    rw [inStep.positions_eq, List.mem_reverse]
    apply List.mem_of_getElem?
    rw [places, List.getElem?_mapIdx, known]
    rfl

/-- Signatures are noted in the order of their states, the newest first. -/
theorem signatures_eq (inStep : data.InStep) :
    data.states.map StackState.signature = (data.positions.map Prod.fst).reverse := by
  rw [inStep.positions_eq, List.map_reverse, map_fst_places, List.reverse_reverse]

theorem nodup_signatures (inStep : data.InStep) :
    (data.states.map StackState.signature).Nodup := by
  rw [inStep.signatures_eq, List.nodup_reverse]
  exact inStep.nodup

theorem position?_eq_none_iff (inStep : data.InStep) :
    data.position? signature = none ↔ signature ∉ data.states.map StackState.signature := by
  rw [inStep.signatures_eq, List.mem_reverse, position?, List.lookup_eq_none_iff]
  simp only [bne_iff_ne, List.mem_map, not_exists, not_and, ne_eq, eq_comm (b := signature)]

theorem contains_iff (inStep : data.InStep) :
    data.contains state = true ↔ state.signature ∈ data.states.map StackState.signature := by
  rw [contains, Option.isSome_iff_ne_none, ne_eq, inStep.position?_eq_none_iff, not_not]

theorem eq_of_signature_eq (inStep : data.InStep) (member : state ∈ data.states)
    (otherMember : other ∈ data.states) (same : state.signature = other.signature) :
    state = other :=
  List.inj_on_of_nodup_map inStep.nodup_signatures member otherMember same

/-! ### Insertion -/

theorem signatures_insert (inStep : data.InStep) (state : StackState) :
    (data.insert state).2.states.map StackState.signature =
      if state.signature ∈ data.states.map StackState.signature then
        data.states.map StackState.signature
      else data.states.map StackState.signature ++ [state.signature] := by
  cases found : data.position? state.signature with
  | some position =>
      -- No note changes, so no signature does.
      rcases inStep.position?_eq_some_iff.1 found with ⟨old, known, same⟩
      have present : state.signature ∈ data.states.map StackState.signature :=
        same ▸ List.mem_map_of_mem (List.mem_of_getElem? known)
      rw [(inStep.insert state).signatures_eq, insert_of_position? found, if_pos present,
        inStep.signatures_eq]
  | none =>
      rw [if_neg (inStep.position?_eq_none_iff.1 found), insert_of_absent found, List.map_append,
        List.map_singleton]

/-- An insertion keeps all states but the one with the signature of the new state. -/
theorem mem_insert (inStep : data.InStep) :
    other ∈ (data.insert state).2.states ↔
      other = state ∨ other ∈ data.states ∧ other.signature ≠ state.signature := by
  cases found : data.position? state.signature with
  | some position =>
      rcases inStep.position?_eq_some_iff.1 found with ⟨old, known, same⟩
      have inBounds := (List.getElem?_eq_some_iff.1 known).1
      have added : state ∈ (data.insert state).2.states := by
        rw [insert_of_position? found]
        exact List.mem_set inBounds state
      constructor
      · intro member
        by_cases differs : other.signature = state.signature
        · exact .inl ((inStep.insert state).eq_of_signature_eq member added differs)
        · rw [insert_of_position? found] at member
          exact (List.mem_or_eq_of_mem_set member).symm.imp_right fun kept => ⟨kept, differs⟩
      · rintro (rfl | ⟨member, differs⟩)
        · exact added
        · rcases List.mem_iff_getElem?.1 member with ⟨place, isThere⟩
          have elsewhere : position ≠ place := by
            rintro rfl
            rw [known, Option.some.injEq] at isThere
            exact differs (isThere ▸ same)
          rw [insert_of_position? found]
          apply List.mem_of_getElem?
          rw [List.getElem?_set_ne elsewhere, isThere]
  | none =>
      have absent := inStep.position?_eq_none_iff.1 found
      rw [insert_of_absent found, List.mem_append, List.mem_singleton, or_comm]
      refine or_congr_right (and_iff_left_of_imp ?_).symm
      intro member same
      exact absent (same ▸ List.mem_map_of_mem member)

end InStep

end Raw

theorem nodup (set : StateSet) : set.signatures.Nodup := set.inStep.nodup_signatures

theorem contains_iff {set : StateSet} {state : StackState} :
    set.contains state = true ↔ state.signature ∈ set.signatures :=
  set.inStep.contains_iff

theorem mem_signatures {set : StateSet} {signature : String} :
    signature ∈ set.signatures ↔ ∃ state ∈ set.states, state.signature = signature :=
  List.mem_map

theorem mem_insert {set : StateSet} {state other : StackState} :
    other ∈ (set.insert state).2.states ↔
      other = state ∨ other ∈ set.states ∧ other.signature ≠ state.signature :=
  set.inStep.mem_insert

theorem signatures_insert (set : StateSet) (state : StackState) :
    (set.insert state).2.signatures =
      if state.signature ∈ set.signatures then set.signatures
      else set.signatures ++ [state.signature] :=
  set.inStep.signatures_insert state

theorem states_insert_of_not_mem {set : StateSet} {state : StackState}
    (isNew : state.signature ∉ set.signatures) :
    (set.insert state).2.states = set.states ++ [state] := by
  have absent := set.inStep.position?_eq_none_iff.2 isNew
  exact congrArg (·.2.states) (Raw.insert_of_absent absent)

theorem extend_cons (set : StateSet) (state : StackState) (states : List StackState) :
    set.extend (state :: states) = (set.insert state).2.extend states := rfl

/-! ### Collecting states -/

/-- Says that a set holds states of a source only, and a state for the signature of each of them. -/
structure Collects (set : StateSet) (source : StackState → Prop) : Prop where
  sound : ∀ state ∈ set.states, source state
  complete : ∀ state, source state → state.signature ∈ set.signatures

theorem collects_states (set : StateSet) : set.Collects (· ∈ set.states) :=
  ⟨fun _ member => member, fun state member => mem_signatures.2 ⟨state, member, rfl⟩⟩

theorem collects_empty : empty.Collects fun _ => False :=
  ⟨fun _ member => absurd member List.not_mem_nil, fun _ given => given.elim⟩

namespace Collects

variable {set : StateSet} {source other : StackState → Prop}

theorem congr (collects : set.Collects source) (same : ∀ state, source state ↔ other state) :
    set.Collects other :=
  ⟨fun state member => (same state).1 (collects.sound state member),
    fun state given => collects.complete state ((same state).2 given)⟩

/-- The signatures of a set are those of its source. -/
theorem mem_signatures_iff (collects : set.Collects source) {signature : String} :
    signature ∈ set.signatures ↔ ∃ state, source state ∧ state.signature = signature := by
  constructor
  · intro member
    rcases mem_signatures.1 member with ⟨state, kept, same⟩
    exact ⟨state, collects.sound state kept, same⟩
  · rintro ⟨state, given, rfl⟩
    exact collects.complete state given

/-- Each state of the source is shown by a state of the set. -/
theorem exists_shown (collects : set.Collects source) {state : StackState} (given : source state) :
    ∃ kept ∈ set.states, kept.shown = state.shown := by
  rcases mem_signatures.1 (collects.complete state given) with ⟨kept, member, same⟩
  exact ⟨kept, member, StackState.signature_eq_iff.1 same⟩

theorem insert (collects : set.Collects source) (added : StackState) :
    (set.insert added).2.Collects fun state => source state ∨ state = added := by
  constructor
  · intro state member
    rcases mem_insert.1 member with isAdded | ⟨kept, _⟩
    · exact .inr isAdded
    · exact .inl (collects.sound state kept)
  · intro state given
    rw [signatures_insert]
    rcases given with given | rfl
    · have listed := collects.complete state given
      split
      · exact listed
      · exact List.mem_append_left _ listed
    · split
      · next present => exact present
      · exact List.mem_append_right _ List.mem_cons_self

theorem extend (collects : set.Collects source) (added : List StackState) :
    (set.extend added).Collects fun state => source state ∨ state ∈ added := by
  induction added generalizing set source with
  | nil => exact collects.congr fun state => by simp
  | cons first added ih =>
      refine (ih (collects.insert first)).congr fun state => ?_
      rw [List.mem_cons, or_assoc]

end Collects

theorem collects_ofList (states : List StackState) : (ofList states).Collects (· ∈ states) :=
  (collects_empty.extend states).congr fun state => by simp

theorem extend_append (set : StateSet) (first second : List StackState) :
    set.extend (first ++ second) = (set.extend first).extend second := by
  induction first generalizing set with
  | nil => rfl
  | cons state first ih => exact ih (set.insert state).2

/-- States with signatures of their own are added at the end. -/
theorem states_extend_of_nodup {set : StateSet} {states : List StackState}
    (apart : ((set.states ++ states).map StackState.signature).Nodup) :
    (set.extend states).states = set.states ++ states := by
  induction states generalizing set with
  | nil => exact (List.append_nil _).symm
  | cons state states ih =>
      have isNew : state.signature ∉ set.signatures := by
        intro member
        rw [List.map_append] at apart
        exact (List.nodup_append.1 apart).2.2 _ member _ (by simp) rfl
      have inserted := states_insert_of_not_mem isNew
      rw [extend_cons, ih, inserted, List.append_assoc, List.singleton_append]
      simpa [inserted] using apart

theorem eq_of_states_eq {left right : StateSet} (same : left.states = right.states) :
    left = right := by
  have positions : left.positions = right.positions := by
    rw [left.inStep.positions_eq, right.inStep.positions_eq, same]
  rcases left with ⟨⟨states, places⟩, inStep⟩
  rcases right with ⟨⟨otherStates, otherPlaces⟩, otherInStep⟩
  cases same
  cases positions
  rfl

theorem ofList_states (set : StateSet) : ofList set.states = set := by
  apply eq_of_states_eq
  refine (states_extend_of_nodup ?_).trans (List.nil_append _)
  exact set.nodup

@[simp]
theorem states_singleEmpty : singleEmpty.states = [.empty] := rfl

theorem le_foldl_max {numbers : List Nat} {start number : Nat}
    (bounded : number ≤ start ∨ number ∈ numbers) : number ≤ numbers.foldl max start := by
  induction numbers generalizing start with
  | nil => simpa using bounded
  | cons first numbers ih =>
      apply ih
      rcases bounded with bounded | member
      · exact .inl (by omega)
      · rcases List.mem_cons.1 member with rfl | member
        · exact .inl (by omega)
        · exact .inr member

theorem foldl_max_eq_or_mem (numbers : List Nat) (start : Nat) :
    numbers.foldl max start = start ∨ numbers.foldl max start ∈ numbers := by
  induction numbers generalizing start with
  | nil => exact .inl rfl
  | cons first numbers ih =>
      rw [List.foldl_cons]
      rcases ih (max start first) with isStart | member
      · rw [isStart]
        rcases Nat.le_total start first with le | le
        · right
          simp [Nat.max_eq_right le]
        · exact .inl (Nat.max_eq_left le)
      · exact .inr (List.mem_cons_of_mem _ member)

/-- No state of a set is larger than the largest. -/
theorem sizeInWords_le (set : StateSet) {state : StackState} (member : state ∈ set.states) :
    state.sizeInWords ≤ set.maxSizeInWords :=
  le_foldl_max (.inr (List.mem_map_of_mem member))

end StateSet

end StackFlow
