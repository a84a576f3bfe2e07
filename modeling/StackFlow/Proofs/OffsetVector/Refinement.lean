import Mathlib.Algebra.Order.Ring.Nat
import StackFlow.Proofs.OffsetVector
import StackFlow.Stack.State

/-!
# Offset vectors as plain lists

Offsets are written down when elements are pushed and never computed anew, so popping and clearing
must bring back the offset of the next element that was there before. Beside each call stands what
it does to a plain list. Since a vector is determined by its start and its elements, it is enough
that calls keep the two in step: whatever came in between, a vector is the one that its elements
make, and its offsets can be read off the list.
-/

namespace StackFlow

universe u

/-- A call that changes a vector. -/
inductive VectorCall (α : Type u) where
  | push (element : α)
  | pop
  | clear
  | extend (elements : List α)

namespace VectorCall

variable {α : Type u}

/-- What a call does to a plain list. -/
def performList (elements : List α) : VectorCall α → List α
  | .push element => elements ++ [element]
  | .pop => elements.dropLast
  | .clear => []
  | .extend more => elements ++ more

/-- The vector after a call. An empty vector stays empty when it is popped. -/
def perform [HasWidth α] (vec : OffsetVector α) : VectorCall α → OffsetVector α
  | .push element => (vec.push element).2
  | .pop =>
    match vec.pop? with
    | some (_, _, _, rest) => rest
    | none => vec
  | .clear => vec.clear
  | .extend elements => vec.extend elements

end VectorCall

theorem StackState.sizeInWords_eq_sum (state : StackState) :
    state.sizeInWords = (state.toList.map fun entry => entry.sizeInBytes / 4).sum := by
  rw [state.sizeInWords_eq]
  induction state.toList with
  | nil => rfl
  | cons entry entries ih => simpa [HasWidth.width] using ih

namespace OffsetVector

variable {α : Type u}

/-- The plain list after some calls. -/
def listed (calls : List (VectorCall α)) : List α := calls.foldl VectorCall.performList []

variable [HasWidth α] {vec : OffsetVector α} {start offset index : Nat} {element : α}

/-- The vector after some calls, if its first element goes to offset `start`. -/
def after (start : Nat) (calls : List (VectorCall α)) : OffsetVector α :=
  calls.foldl VectorCall.perform (startingAt start)

/-- The offset of the element at an index of a list that begins at `start`. -/
def offsetAt (start : Nat) (elements : List α) (index : Nat) : Nat :=
  start + widthSum (elements.take index)

/-! ### Calls -/

theorem perform_refines (vec : OffsetVector α) (call : VectorCall α) :
    (call.perform vec).start = vec.start ∧
      (call.perform vec).toList = call.performList vec.toList := by
  cases call with
  | push element => simp [VectorCall.perform, VectorCall.performList]
  | pop =>
      induction vec using push_induction with
      | startingAt start => exact ⟨rfl, rfl⟩
      | push vec element => simp [VectorCall.perform, VectorCall.performList]
  | clear => exact ⟨rfl, rfl⟩
  | extend elements => simp [VectorCall.perform, VectorCall.performList]

theorem after_refines (start : Nat) (calls : List (VectorCall α)) :
    (after start calls).start = start ∧ (after start calls).toList = listed calls := by
  suffices kept : ∀ vec : OffsetVector α,
      (calls.foldl VectorCall.perform vec).start = vec.start ∧
        (calls.foldl VectorCall.perform vec).toList =
          calls.foldl VectorCall.performList vec.toList from
    kept (startingAt start)
  induction calls with
  | nil => simp
  | cons call calls ih =>
      intro vec
      have first := perform_refines vec call
      have others := ih (call.perform vec)
      simpa [first] using others

/-- Calls that list one element more than others do lead to one push more. -/
theorem after_eq_push {calls earlier : List (VectorCall α)}
    (grown : listed calls = listed earlier ++ [element]) :
    after start calls = ((after start earlier).push element).2 := by
  have now := after_refines start calls
  have before := after_refines start earlier
  apply eq_of_toList_eq
  · simp [now, before]
  · simp [now, before, grown]

/-! ### Offsets -/

theorem offsetAt_append {elements more : List α} (inside : index ≤ elements.length) :
    offsetAt start (elements ++ more) index = offsetAt start elements index := by
  simp [offsetAt, List.take_append_of_le_length inside]

theorem offsetAt_mono (start : Nat) (elements : List α) {first second : Nat} (le : first ≤ second) :
    offsetAt start elements first ≤ offsetAt start elements second := by
  have split : (elements.take second).take first ++ (elements.take second).drop first =
      elements.take second := List.take_append_drop first _
  have widths := congrArg widthSum split
  simp only [widthSum_append, List.take_take, Nat.min_eq_left le] at widths
  simp only [offsetAt]
  omega

theorem offsetAt_succ (start : Nat) {elements : List α} (known : elements[index]? = some element) :
    offsetAt start elements (index + 1) = offsetAt start elements index + width element := by
  simp [offsetAt, List.take_add_one, known, widthSum_append, Nat.add_assoc]

/-- Elements are stored with the offsets that their list gives them. -/
theorem offsets_eq (vec : OffsetVector α) :
    vec.offsets = vec.toList.mapIdx fun index element =>
      (offsetAt vec.start vec.toList index, element) := by
  induction vec using push_induction with
  | startingAt start => rfl
  | push vec last ih =>
      have earlier : (vec.toList.mapIdx fun index element =>
            (offsetAt vec.start (vec.toList ++ [last]) index, element)) = vec.offsets := by
        rw [ih]
        apply List.ext_getElem (by simp)
        intro index inBounds _
        simp only [List.length_mapIdx] at inBounds
        simp [offsetAt_append (Nat.le_of_lt inBounds)]
      have place : offsetAt vec.start (vec.toList ++ [last]) vec.toList.length = vec.next := by
        simp [offsetAt, vec.next_eq]
      simp [offsets_push, earlier, place]

/-! ### Look-ups -/

theorem add_width_le_next {slot : Nat × α} (member : slot ∈ vec.offsets) :
    slot.1 + width slot.2 ≤ vec.next := by
  induction vec using push_induction with
  | startingAt => cases member
  | push vec last ih =>
      rw [offsets_push, List.mem_append, List.mem_singleton] at member
      rw [next_push]
      rcases member with earlier | rfl
      · have fits := ih earlier
        omega
      · exact Nat.le_refl _

theorem get?_eq_some_iff_offsets (positive : ∀ slot ∈ vec.offsets, 0 < width slot.2) :
    vec.get? offset = some (index, element) ↔ vec.offsets[index]? = some (offset, element) := by
  induction vec using push_induction with
  | startingAt start => simp [get?, offsets, startingAt, findSlot?]
  | push vec last ih =>
      rw [offsets_push] at positive ⊢
      have ih := ih fun slot member => positive slot (List.mem_append_left _ member)
      have length : vec.offsets.length = vec.length := by simp [offsets, OffsetVector.length]
      -- Older elements have a width, so none of them begins where the new one does.
      have older : vec.offsets[index]? ≠ some (vec.next, element) := by
        intro known
        have member := List.mem_of_getElem? known
        have fits := add_width_le_next member
        have wide := positive _ (List.mem_append_left _ member)
        dsimp only at fits wide
        omega
      rw [get?_push]
      by_cases atNext : vec.next = offset
      · grind
      · grind

theorem get?_eq_some_iff (positive : ∀ element ∈ vec.toList, 0 < width element) :
    vec.get? offset = some (index, element) ↔
      vec.toList[index]? = some element ∧ offset = offsetAt vec.start vec.toList index := by
  have stored : ∀ slot ∈ vec.offsets, 0 < width slot.2 := by
    intro slot member
    apply positive
    simp only [offsets, List.mem_reverse] at member
    simp only [toList, List.mem_reverse]
    exact List.mem_map_of_mem member
  rw [get?_eq_some_iff_offsets stored, offsets_eq, List.getElem?_mapIdx]
  simp only [Option.map_eq_some_iff, Prod.mk.injEq]
  constructor
  · rintro ⟨_, known, rfl, rfl⟩
    exact ⟨known, rfl⟩
  · rintro ⟨known, rfl⟩
    exact ⟨element, known, rfl, rfl⟩

theorem get?_eq_none_within (positive : ∀ element ∈ vec.toList, 0 < width element)
    (known : vec.toList[index]? = some element)
    (after : offsetAt vec.start vec.toList index < offset)
    (before : offset < offsetAt vec.start vec.toList index + width element) :
    vec.get? offset = none := by
  cases found : vec.get? offset with
  | none => rfl
  | some slot =>
      rcases (get?_eq_some_iff positive).1 found with ⟨_, isOffset⟩
      -- An element begins at or before this one, or where this one ends at the earliest.
      have place := offsetAt_succ vec.start known
      rcases Nat.lt_or_ge index slot.1 with later | earlier
      · have ends : offsetAt vec.start vec.toList (index + 1) ≤ _ := offsetAt_mono _ _ later
        omega
      · have begins := offsetAt_mono vec.start vec.toList earlier
        omega

/-- A vector that is used by calls is a plain list with its offsets. It holds what the calls leave of
the list, each element at the start plus the widths before it, and its next offset and total width
are those of the list. Pushing gives the offset that the new element goes to. Popping gives the last
element with its offset and its index, and brings back the vector that was there before it came,
whatever happened in between; clearing brings back the vector without elements. If all elements have a
width, a look-up
finds an element exactly at its offset, and nothing inside a wide one. In particular the size of a
stack is the sum of the words of its entries. -/
theorem calls_refine_list (start : Nat) (calls : List (VectorCall α)) :
    (after start calls).toList = listed calls ∧
    (after start calls).length = (listed calls).length ∧
    (after start calls).offsets = (listed calls).mapIdx (fun index element =>
      (offsetAt start (listed calls) index, element)) ∧
    (after start calls).next = start + widthSum (listed calls) ∧
    (after start calls).totalWidth = widthSum (listed calls) ∧
    (∀ element, (after start calls).push element =
      (start + widthSum (listed calls), after start (calls ++ [.push element]))) ∧
    (after start calls).clear = startingAt start ∧
    (listed calls = [] → (after start calls).pop? = none) ∧
    (∀ earlier element, listed calls = listed earlier ++ [element] →
      (after start calls).pop? =
          some (offsetAt start (listed calls) (listed earlier).length, (listed earlier).length,
            element, after start earlier) ∧
        (after start earlier).length = (listed earlier).length) ∧
    ((∀ element ∈ listed calls, 0 < width element) →
      (∀ offset index element, (after start calls).get? offset = some (index, element) ↔
        (listed calls)[index]? = some element ∧
          offset = offsetAt start (listed calls) index) ∧
      ∀ index element offset, (listed calls)[index]? = some element →
        offsetAt start (listed calls) index < offset →
          offset < offsetAt start (listed calls) index + width element →
            (after start calls).get? offset = none) ∧
    ∀ state : StackState,
      state.sizeInWords = (state.toList.map fun entry => entry.sizeInBytes / 4).sum := by
  rcases after_refines start calls with ⟨isStart, isListed⟩
  have offsets := (after start calls).offsets_eq
  have next := (after start calls).next_eq
  have lookUp := fun positive offset index element =>
    @get?_eq_some_iff _ _ (after start calls) offset index element positive
  have within := fun positive index element offset =>
    @get?_eq_none_within _ _ (after start calls) offset index element positive
  simp only [isStart, isListed] at offsets next lookUp within
  refine ⟨isListed, by rw [length_eq, isListed], offsets, next, ?_, ?_, ?_, ?_, ?_, ?_,
    StackState.sizeInWords_eq_sum⟩
  · rw [totalWidth_eq, isListed]
  · intro element
    have grown : listed (calls ++ [.push element]) = listed calls ++ [element] := by
      simp [listed, VectorCall.performList]
    rw [after_eq_push grown, ← next]
    rfl
  · rw [clear, isStart]
  · intro isEmpty
    have empty : after start calls = startingAt start :=
      eq_of_toList_eq isStart (by rw [isListed, isEmpty]; rfl)
    rw [empty]
    rfl
  · intro earlier element grown
    rcases after_refines start earlier with ⟨wasStart, wasListed⟩
    refine ⟨?_, by rw [length_eq, wasListed]⟩
    rw [after_eq_push grown, pop?_push, grown, offsetAt_append (Nat.le_refl _),
      OffsetVector.next_eq, wasStart, length_eq, wasListed, offsetAt, List.take_length]
  · intro positive
    exact ⟨lookUp positive, within positive⟩

/-- Calls that fill a vector, clear it, fill it again and then replace its last element. -/
def refilled : List (VectorCall Entry) :=
  [.push (.make none .long "a"), .push (.make none .int "b"), .clear,
    .extend [.make none .double "c", .make none .int "d"], .pop, .push (.make none .int "e")]

theorem calls_refine_list_refilled :
    listed refilled = [.make none .double "c", .make none .int "e"] ∧
      (after 1 refilled).get? 3 = some (1, .make none .int "e") ∧
      (after 1 refilled).get? 2 = none ∧
      (after 1 refilled).pop? = some (3, 1, .make none .int "e", after 1 (refilled.take 5)) ∧
      (after 1 (refilled.take 4)).pop? =
        some (3, 1, .make none .int "d", after 1 (refilled.take 5)) ∧
      (after 1 (refilled.take 3)).pop? = none := by
  rcases calls_refine_list 1 refilled with ⟨_, _, _, _, _, _, _, _, popped, found, _⟩
  rcases calls_refine_list 1 (refilled.take 4) with ⟨_, _, _, _, _, _, _, _, poppedBefore, _⟩
  rcases calls_refine_list 1 (refilled.take 3) with ⟨_, _, _, _, _, _, _, nothing, _⟩
  have positive : ∀ entry ∈ listed refilled, 0 < width entry := by decide
  rcases found positive with ⟨lookUp, within⟩
  exact ⟨rfl, (lookUp 3 1 _).2 ⟨rfl, rfl⟩, within 0 (.make none .double "c") 2 rfl (by decide)
    (by decide), (popped (refilled.take 5) _ rfl).1, (poppedBefore (refilled.take 5) _ rfl).1,
    nothing rfl⟩

end OffsetVector

end StackFlow
