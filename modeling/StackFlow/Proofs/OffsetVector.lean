import StackFlow.OffsetVector

/-!
# Looking up by offset

Every vector is made by pushing onto an empty one, so facts about look-ups go by induction on the
pushes: an element is found at the offset at which it was pushed and stays there, and nothing is
found before the start, past the end, or inside a wide element.
-/

namespace StackFlow

universe u

namespace OffsetVector

variable {α : Type u} [HasWidth α]

@[elab_as_elim]
theorem push_induction {motive : OffsetVector α → Prop}
    (startingAt : ∀ start, motive (startingAt start))
    (push : ∀ vec element, motive vec → motive (vec.push element).2) (vec : OffsetVector α) :
    motive vec := by
  obtain ⟨start, slots, next, laidOut⟩ := vec
  induction laidOut with
  | nil => exact startingAt start
  | cons element rest ih => exact push ⟨start, _, _, rest⟩ element ih

theorem get?_push (vec : OffsetVector α) (element : α) (offset : Nat) :
    (vec.push element).2.get? offset =
      if vec.next = offset then some (vec.length, element) else vec.get? offset := rfl

variable {vec : OffsetVector α} {offset index : Nat} {element : α}

/-- An element lies within its vector. -/
theorem bounds_of_get? (found : vec.get? offset = some (index, element)) :
    vec.start ≤ offset ∧ offset + width element ≤ vec.next := by
  induction vec using push_induction with
  | startingAt => cases found
  | push vec last ih =>
      rw [get?_push] at found
      split at found
      · next isNext =>
        cases found
        have startLe := vec.next_eq
        simp only [start_push, next_push]
        omega
      · have bounds := ih found
        simp only [start_push, next_push]
        omega

theorem get?_eq_none_of_le (positive : ∀ element : α, 0 < width element)
    (outside : vec.next ≤ offset) : vec.get? offset = none := by
  cases found : vec.get? offset with
  | none => rfl
  | some slot =>
      have bounds := bounds_of_get? found
      have isPositive := positive slot.2
      omega

/-- Nothing is found inside a wide element. -/
theorem get?_eq_none_inside (positive : ∀ element : α, 0 < width element)
    (found : vec.get? offset = some (index, element)) {inside : Nat} (after : offset < inside)
    (before : inside < offset + width element) : vec.get? inside = none := by
  induction vec using push_induction with
  | startingAt => cases found
  | push vec last ih =>
      rw [get?_push] at found ⊢
      split at found
      · next isNext =>
        cases found
        rw [if_neg (by omega)]
        exact get?_eq_none_of_le positive (by omega)
      · have bounds := bounds_of_get? found
        rw [if_neg (by omega)]
        exact ih found

theorem offsets_push (vec : OffsetVector α) (element : α) :
    (vec.push element).2.offsets = vec.offsets ++ [(vec.next, element)] := by
  simp [offsets, push]

theorem lt_next_of_mem_offsets (positive : ∀ element : α, 0 < width element)
    {slot : Nat × α} (member : slot ∈ vec.offsets) : slot.1 < vec.next := by
  induction vec using push_induction with
  | startingAt => cases member
  | push vec last ih =>
      have isPositive := positive last
      rw [offsets_push, List.mem_append, List.mem_singleton] at member
      rw [next_push]
      rcases member with earlier | rfl
      · have lt := ih earlier
        omega
      · dsimp only
        omega

/-- Elements of positive width have offsets of their own. -/
theorem pairwise_offsets (positive : ∀ element : α, 0 < width element) (vec : OffsetVector α) :
    (vec.offsets.map Prod.fst).Pairwise (· < ·) := by
  induction vec using push_induction with
  | startingAt => exact .nil
  | push vec last ih =>
      rw [offsets_push, List.map_append, List.pairwise_append]
      refine ⟨ih, List.pairwise_singleton _ _, ?_⟩
      intro earlier earlierMember final finalMember
      rcases List.mem_map.1 earlierMember with ⟨slot, member, rfl⟩
      rw [List.map_singleton, List.mem_singleton] at finalMember
      rw [finalMember]
      exact lt_next_of_mem_offsets positive member

end OffsetVector

end StackFlow
