import Mathlib.Data.List.Basic
import Mathlib.Data.List.Induction

/-!
# Lists without repetitions

`List.eraseDups` keeps the first occurrence of each element. What it does to a list that grows at its
end says all about it: an element that was there before is left out, and any other goes to the end.
-/

namespace StackFlow

variable {α : Type} [BEq α] [LawfulBEq α]

theorem eraseDups_append_singleton (elements : List α) (element : α)
    [Decidable (element ∈ elements)] :
    (elements ++ [element]).eraseDups =
      if element ∈ elements then elements.eraseDups else elements.eraseDups ++ [element] := by
  rw [List.eraseDups_append]
  split
  · next member => simp [List.removeAll, member]
  · next absent => simp [List.removeAll, absent, List.eraseDups_cons]

theorem nodup_eraseDups (elements : List α) : elements.eraseDups.Nodup := by
  classical
  induction elements using List.reverseRecOn with
  | nil => simp
  | append_singleton elements element ih =>
      rw [eraseDups_append_singleton]
      split
      · exact ih
      · next absent =>
        have apart : ∀ other ∈ elements, other ≠ element := by
          rintro other member rfl
          exact absent member
        simpa [List.nodup_append, ih] using apart

/-- The elements that are left are in the order of their first occurrences. -/
theorem pairwise_idxOf_eraseDups (elements : List α) :
    elements.eraseDups.Pairwise fun left right =>
      elements.idxOf left < elements.idxOf right := by
  classical
  induction elements using List.reverseRecOn with
  | nil => exact .nil
  | append_singleton elements element ih =>
      have kept : ∀ other ∈ elements,
          (elements ++ [element]).idxOf other = elements.idxOf other :=
        fun other => List.idxOf_append_of_mem
      have sorted : elements.eraseDups.Pairwise fun left right =>
          (elements ++ [element]).idxOf left < (elements ++ [element]).idxOf right := by
        refine ih.imp_of_mem fun {left right} leftMember rightMember earlier => ?_
        rw [List.mem_eraseDups] at leftMember rightMember
        rwa [kept left leftMember, kept right rightMember]
      rw [eraseDups_append_singleton]
      split
      · exact sorted
      · next absent =>
        refine List.pairwise_append.2 ⟨sorted, List.pairwise_singleton _ _, ?_⟩
        intro other member last isLast
        rw [List.mem_eraseDups] at member
        rw [List.mem_singleton.1 isLast, kept other member, List.idxOf_append_of_notMem absent]
        exact Nat.lt_of_lt_of_le (List.idxOf_lt_length_of_mem member) (Nat.le_add_right _ _)

/-- Leaving out elements and leaving out repetitions commute. -/
theorem eraseDups_filter (keep : α → Bool) (elements : List α) :
    (elements.filter keep).eraseDups = elements.eraseDups.filter keep := by
  classical
  induction elements using List.reverseRecOn with
  | nil => rfl
  | append_singleton elements element ih =>
      rw [List.filter_append, eraseDups_append_singleton]
      cases kept : keep element with
      | true =>
          rw [List.filter_cons_of_pos kept, List.filter_nil, eraseDups_append_singleton, ih]
          split <;> split <;> simp_all
      | false =>
          rw [List.filter_cons_of_neg (by simp [kept]), List.filter_nil, List.append_nil, ih]
          split <;> simp [kept]

end StackFlow
