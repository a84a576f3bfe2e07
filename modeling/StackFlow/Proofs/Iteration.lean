import StackFlow.Iteration

/-!
# Facts about iteration

What a step keeps, any number of steps keep, be it about one run or about two side by side. A step
that lowers a measure until it is finished, and then stands still, is finished after as many steps
as the measure says, and stays so. A step that may fail but never does where an invariant holds can
be repeated without failing.
-/

namespace StackFlow

universe u

section

variable {σ : Type u} {step : σ → σ}

theorem iterate_of_fixed {state : σ} (fixed : step state = state) (count : Nat) :
    iterate step count state = state := by
  induction count with
  | zero => rfl
  | succ count ih => rw [iterate, fixed, ih]

theorem iterate_succ_right (step : σ → σ) (count : Nat) (state : σ) :
    iterate step (count + 1) state = step (iterate step count state) := by
  induction count generalizing state with
  | zero => rfl
  | succ count ih => exact ih (step state)

theorem iterate_of_fixed_le {state : σ} {fewer more : Nat}
    (fixed : step (iterate step fewer state) = iterate step fewer state) (le : fewer ≤ more) :
    iterate step more state = iterate step fewer state := by
  induction le with
  | refl => rfl
  | step _ ih => rw [iterate_succ_right, ih, fixed]

/-- A run comes to a standstill in one state only. -/
theorem iterate_eq_of_fixed {state : σ} {count other : Nat}
    (fixed : step (iterate step count state) = iterate step count state)
    (otherFixed : step (iterate step other state) = iterate step other state) :
    iterate step count state = iterate step other state := by
  rcases Nat.le_total count other with le | le
  · exact (iterate_of_fixed_le fixed le).symm
  · exact iterate_of_fixed_le otherFixed le

/-- What a step keeps is kept by a run. -/
theorem iterate_preserves (invariant : σ → Prop)
    (preserved : ∀ state, invariant state → invariant (step state)) {state : σ}
    (holds : invariant state) (count : Nat) : invariant (iterate step count state) := by
  induction count generalizing state with
  | zero => exact holds
  | succ count ih => exact ih (preserved state holds)

/-- Two runs stay related if each pair of steps keeps them so. -/
theorem iterate_related {τ : Type u} {other : τ → τ} (related : σ → τ → Prop)
    (preserved : ∀ left right, related left right → related (step left) (other right)) {left : σ}
    {right : τ} (holds : related left right) (count : Nat) :
    related (iterate step count left) (iterate other count right) := by
  induction count generalizing left right with
  | zero => exact holds
  | succ count ih => exact ih (preserved left right holds)

/-- A run is finished after as many steps as a measure allows that every unfinished step lowers. -/
theorem iterate_finishes (invariant finished : σ → Prop) (measure : σ → Nat)
    (preserved : ∀ state, invariant state → invariant (step state))
    (fixed : ∀ state, finished state → step state = state)
    (lowered : ∀ state, invariant state → ¬finished state → measure (step state) < measure state)
    {state : σ} (holds : invariant state) {count : Nat} (enough : measure state ≤ count) :
    finished (iterate step count state) := by
  induction count generalizing state with
  | zero =>
      by_cases done : finished state
      · exact done
      · have lower := lowered state holds done
        omega
  | succ count ih =>
      by_cases done : finished state
      · rw [iterate_of_fixed (fixed state done)]
        exact done
      · have lower := lowered state holds done
        exact ih (preserved state holds) (by omega)

/-- Repeats a step that may fail, until it does. -/
def iterate? (step : σ → Option σ) : Nat → σ → Option σ
  | 0, state => some state
  | count + 1, state => (step state).bind (iterate? step count)

theorem iterate?_eq_some {checked : σ → Option σ} (invariant : σ → Prop)
    (preserved : ∀ state, invariant state → invariant (step state))
    (succeeds : ∀ state, invariant state → checked state = some (step state)) {state : σ}
    (holds : invariant state) (count : Nat) :
    iterate? checked count state = some (iterate step count state) := by
  induction count generalizing state with
  | zero => rfl
  | succ count ih =>
      rw [iterate?, succeeds state holds]
      exact ih (preserved state holds)

end

end StackFlow
