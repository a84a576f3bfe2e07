/-!
# Iteration

Repeating a step a fixed number of times. Searches over a graph are written as a step and a number
of steps that is enough, so that each intermediate state can be spoken of.
-/

namespace StackFlow

universe u

/-- Repeats a step a number of times. -/
def iterate {σ : Type u} (step : σ → σ) : Nat → σ → σ
  | 0, state => state
  | count + 1, state => iterate step count (step state)

end StackFlow
