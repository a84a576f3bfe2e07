import StackFlow.Proofs.Effect.Congruence

/-!
# What flows into types and values

Types and sizes after an instruction depend on types and sizes before it alone, and values on types,
sizes and values. No instruction chooses a type or counts entries by looking at a value, and none
looks at the producer of an entry at all. So states can be compared by their layout at the header of
a loop, and a state can take the place of another that has the same signature.
-/

namespace StackFlow

namespace StackState

/-- The types and sizes of the entries, bottom to top. -/
def layout (state : StackState) : List (ValueType × Nat) :=
  state.toList.map fun entry => (entry.valueType, entry.sizeInBytes)

/-- All that the entries say but for their producers, bottom to top. -/
def contents (state : StackState) : List (ValueType × Nat × String) :=
  state.toList.map fun entry => (entry.valueType, entry.sizeInBytes, entry.value)

theorem Related.map_eq_iff {related : Entry → Entry → Prop} {γ : Type} (view : Entry → γ)
    (isView : ∀ leftEntry rightEntry,
      related leftEntry rightEntry ↔ view leftEntry = view rightEntry) {left right : StackState} :
    Related related left right ↔ left.toList.map view = right.toList.map view := by
  constructor
  · exact map_eq view fun leftEntry rightEntry => (isView leftEntry rightEntry).1
  · apply of_map_eq view
    intro leftEntry _ rightEntry _
    exact (isView leftEntry rightEntry).2

variable {left right : StackState}

theorem related_sameLayout_iff :
    Related Entry.SameLayout left right ↔ left.layout = right.layout := by
  apply Related.map_eq_iff
  intro leftEntry rightEntry
  simp [Entry.SameLayout]

theorem related_sameShown_iff :
    Related Entry.SameShown left right ↔ left.contents = right.contents := by
  apply Related.map_eq_iff
  intro leftEntry rightEntry
  simp only [Entry.SameShown, Entry.shown, Prod.mk.injEq]
  tauto

end StackState

/-- What an instruction does to types and sizes depends on nothing else, and what it does to values
does not depend on producers. Two states with the same types and sizes fail together or give states
with the same types and sizes, whatever names local variables have in either run and whatever stands
for what cannot be resolved. Two states with the same values besides, under the same names, fail
together or give states with the same values besides. -/
theorem interpret_informationFlow (pool : ConstantPool) (instruction : Instruction) :
    (∀ (leftNames rightNames : LocalNames) (leftPlaceholder rightPlaceholder : String)
        (left right : StackState), left.layout = right.layout →
      Alike (fun leftResult rightResult => leftResult.layout = rightResult.layout)
        (interpret ⟨pool, leftNames, leftPlaceholder⟩ instruction left)
        (interpret ⟨pool, rightNames, rightPlaceholder⟩ instruction right)) ∧
    ∀ (names : LocalNames) (placeholder : String) (left right : StackState),
      left.contents = right.contents →
      Alike (fun leftResult rightResult => leftResult.contents = rightResult.contents)
        (interpret ⟨pool, names, placeholder⟩ instruction left)
        (interpret ⟨pool, names, placeholder⟩ instruction right) := by
  constructor
  · intro leftNames rightNames leftPlaceholder rightPlaceholder left right sameLayout
    have states := StackState.related_sameLayout_iff.2 sameLayout
    refine (interpret_alike Entry.congruence_sameLayout ?_ ?_ instruction states).mono ?_
    · rfl
    · exact False.elim
    · exact fun _ _ => StackState.related_sameLayout_iff.1
  · intro names placeholder left right sameContents
    have states := StackState.related_sameShown_iff.2 sameContents
    refine (interpret_alike Entry.congruence_sameShown ?_ ?_ instruction states).mono ?_
    · rfl
    · exact fun _ => rfl
    · exact fun _ _ => StackState.related_sameShown_iff.1

/-- An entry of two words by its type, but of one word by its size. -/
def narrowLong (producer : Option Nat) (value : String) : Entry := ⟨producer, 4, .long, value⟩

theorem interpret_informationFlow_narrowLong :
    (StackState.layout (.ofList [.make none .int "i", narrowLong none "l"]) =
        StackState.layout (.ofList [.make (some 3) .int "j", narrowLong (some 4) "m"]) ∧
      Alike (fun leftResult rightResult => leftResult.layout = rightResult.layout)
        (interpret ⟨.empty, { table := [] }, "?"⟩ { offset := 6, opcode := .pop2 }
          (.ofList [.make none .int "i", narrowLong none "l"]))
        (interpret ⟨.empty, { table := [⟨0, 0, 9, "x", "J"⟩] }, "!"⟩
          { offset := 6, opcode := .pop2 }
          (.ofList [.make (some 3) .int "j", narrowLong (some 4) "m"]))) ∧
    StackState.contents (.ofList [.make none .int "i", narrowLong none "l"]) =
        StackState.contents (.ofList [.make (some 3) .int "i", narrowLong (some 4) "l"]) ∧
      Alike (fun leftResult rightResult => leftResult.contents = rightResult.contents)
        (interpret ⟨.empty, { table := [] }, "?"⟩ { offset := 6, opcode := .arithmetic .add .long }
          (.ofList [.make none .int "i", narrowLong none "l"]))
        (interpret ⟨.empty, { table := [] }, "?"⟩ { offset := 6, opcode := .arithmetic .add .long }
          (.ofList [.make (some 3) .int "i", narrowLong (some 4) "l"])) :=
  ⟨⟨rfl, (interpret_informationFlow .empty _).1 _ _ _ _ _ _ rfl⟩, rfl,
    (interpret_informationFlow .empty _).2 _ _ _ _ rfl⟩

end StackFlow
