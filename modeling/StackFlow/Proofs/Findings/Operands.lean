import StackFlow.Findings.Types
import StackFlow.Proofs.Effect.Calls

/-!
# Expected operands and taken entries

The findings about types compare the top of a stack with the operands that an instruction expects,
and interpretation takes entries from there. Each tells the instructions apart, looks up the methods
that they call and says which calls have a receiver on its own, and interpretation does not look up
the fields that are written. Still they agree: wherever operands are expected, the instruction takes
one entry for each of them, whatever the entries are, and each entry that it takes is compared with
the operand that it stands for.
-/

namespace StackFlow

namespace Instruction

variable {environment : Environment} {instruction : Instruction} {operands : List Operand}

/-- Operands are expected of the calls that interpretation resolves, one for each entry that it
takes. -/
theorem exists_callee_of_callOperands {pool : ConstantPool} {kind : CallKind}
    (calls : instruction.opcode = .invoke kind)
    (expects : instruction.callOperands pool kind = some operands) :
    ∃ callee, instruction.callee? pool = some callee ∧
      operands.length = callee.descriptor.parameters.length + if kind.hasReceiver then 1 else 0 := by
  simp only [callOperands, bind, Option.bind_eq_some_iff, Prod.exists, pure, Option.some.injEq]
    at expects
  rcases expects with ⟨index, isIndex, name, text, isMember, descriptor, parses, rfl⟩
  refine ⟨⟨name, descriptor⟩, ?_, ?_⟩
  · have called : instruction.calledMember? pool index = some (name, text) := by
      cases kind <;> simpa [calledMember?, calls, methodOfCall?] using isMember
    simp [callee?, isIndex, called, parses]
  · cases kind <;> simp [CallKind.hasReceiver]

theorem exists_effect_of_callOperands {kind : CallKind} (calls : instruction.opcode = .invoke kind)
    (expects : instruction.callOperands environment.pool kind = some operands) :
    ∃ product, instruction.effect environment = .replace operands.length product := by
  rcases exists_callee_of_callOperands calls expects with ⟨callee, resolves, length⟩
  rw [effect_call calls resolves, length]
  exact ⟨_, rfl⟩

theorem length_of_fieldOperands {pool : ConstantPool} {hasObject : Bool}
    (expects : instruction.fieldOperands pool hasObject = some operands) :
    operands.length = if hasObject then 2 else 1 := by
  rcases Option.map_eq_some_iff.1 expects with ⟨field, _, rfl⟩
  cases hasObject <;> rfl

/-- An instruction takes as many entries as it expects operands. -/
theorem exists_effect_of_expectedOperands
    (expects : instruction.expectedOperands environment.pool = some operands) :
    ∃ product, instruction.effect environment = .replace operands.length product := by
  cases opcode : instruction.opcode
  case store kind slot =>
    cases kind <;> simp only [expectedOperands, opcode, Option.some.injEq, reduceCtorEq] at expects
    all_goals
      subst expects
      exact ⟨none, by simp [effect, opcode, Effect.drop]⟩
  case arrayStore kind | returnValue kind =>
    simp only [expectedOperands, opcode, Option.some.injEq] at expects
    subst expects
    exact ⟨none, by simp [effect, opcode, Effect.drop]⟩
  case putField | putStatic =>
    simp only [expectedOperands, opcode] at expects
    rw [length_of_fieldOperands expects]
    exact ⟨none, by simp [effect, opcode, Effect.drop]⟩
  case invoke kind =>
    simp only [expectedOperands, opcode] at expects
    exact exists_effect_of_callOperands opcode expects
  all_goals simp [expectedOperands, opcode] at expects

theorem exists_pushed_of_expectedOperands
    (expects : instruction.expectedOperands environment.pool = some operands) :
    ∃ pushed : Option Entry, ∀ state : StackState,
      ((∃ cause, interpret environment instruction state = .error cause) ↔
        state.length < operands.length) ∧
      ∀ result, interpret environment instruction state = .ok result →
        result.toList = state.toList.rdrop operands.length ++ pushed.toList := by
  rcases exists_effect_of_expectedOperands expects with ⟨product, isEffect⟩
  refine ⟨Effect.made instruction.offset product, fun state => ?_⟩
  simp only [interpret, isEffect]
  refine ⟨Effect.apply_replace_eq_error_iff, ?_⟩
  intro result succeeds
  exact (Effect.apply_replace_eq_ok_iff.1 succeeds).2

end Instruction

/-- What there is to say about an entry in the place of an operand. An entry of unknown type fits
everywhere. -/
def Operand.mismatch? (operand : Operand) (entry : Entry) : Option Observation :=
  if entry.valueType ≠ .unknown ∧ operand.valueType ≠ entry.valueType then
    some (.operandMismatch operand entry.valueType)
  else none

theorem zip_reverse {α β : Type} (left : List α) (right : List β) :
    left.reverse.zip right.reverse = ((left.rtake (min left.length right.length)).zip
      (right.rtake (min left.length right.length))).reverse := by
  have sameLength : (left.rtake (min left.length right.length)).length =
      (right.rtake (min left.length right.length)).length := by
    simp only [List.rtake, List.length_drop]
    omega
  have reversed : ((left.rtake (min left.length right.length)).zip
      (right.rtake (min left.length right.length))).reverse = _ := List.reverse_zipWith sameLength
  rw [reversed, List.zip_eq_zip_take_min]
  simp [List.rtake_eq_reverse_take_reverse, List.zip]

theorem checkOperands_eq (state : StackState) (expected : List Operand) :
    checkOperands state expected =
      ((expected.rtake (min expected.length state.length)).zip
        (state.toList.rtake (min expected.length state.length))).reverse.filterMap
          fun (operand, entry) => operand.mismatch? entry := by
  rw [StackState.length_eq, ← zip_reverse, checkOperands, StackState.types, ← List.map_reverse,
    List.zip_map_right, List.filterMap_map]
  rfl

/-- Findings about types and interpretation agree on what an instruction takes. Where operands are
expected, interpretation fails exactly on stacks with fewer entries; otherwise it takes as many
entries as there are operands and pushes at most one, the same on every stack. The comparison pairs
the top of a stack with the last operand and so on down, for as long as there are both, and says one
thing about each entry whose type is known and is not the expected one, from the top down. -/
theorem expectedOperands_taken (method : Method) (names : LocalNames) (placeholder : String)
    (instruction : Instruction) :
    (∀ operands, instruction.expectedOperands method.pool = some operands →
      ∃ pushed : Option Entry, ∀ state : StackState,
        ((∃ cause, interpret ⟨method.pool, names, placeholder⟩ instruction state = .error cause) ↔
          state.length < operands.length) ∧
        ∀ result, interpret ⟨method.pool, names, placeholder⟩ instruction state = .ok result →
          result.toList = state.toList.rdrop operands.length ++ pushed.toList) ∧
    ∀ (state : StackState) (expected : List Operand),
      checkOperands state expected =
        ((expected.rtake (min expected.length state.length)).zip
          (state.toList.rtake (min expected.length state.length))).reverse.filterMap
            fun (operand, entry) => operand.mismatch? entry := by
  refine ⟨?_, checkOperands_eq⟩
  intro operands expects
  exact Instruction.exists_pushed_of_expectedOperands expects

/-- A write of a field of two words. -/
def wideWrite : Instruction := { offset := 4, opcode := .putField, operands := [0, 6] }

/-- A method with such a field. -/
def wideWriting : Method := { pool := (ConstantPool.empty.addFieldRef "A" "x" "J").2 }

/-- What the write expects. -/
def wideOperands : List Operand := [⟨.reference, .object⟩, ⟨.long, .fieldValue "x"⟩]

theorem expectedOperands_taken_wideWrite :
    wideWrite.expectedOperands wideWriting.pool = some wideOperands ∧
      (∃ cause, interpret ⟨wideWriting.pool, { table := [] }, "?"⟩ wideWrite
        (.ofList [.make none .double "d"]) = .error cause) ∧
      (∃ (result : StackState) (pushed : Option Entry),
        interpret ⟨wideWriting.pool, { table := [] }, "?"⟩ wideWrite
          (.ofList [.make none .int "i", .make none .float "f", .make none .unknown "?"]) =
            .ok result ∧
        result.toList = [.make none .int "i"] ++ pushed.toList) ∧
      checkOperands (.ofList [.make none .double "d"]) wideOperands =
        [.operandMismatch ⟨.long, .fieldValue "x"⟩ .double] ∧
      checkOperands (.ofList [.make none .int "i", .make none .float "f", .make none .unknown "?"])
        wideOperands = [.operandMismatch ⟨.reference, .object⟩ .float] := by
  have expects : wideWrite.expectedOperands wideWriting.pool = some wideOperands := by
    decide +kernel
  rcases expectedOperands_taken wideWriting { table := [] } "?" wideWrite with ⟨agrees, compares⟩
  rcases agrees wideOperands expects with ⟨pushed, taken⟩
  refine ⟨expects, (taken _).1.2 (by decide), ?_, ?_, ?_⟩
  · rcases taken (.ofList [.make none .int "i", .make none .float "f", .make none .unknown "?"])
      with ⟨fails, keeps⟩
    cases outcome : interpret ⟨wideWriting.pool, { table := [] }, "?"⟩ wideWrite
        (.ofList [.make none .int "i", .make none .float "f", .make none .unknown "?"]) with
    | error cause => exact absurd (fails.1 ⟨cause, outcome⟩) (by decide)
    | ok result => exact ⟨result, pushed, rfl, keeps result outcome⟩
  · rw [compares]
    rfl
  · rw [compares]
    rfl

end StackFlow
