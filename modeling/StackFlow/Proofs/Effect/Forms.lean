import StackFlow.Effect.Interpretation

/-!
# Forms of one instruction

Loads and stores of local variables come in three forms, which differ in where the slot stands: in
one operand byte, in two after a `wide`, or in the opcode. Loads of constants come in three forms
too. Which form is taken makes no difference: all forms of an instruction refer to the same slot or
constant, and what an instruction does depends on its form only through what it refers to.
-/

namespace StackFlow

namespace Instruction

/-- The forms of an instruction at an offset that accesses the local variable of a slot. -/
inductive Accesses (access : LocalKind → Option (Fin 4) → Opcode) (kind : LocalKind)
    (slot : UInt8) (offset : Nat) : Instruction → Prop where
  | narrow : Accesses access kind slot offset
      { offset, opcode := access kind none, operands := [slot] }
  | widened : Accesses access kind slot offset
      { offset, opcode := access kind none, operands := [0, slot], wide := true }
  | short (carried : Fin 4) : carried.val = slot.toNat → Accesses access kind slot offset
      { offset, opcode := access kind (some carried) }

/-- The forms of an instruction at an offset that loads the constant of an index. -/
inductive LoadsConstant (index : UInt8) (offset : Nat) : Instruction → Prop where
  | narrow : LoadsConstant index offset
      { offset, opcode := .loadConstant .narrow, operands := [index] }
  | wide : LoadsConstant index offset
      { offset, opcode := .loadConstant .wide, operands := [0, index] }
  | wideTwoWords : LoadsConstant index offset
      { offset, opcode := .loadConstant .wideTwoWords, operands := [0, index] }

theorem bigEndian_singleton (byte : UInt8) : bigEndian [byte] = byte.toNat := by
  simp [bigEndian]

theorem bigEndian_zero_cons (bytes : List UInt8) : bigEndian (0 :: bytes) = bigEndian bytes := rfl

/-- All operand bytes together are one operand. -/
theorem unsigned_operands (instruction : Instruction) :
    instruction.unsigned 0 instruction.operands.length =
      .ok (bigEndian instruction.operands) := by
  simp [unsigned, operandBytes, Except.map]

section Forms

variable {access : LocalKind → Option (Fin 4) → Opcode} {kind : LocalKind} {slot index : UInt8}
  {offset : Nat} {instruction left right : Instruction}

theorem Accesses.offset_eq (accesses : Accesses access kind slot offset instruction) :
    instruction.offset = offset := by
  cases accesses <;> rfl

theorem LoadsConstant.offset_eq (loads : LoadsConstant index offset instruction) :
    instruction.offset = offset := by
  cases loads <;> rfl

theorem Accesses.exists_opcode (accesses : Accesses access kind slot offset instruction) :
    ∃ form, instruction.opcode = access kind form := by
  cases accesses <;> exact ⟨_, rfl⟩

theorem LoadsConstant.exists_opcode (loads : LoadsConstant index offset instruction) :
    ∃ form, instruction.opcode = .loadConstant form := by
  cases loads <;> exact ⟨_, rfl⟩

/-- Every form refers to the slot. -/
theorem Accesses.localIndex_eq (isLocal : access = .load ∨ access = .store)
    (accesses : Accesses access kind slot offset instruction) :
    instruction.localIndex = .ok slot.toNat := by
  have implicitLocal (form : Option (Fin 4)) :
      (access kind form).implicitLocal = form.map Fin.val := by
    rcases isLocal with rfl | rfl <;> rfl
  cases accesses with
  | narrow =>
      rw [localIndex, implicitLocal]
      exact (unsigned_operands _).trans (by rw [bigEndian_singleton])
  | widened =>
      rw [localIndex, implicitLocal]
      exact (unsigned_operands _).trans (by rw [bigEndian_zero_cons, bigEndian_singleton])
  | short carried isSlot =>
      rw [localIndex, implicitLocal]
      exact congrArg Except.ok isSlot

/-- Every form refers to the constant. -/
theorem LoadsConstant.constantIndex_eq (loads : LoadsConstant index offset instruction) :
    instruction.constantIndex = .ok index.toNat := by
  cases loads with
  | narrow => exact (unsigned_operands _).trans (by rw [bigEndian_singleton])
  | wide => exact (unsigned_operands _).trans (by rw [bigEndian_zero_cons, bigEndian_singleton])
  | wideTwoWords =>
      exact (unsigned_operands _).trans (by rw [bigEndian_zero_cons, bigEndian_singleton])

theorem loadedName_congr (environment : Environment) (sameSlot : left.localIndex = right.localIndex)
    (sameOffset : left.offset = right.offset) :
    left.loadedName environment = right.loadedName environment := by
  simp only [loadedName, sameSlot, sameOffset]

theorem loaded?_congr (pool : ConstantPool) (placeholder : String)
    (sameIndex : left.constantIndex = right.constantIndex) :
    left.loaded? pool placeholder = right.loaded? pool placeholder := by
  simp only [loaded?, constant?, className?, sameIndex]

theorem effect_access_congr (environment : Environment) (isLocal : access = .load ∨ access = .store)
    {leftForm rightForm : Option (Fin 4)} (isLeft : left.opcode = access kind leftForm)
    (isRight : right.opcode = access kind rightForm)
    (sameSlot : left.localIndex = right.localIndex) (sameOffset : left.offset = right.offset) :
    left.effect environment = right.effect environment := by
  rcases isLocal with rfl | rfl
  · simp only [effect, isLeft, isRight, loadedName_congr environment sameSlot sameOffset]
  · simp only [effect, isLeft, isRight]

theorem effect_loadConstant_congr (environment : Environment) {leftForm rightForm : ConstantForm}
    (isLeft : left.opcode = .loadConstant leftForm)
    (isRight : right.opcode = .loadConstant rightForm)
    (sameIndex : left.constantIndex = right.constantIndex) :
    left.effect environment = right.effect environment := by
  simp only [effect, isLeft, isRight,
    loaded?_congr environment.pool environment.placeholder sameIndex]

end Forms

end Instruction

open Instruction

/-- All forms of an instruction are interpreted alike. Two forms of the load or the store of a local
variable refer to its slot and give the same state or the same failure on every state, and so do two
forms of the load of a constant. -/
theorem interpret_forms_alike (environment : Environment) (offset : Nat) (state : StackState) :
    (∀ access, access = Opcode.load ∨ access = Opcode.store →
      ∀ (kind : LocalKind) (slot : UInt8) (left right : Instruction),
        Accesses access kind slot offset left → Accesses access kind slot offset right →
          left.localIndex = .ok slot.toNat ∧
          interpret environment left state = interpret environment right state) ∧
    ∀ (index : UInt8) (left right : Instruction),
      LoadsConstant index offset left → LoadsConstant index offset right →
        left.constantIndex = .ok index.toNat ∧
        interpret environment left state = interpret environment right state := by
  constructor
  · intro access isLocal kind slot left right leftForm rightForm
    have leftSlot := leftForm.localIndex_eq isLocal
    have rightSlot := rightForm.localIndex_eq isLocal
    have sameOffset := leftForm.offset_eq.trans rightForm.offset_eq.symm
    rcases leftForm.exists_opcode with ⟨_, isLeft⟩
    rcases rightForm.exists_opcode with ⟨_, isRight⟩
    refine ⟨leftSlot, ?_⟩
    rw [interpret, interpret, sameOffset, effect_access_congr environment isLocal isLeft isRight
      (leftSlot.trans rightSlot.symm) sameOffset]
  · intro index left right leftForm rightForm
    have leftIndex := leftForm.constantIndex_eq
    have rightIndex := rightForm.constantIndex_eq
    have sameOffset := leftForm.offset_eq.trans rightForm.offset_eq.symm
    rcases leftForm.exists_opcode with ⟨_, isLeft⟩
    rcases rightForm.exists_opcode with ⟨_, isRight⟩
    refine ⟨leftIndex, ?_⟩
    rw [interpret, interpret, sameOffset, effect_loadConstant_congr environment isLeft isRight
      (leftIndex.trans rightIndex.symm)]

/-- A pool with a text and a constant for it, a named variable in the last slot that opcodes carry,
and a placeholder. -/
def namedLast : Environment :=
  ⟨(ConstantPool.empty.addString "text").2, { table := [⟨3, 0, 9, "last", "J"⟩] }, "?"⟩

theorem interpret_forms_alike_namedLast :
    (Accesses .load .long 3 5 { offset := 5, opcode := .load .long (some (Fin.last 3)) } ∧
      interpret namedLast { offset := 5, opcode := .load .long (some (Fin.last 3)) } .empty =
        interpret namedLast
          { offset := 5, opcode := .load .long none, operands := [0, 3], wide := true } .empty) ∧
    LoadsConstant 2 5 { offset := 5, opcode := .loadConstant .narrow, operands := [2] } ∧
      interpret namedLast { offset := 5, opcode := .loadConstant .narrow, operands := [2] } .empty =
        interpret namedLast
          { offset := 5, opcode := .loadConstant .wideTwoWords, operands := [0, 2] } .empty := by
  have short :
      Accesses .load .long 3 5 { offset := 5, opcode := .load .long (some (Fin.last 3)) } :=
    .short (Fin.last 3) rfl
  rcases interpret_forms_alike namedLast 5 .empty with ⟨accesses, loads⟩
  exact ⟨⟨short, (accesses .load (.inl rfl) .long 3 _ _ short .widened).2⟩, .narrow,
    (loads 2 _ _ .narrow .wideTwoWords).2⟩

end StackFlow
