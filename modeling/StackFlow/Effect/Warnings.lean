import StackFlow.Effect.Interpretation
import StackFlow.Event

/-!
# Warnings of interpretation

What an instruction refers to in vain is told by events. Some instructions look up their operands
only after they have taken their entries from the stack, so what they tell depends on whether they
succeeded.
-/

namespace StackFlow

namespace Instruction

/-- The warning about an operand that could not be read. -/
def operandWarnings {α : Type} (instruction : Instruction) (operand : Except Error α) :
    List Event :=
  match operand with
  | .ok _ => []
  | .error error => [.unreadableOperand instruction error]

/-- The warnings about a class. -/
def classWarnings (pool : ConstantPool) (instruction : Instruction) : List Event :=
  instruction.operandWarnings instruction.constantIndex ++
    if (instruction.className? pool).isSome then [] else [.unresolvableClass instruction]

/-- The warnings about a field. -/
def fieldWarnings (pool : ConstantPool) (instruction : Instruction) : List Event :=
  instruction.operandWarnings instruction.constantIndex ++
    if (instruction.field? pool).isSome then [] else [.unresolvableField instruction]

/-- The warnings about a call. An index that cannot be read is told once. -/
def callWarnings (pool : ConstantPool) (instruction : Instruction) : List Event :=
  match instruction.constantIndex with
  | .error error => [.unreadableOperand instruction error]
  | .ok _ => if (instruction.callee? pool).isSome then [] else [.unresolvableMethod instruction]

/-- The warnings about a loaded constant. -/
def constantWarnings (pool : ConstantPool) (instruction : Instruction) : List Event :=
  instruction.operandWarnings instruction.constantIndex ++
    match instruction.constant? pool with
    | some (.classRef _) => instruction.classWarnings pool
    | _ =>
      if (instruction.loaded? pool "").isSome then [] else [.unresolvableConstant instruction]

/-- The warnings that interpreting an instruction gives, on a state on which it succeeded or not. -/
def warnings (pool : ConstantPool) (instruction : Instruction) (succeeded : Bool) : List Event :=
  match instruction.opcode with
  | .bytePush => instruction.operandWarnings (instruction.signed 0 1)
  | .shortPush => instruction.operandWarnings (instruction.signed 0 2)
  | .loadConstant _ => instruction.constantWarnings pool
  | .load .. => instruction.operandWarnings instruction.localIndex
  | .getStatic => instruction.fieldWarnings pool
  | .getField => if succeeded then instruction.fieldWarnings pool else []
  | .invoke _ => instruction.callWarnings pool
  | .new => instruction.classWarnings pool
  | .newArray =>
    if succeeded then instruction.operandWarnings instruction.arrayTypeCode else []
  | .newReferenceArray | .instanceOf =>
    if succeeded then instruction.classWarnings pool else []
  | .newMultiArray =>
    instruction.operandWarnings instruction.dimensions ++
      if succeeded then instruction.classWarnings pool else []
  | _ => []

end Instruction

end StackFlow
