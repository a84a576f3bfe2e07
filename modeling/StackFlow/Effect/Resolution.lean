import StackFlow.ConstantPool
import StackFlow.Decimal.Layout
import StackFlow.Descriptor.Parser
import StackFlow.Instruction
import StackFlow.Stack.Entry

/-!
# What instructions refer to

The class, the member, the call and the constant that the operands of an instruction name in a
constant pool. None of these need exist: an instruction whose operands are missing or name nothing
of the right kind refers to nothing.
-/

namespace StackFlow

/-- A method that an instruction calls. -/
structure Callee where
  name : String
  descriptor : MethodDescriptor
deriving Repr, DecidableEq

/-- A field that an instruction accesses. -/
structure FieldAccess where
  name : String
  type : FieldType
deriving Repr, DecidableEq

namespace Instruction

/-- The source name of the class that the instruction refers to. -/
def className? (pool : ConstantPool) (instruction : Instruction) : Option String := do
  let index ← instruction.constantIndex.toOption
  let name ← pool.className? index
  let type ← (ReferenceType.ofClassConstant name).toOption
  return type.sourceName

/-- The field that the instruction refers to. -/
def field? (pool : ConstantPool) (instruction : Instruction) : Option FieldAccess := do
  let index ← instruction.constantIndex.toOption
  let member ← pool.memberRef? index
  let type ← (Reader.parse FieldType.read member.descriptor).toOption
  return { name := member.name, type }

/-- The name and the descriptor of the method that a call refers to. Only a dynamic call refers to a
call site. -/
def calledMember? (pool : ConstantPool) (instruction : Instruction) (index : ConstantIndex) :
    Option (String × String) :=
  match instruction.opcode with
  | .invoke .dynamic => pool.callSite? index
  | _ => (pool.memberRef? index).map fun member => (member.name, member.descriptor)

/-- The method that the instruction calls. -/
def callee? (pool : ConstantPool) (instruction : Instruction) : Option Callee := do
  let index ← instruction.constantIndex.toOption
  let (name, text) ← instruction.calledMember? pool index
  let descriptor ← (Reader.parse MethodDescriptor.read text).toOption
  return { name, descriptor }

/-- The constant that the instruction refers to. -/
def constant? (pool : ConstantPool) (instruction : Instruction) : Option Constant := do
  let index ← instruction.constantIndex.toOption
  pool.get? index

/-- The type and the text of a constant loaded onto the stack. A class that cannot be read is shown
by the given placeholder; other constants that cannot be loaded give none. -/
def loaded? (pool : ConstantPool) (placeholder : String) (instruction : Instruction) :
    Option (ValueType × String) :=
  match instruction.constant? pool with
  | some (.integer value) => some (.int, toString value.toInt)
  | some (.float bits) => some (.float, floatText bits)
  | some (.long value) => some (.long, toString value.toInt)
  | some (.double bits) => some (.double, doubleText bits)
  | some (.string text) => (pool.text? text).map fun text => (.reference, Text.quoted text)
  | some (.classRef _) =>
    some (.reference, (instruction.className? pool).getD placeholder ++ ".class")
  | some (.methodType descriptor) =>
    (pool.text? descriptor).map fun text => (.reference, text)
  | some (.methodHandle ..) => some (.reference, "<method handle>")
  | some (.dynamic _ nameAndType) => do
    let (name, descriptor) ← pool.nameAndType? nameAndType
    let type ← (Reader.parse FieldType.read descriptor).toOption
    return (.ofFieldType type, name)
  | _ => none

end Instruction

end StackFlow
