import StackFlow.Error

/-!
# Instructions

An instruction is an opcode at an offset of the code array with the operand bytes that follow it. An
instruction widened by a `wide` in front of it is one instruction with two-byte operands. Operands
are read on demand and big-endian; a read past the last operand byte is an error.
-/

namespace StackFlow

/-- One instruction of a method. -/
structure Instruction where
  /-- The offset of the opcode in the code array. -/
  offset : Nat
  opcode : Opcode
  /-- The bytes after the opcode. -/
  operands : List UInt8 := []
  /-- Whether a `wide` stands in front of the instruction. -/
  wide : Bool := false
deriving Repr, DecidableEq

namespace Instruction

/-- The operand bytes of a given number from a position on. -/
def operandBytes (instruction : Instruction) (position count : Nat) :
    Except Error (List UInt8) :=
  let bytes := (instruction.operands.drop position).take count
  if bytes.length = count then .ok bytes
  else .error (.missingOperand instruction.offset instruction.opcode)

/-- The number that bytes stand for, the most significant byte first. -/
def bigEndian (bytes : List UInt8) : Nat :=
  bytes.foldl (fun value byte => 256 * value + byte.toNat) 0

/-- The unsigned operand of `count` bytes at a position. -/
def unsigned (instruction : Instruction) (position count : Nat) : Except Error Nat :=
  (instruction.operandBytes position count).map bigEndian

/-- The signed operand, in two's complement, of `count` bytes at a position. -/
def signed (instruction : Instruction) (position count : Nat) : Except Error Int :=
  (instruction.unsigned position count).map fun value =>
    Int.bmod value (1 <<< (8 * count))

/-- The index into the constant pool. Only the narrow constant load has an index of one byte. -/
def constantIndex (instruction : Instruction) : Except Error Nat :=
  match instruction.opcode with
  | .loadConstant .narrow => instruction.unsigned 0 1
  | _ => instruction.unsigned 0 2

/-- The slot of the local variable, carried by the opcode or read from the operands. -/
def localIndex (instruction : Instruction) : Except Error Nat :=
  match instruction.opcode.implicitLocal with
  | some slot => .ok slot
  | none => instruction.unsigned 0 (if instruction.wide then 2 else 1)

/-- The amount by which an increment instruction increments. -/
def increment (instruction : Instruction) : Except Error Int :=
  if instruction.wide then instruction.signed 2 2 else instruction.signed 1 1

/-- The number of dimensions of a multi-dimensional array creation. -/
def dimensions (instruction : Instruction) : Except Error Nat := instruction.unsigned 2 1

/-- The code of the element type of a primitive array creation. -/
def arrayTypeCode (instruction : Instruction) : Except Error Nat := instruction.unsigned 0 1

/-- The instruction as a line of a listing. -/
def render (instruction : Instruction) : String :=
  s!"{instruction.offset}: " ++ (if instruction.wide then "wide " else "") ++
    instruction.opcode.mnemonic ++
    String.join (instruction.operands.map fun byte => " " ++ Text.hexByte byte)

end Instruction

end StackFlow
