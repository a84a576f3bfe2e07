import StackFlow.Opcode.Encoding
import StackFlow.Text.Quoted

/-!
# Causes of rejection

`Error` lists why an input is rejected: it names something that does not exist, or an instruction
lacks operand bytes. `StackError` is the one way in which an instruction can fail on a stack. The
wording of both stands here and nowhere else.
-/

namespace StackFlow

/-- A node of a flow graph, by the order in which nodes were added. -/
abbrev NodeId := Nat

/-- An edge of a flow graph, by the order in which edges were added. -/
abbrev EdgeId := Nat

/-- How a node is called in messages. -/
def nodeName (node : NodeId) : String := s!"n{node}"

/-- How an edge is called in messages. -/
def edgeName (edge : EdgeId) : String := s!"e{edge}"

/-- Why an input is rejected. -/
inductive Error where
  /-- The node is not in the graph. -/
  | unknownNode (node : NodeId)
  /-- The edge is not in the graph, or no longer. -/
  | unknownEdge (edge : EdgeId)
  /-- The node refers to an instruction that the method does not have. -/
  | unknownInstruction (node : NodeId) (index : Nat)
  /-- No opcode has this byte. -/
  | unknownOpcode (byte : UInt8)
  /-- The instruction has too few operand bytes for the operand asked for. -/
  | missingOperand (offset : Nat) (opcode : Opcode)
deriving Repr, DecidableEq

/-- The wording of an error. -/
def Error.message : Error → String
  | .unknownNode node => s!"unknown node {nodeName node}"
  | .unknownEdge edge => s!"unknown edge {edgeName edge}"
  | .unknownInstruction node index =>
    s!"node {nodeName node} refers to missing instruction #{index}"
  | .unknownOpcode byte => s!"unknown opcode 0x{Text.hexByte byte}"
  | .missingOperand offset opcode =>
    s!"missing operand for '{opcode.mnemonic}' at offset {offset}"

/-- Why an instruction fails on a stack. -/
inductive StackError where
  /-- An operand was to be taken from an empty stack. -/
  | emptyStack
deriving Repr, DecidableEq

/-- The wording of a stack error. -/
def StackError.message : StackError → String
  | .emptyStack => "empty stack"

/-- The opcode of a byte. -/
def Opcode.ofByte (byte : UInt8) : Except Error Opcode :=
  match Opcode.ofByte? byte with
  | some opcode => .ok opcode
  | none => .error (.unknownOpcode byte)

end StackFlow
