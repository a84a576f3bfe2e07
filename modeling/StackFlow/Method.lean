import StackFlow.ConstantPool
import StackFlow.Instruction
import StackFlow.Locals

/-!
# Methods

What is known of a method: its instructions, the constants they refer to, its local variables, its
exception handlers and the stack size that it declares. All of it is input and is only read.
-/

namespace StackFlow

/-- An exception handler. -/
structure Handler where
  /-- The first offset of the protected range. -/
  start : Nat
  /-- The offset after the protected range. -/
  stop : Nat
  /-- The offset at which the handler starts. -/
  target : Nat
  /-- The class of the exceptions that are caught, or zero for all. -/
  catchType : ConstantIndex
deriving Repr, DecidableEq

/-- Whether a handler catches every exception. -/
def Handler.catchesAny (handler : Handler) : Bool := handler.catchType == 0

/-- The body of a method. -/
structure Method where
  /-- The instructions in the order of their offsets. -/
  instructions : Array Instruction := #[]
  pool : ConstantPool := .empty
  locals : LocalTable := []
  handlers : List Handler := []
  /-- The greatest size of the operand stack that the method declares, in words. -/
  maxStack : Nat := 0

namespace Method

/-- The index of the instruction at an offset. -/
def indexOf? (method : Method) (offset : Nat) : Option Nat :=
  method.instructions.findIdx? (·.offset == offset)

/-- The handlers that start at an offset, in the order of the table. -/
def handlersAt (method : Method) (offset : Nat) : List Handler :=
  method.handlers.filter (·.target == offset)

/-- The instruction that a node with an optional instruction index stands for. -/
def instruction? (method : Method) (index : Option Nat) : Option Instruction :=
  index.bind fun index => method.instructions[index]?

end Method

end StackFlow
