/-!
# Opcodes

The instruction set of the Java virtual machine. Opcodes that differ only in the type they work on,
in an operator or in a small operand that they carry themselves form one family with a parameter, so
that a statement about a family is one statement. Each parameter type holds just the choices that
exist, so every value of `Opcode` is an opcode of the machine.
-/

namespace StackFlow

/-- The kinds of local variables and of returned values. -/
inductive LocalKind where
  | int | long | float | double | reference
deriving Repr, DecidableEq

/-- The kinds of numbers that arithmetic works on. -/
inductive NumberKind where
  | int | long | float | double
deriving Repr, DecidableEq

/-- The kinds of numbers that shifts and bitwise operators work on. -/
inductive IntegerKind where
  | int | long
deriving Repr, DecidableEq

/-- The kinds of array elements that array instructions tell apart. -/
inductive ElementKind where
  | int | long | float | double | reference | byte | char | short
deriving Repr, DecidableEq

/-- Arithmetic operators of two operands. -/
inductive ArithmeticOp where
  | add | sub | mul | div | rem
deriving Repr, DecidableEq

/-- Shifts and bitwise operators. -/
inductive BitwiseOp where
  | shl | shr | ushr | and | or | xor
deriving Repr, DecidableEq

/-- Conversions between kinds of numbers. -/
inductive Conversion where
  | intToLong | intToFloat | intToDouble
  | longToInt | longToFloat | longToDouble
  | floatToInt | floatToLong | floatToDouble
  | doubleToInt | doubleToLong | doubleToFloat
  | intToByte | intToChar | intToShort
deriving Repr, DecidableEq

/-- Three-way comparisons. The two forms for floating-point numbers differ on unordered operands. -/
inductive ThreeWay where
  | long | floatLess | floatGreater | doubleLess | doubleGreater
deriving Repr, DecidableEq

/-- Conditions of branches that compare integers. -/
inductive Condition where
  | eq | ne | lt | ge | gt | le
deriving Repr, DecidableEq

/-- Conditions of branches that compare references. -/
inductive Identity where
  | eq | ne
deriving Repr, DecidableEq

/-- How a call finds its method. -/
inductive CallKind where
  | virtual | special | static | interface | dynamic
deriving Repr, DecidableEq

/-- The forms of the instruction that loads a constant of the pool. -/
inductive ConstantForm where
  | narrow | wide | wideTwoWords
deriving Repr, DecidableEq

/-- An opcode of the machine. -/
inductive Opcode where
  | nop
  | nullConst
  /-- Pushes its parameter less one. -/
  | intConst (choice : Fin 7)
  | longConst (value : Fin 2)
  | floatConst (value : Fin 3)
  | doubleConst (value : Fin 2)
  | bytePush
  | shortPush
  | loadConstant (form : ConstantForm)
  /-- Loads a local variable, whose slot is an operand unless the opcode carries it. -/
  | load (kind : LocalKind) (slot : Option (Fin 4))
  | arrayLoad (kind : ElementKind)
  /-- Stores into a local variable, whose slot is an operand unless the opcode carries it. -/
  | store (kind : LocalKind) (slot : Option (Fin 4))
  | arrayStore (kind : ElementKind)
  | pop
  | pop2
  /-- Copies the top of the stack below as many further entries as the parameter says. -/
  | dup (depth : Fin 3)
  | dup2 (depth : Fin 3)
  | swap
  | arithmetic (op : ArithmeticOp) (kind : NumberKind)
  | negate (kind : NumberKind)
  | bitwise (op : BitwiseOp) (kind : IntegerKind)
  | increment
  | convert (conversion : Conversion)
  | threeWay (comparison : ThreeWay)
  /-- Branches if an integer is in the given relation to zero. -/
  | ifZero (condition : Condition)
  | ifInts (condition : Condition)
  | ifReferences (condition : Identity)
  | ifNull
  | ifNonNull
  | goto
  | gotoWide
  | jsr
  | jsrWide
  | ret
  | tableSwitch
  | lookupSwitch
  | returnValue (kind : LocalKind)
  | returnVoid
  | getStatic
  | putStatic
  | getField
  | putField
  | invoke (kind : CallKind)
  | new
  | newArray
  | newReferenceArray
  | newMultiArray
  | arrayLength
  | throw
  | checkCast
  | instanceOf
  | monitorEnter
  | monitorExit
  | wide
  | breakpoint
  | implementation1
  | implementation2
deriving Repr, DecidableEq

namespace Opcode

/-- The slot of the local variable that the opcode itself carries. -/
def implicitLocal : Opcode → Option Nat
  | .load _ slot | .store _ slot => slot.map Fin.val
  | _ => none

/-- Whether the opcode reads a local variable onto the stack. -/
def isLoad : Opcode → Bool
  | .load .. => true
  | _ => false

/-- Whether the opcode writes the top of the stack into a local variable. -/
def isStore : Opcode → Bool
  | .store .. => true
  | _ => false

/-- Whether the opcode leaves the method, by returning or by throwing. -/
def isReturn : Opcode → Bool
  | .returnValue _ | .returnVoid | .throw => true
  | _ => false

/-- Whether the opcode branches on a condition. -/
def isConditionalBranch : Opcode → Bool
  | .ifZero _ | .ifInts _ | .ifReferences _ | .ifNull | .ifNonNull => true
  | _ => false

/-- Whether the opcode calls a method. -/
def isInvoke : Opcode → Bool
  | .invoke _ => true
  | _ => false

/-- The number of operand bytes after the opcode. The switches are sized by their own operands, and
`wide` by the instruction that it widens. -/
def operandLength : Opcode → Option Nat
  | .tableSwitch | .lookupSwitch | .wide => none
  | .bytePush | .loadConstant .narrow | .newArray | .ret => some 1
  | .load _ slot | .store _ slot => some (if slot.isSome then 0 else 1)
  | .shortPush | .loadConstant _ | .increment => some 2
  | .getStatic | .putStatic | .getField | .putField => some 2
  | .invoke .interface | .invoke .dynamic => some 4
  | .invoke _ => some 2
  | .new | .newReferenceArray | .checkCast | .instanceOf => some 2
  | .goto | .jsr => some 2
  | .ifZero _ | .ifInts _ | .ifReferences _ | .ifNull | .ifNonNull => some 2
  | .newMultiArray => some 3
  | .gotoWide | .jsrWide => some 4
  | _ => some 0

end Opcode

end StackFlow
