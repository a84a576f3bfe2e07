import StackFlow.Effect.Basic
import StackFlow.Effect.Resolution
import StackFlow.Locals

/-!
# Interpretation of instructions

`Instruction.effect` gives the stack effect of an instruction, with the expressions that describe
the pushed values, and `interpret` applies it to a state. Whatever cannot be resolved becomes the
placeholder with an unknown type, so the only failure is an empty stack.
-/

namespace StackFlow

/-- What instructions are interpreted in. -/
structure Environment where
  pool : ConstantPool
  names : LocalNames
  /-- The text that stands for whatever cannot be resolved. -/
  placeholder : String

/-- The value of what a call or a comparison gives. -/
def returnedValue : String := "<return value>"

/-- The value that a subroutine call pushes. -/
def returnAddressValue : String := "<return address>"

namespace LocalKind

/-- The type of a local variable's value. -/
def valueType : LocalKind → ValueType
  | .int => .int | .long => .long | .float => .float | .double => .double | .reference => .reference

end LocalKind

namespace NumberKind

/-- The type of a number. -/
def valueType : NumberKind → ValueType
  | .int => .int | .long => .long | .float => .float | .double => .double

end NumberKind

namespace IntegerKind

/-- The type of an integer. -/
def valueType : IntegerKind → ValueType
  | .int => .int | .long => .long

end IntegerKind

namespace ElementKind

/-- The type of an array element on the stack. -/
def valueType : ElementKind → ValueType
  | .long => .long | .float => .float | .double => .double | .reference => .reference
  | .int | .byte | .char | .short => .int

end ElementKind

namespace ArithmeticOp

/-- The sign of an operator. -/
def sign : ArithmeticOp → String
  | .add => "+" | .sub => "-" | .mul => "*" | .div => "/" | .rem => "%"

end ArithmeticOp

namespace BitwiseOp

/-- The sign of an operator. Both shifts to the right have the same. -/
def sign : BitwiseOp → String
  | .shl => "<<" | .shr => ">>" | .ushr => ">>" | .and => "&" | .or => "|" | .xor => "^"

end BitwiseOp

namespace Conversion

/-- The type of a converted value. -/
def target : Conversion → ValueType
  | .intToLong | .floatToLong | .doubleToLong => .long
  | .intToFloat | .longToFloat | .doubleToFloat => .float
  | .intToDouble | .longToDouble | .floatToDouble => .double
  | .longToInt | .floatToInt | .doubleToInt | .intToByte | .intToChar | .intToShort => .int

end Conversion

namespace CallKind

/-- Whether a call has a receiver. -/
def hasReceiver : CallKind → Bool
  | .static | .dynamic => false
  | _ => true

end CallKind

namespace Expression

/-- Counts or indices in brackets. -/
def subscripts (indices : List String) : String :=
  String.join (indices.map fun index => "[" ++ index ++ "]")

/-- An array and the indices of an element of it. -/
def element : List String → String
  | [] => ""
  | array :: indices => array ++ subscripts indices

/-- Operands joined by the sign of an operator, in parentheses. -/
def joined (sign : String) (operands : List String) : String :=
  "(" ++ sign.intercalate operands ++ ")"

/-- A negated operand. -/
def negated (operands : List String) : String := "(-" ++ String.join operands ++ ")"

/-- The length of an array. -/
def arrayLength (operands : List String) : String := String.join operands ++ ".length"

/-- A type test. -/
def typeTest (className : String) (operands : List String) : String :=
  "(" ++ String.join operands ++ " instanceof " ++ className ++ ")"

/-- The creation of an array. The type's name is cut at its first bracket; the counts take the place
of the leading dimensions, and the dimensions without a count stay empty. -/
def arrayCreation (typeName : String) (counts : List String) : String :=
  let element := typeName.toList.takeWhile (· ≠ '[')
  let brackets := String.ofList (typeName.toList.dropWhile (· ≠ '['))
  let unfilled := brackets.utf8ByteSize / 2 - counts.length
  "new " ++ String.ofList element ++ subscripts counts ++ String.join (List.replicate unfilled "[]")

end Expression

namespace Instruction

/-- The text of an operand, or the placeholder if it is missing. -/
def operandText (placeholder : String) (operand : Except Error Int) : String :=
  match operand with
  | .ok value => toString value
  | .error _ => placeholder

/-- The name of the local variable that a load reads: the known name, or the slot's number. -/
def loadedName (environment : Environment) (instruction : Instruction) : String :=
  match instruction.localIndex with
  | .ok slot => (environment.names.loadName? slot instruction.offset).getD s!"local{slot}"
  | .error _ => environment.placeholder

/-- The source name of the class that the instruction refers to, or the placeholder. -/
def classNameText (environment : Environment) (instruction : Instruction) : String :=
  (instruction.className? environment.pool).getD environment.placeholder

/-- The type and the name of the field that the instruction refers to. -/
def fieldValue (environment : Environment) (instruction : Instruction) : ValueType × String :=
  match instruction.field? environment.pool with
  | some field => (.ofFieldType field.type, field.name)
  | none => (.unknown, environment.placeholder)

/-- The name of the element type of a primitive array creation, or the placeholder. -/
def arrayElementText (environment : Environment) (instruction : Instruction) : String :=
  match instruction.arrayTypeCode.toOption.bind BaseType.ofArrayCode? with
  | some type => type.sourceName
  | none => environment.placeholder

/-- The effect of a call. A call that cannot be resolved takes no arguments and gives an unknown
value. -/
def callEffect (environment : Environment) (kind : CallKind) (instruction : Instruction) : Effect :=
  let receivers := if kind.hasReceiver then 1 else 0
  match instruction.callee? environment.pool with
  | some callee =>
    .replace (callee.descriptor.parameters.length + receivers)
      (callee.descriptor.returnType.map fun type => (.ofFieldType type, returnedValue))
  | none => .replace receivers (some (.unknown, environment.placeholder))

/-- The stack effect of an instruction. -/
def effect (environment : Environment) (instruction : Instruction) : Effect :=
  match instruction.opcode with
  | .nop | .wide | .goto | .gotoWide | .ret | .increment | .breakpoint | .implementation1
  | .implementation2 | .returnVoid => .nothing
  | .nullConst => .push .reference "null"
  | .intConst choice => .push .int (toString ((choice.val : Int) - 1))
  | .longConst value => .push .long (toString value.val)
  | .floatConst value => .push .float (toString value.val ++ ".0")
  | .doubleConst value => .push .double (toString value.val ++ ".0")
  | .bytePush => .push .int (operandText environment.placeholder (instruction.signed 0 1))
  | .shortPush => .push .int (operandText environment.placeholder (instruction.signed 0 2))
  | .loadConstant _ =>
    match instruction.loaded? environment.pool environment.placeholder with
    | some (type, text) => .push type text
    | none => .push .unknown environment.placeholder
  | .load kind _ => .push kind.valueType (instruction.loadedName environment)
  | .arrayLoad kind => .combine 2 kind.valueType Expression.element
  | .store .. => .drop 1
  | .arrayStore _ => .drop 3
  | .pop => .drop 1
  | .pop2 => .dropTwoWords
  | .dup depth | .dup2 depth => .duplicate depth
  | .swap => .swap
  | .arithmetic op kind => .combine 2 kind.valueType (Expression.joined op.sign)
  | .bitwise op kind => .combine 2 kind.valueType (Expression.joined op.sign)
  | .negate kind => .combine 1 kind.valueType Expression.negated
  | .convert conversion => .retype conversion.target
  | .threeWay _ => .replace 2 (some (.int, returnedValue))
  | .ifZero _ | .ifNull | .ifNonNull | .tableSwitch | .lookupSwitch => .drop 1
  | .ifInts _ | .ifReferences _ => .drop 2
  | .jsr | .jsrWide => .push .returnAddress returnAddressValue
  | .returnValue _ => .drop 1
  | .getStatic => .replace 0 (some (instruction.fieldValue environment))
  | .getField => .replace 1 (some (instruction.fieldValue environment))
  | .putStatic => .drop 1
  | .putField => .drop 2
  | .invoke kind => instruction.callEffect environment kind
  | .new => .push .reference ("new " ++ instruction.classNameText environment)
  | .newArray =>
    .combine 1 .reference fun counts =>
      "new " ++ instruction.arrayElementText environment ++ Expression.subscripts counts
  | .newReferenceArray =>
    .combine 1 .reference
      (Expression.arrayCreation (instruction.classNameText environment ++ "[]"))
  | .newMultiArray =>
    .combine (instruction.dimensions.toOption.getD 0) .reference
      (Expression.arrayCreation (instruction.classNameText environment))
  | .arrayLength => .combine 1 .int Expression.arrayLength
  | .throw => .keepTop
  | .checkCast => .retype .reference
  | .instanceOf => .combine 1 .int (Expression.typeTest (instruction.classNameText environment))
  | .monitorEnter | .monitorExit => .drop 1

end Instruction

/-- Interprets an instruction on a state. -/
def interpret (environment : Environment) (instruction : Instruction) (state : StackState) :
    Except StackError StackState :=
  (instruction.effect environment).apply instruction.offset state

end StackFlow
