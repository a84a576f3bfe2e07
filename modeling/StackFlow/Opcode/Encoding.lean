import StackFlow.Opcode.Basic

/-!
# Bytes and mnemonics of opcodes

Within a family the bytes follow the parameter, so a byte is the family's first byte plus the
parameter's place. Mnemonics are put together in the same way from the letter of a kind, the name of
an operator and the operand that the opcode carries.
-/

namespace StackFlow

namespace LocalKind

/-- All kinds, in the order of their opcodes. -/
def all : List LocalKind := [.int, .long, .float, .double, .reference]

/-- The place of a kind among the opcodes of a family. -/
def place : LocalKind → Nat
  | .int => 0 | .long => 1 | .float => 2 | .double => 3 | .reference => 4

/-- The letter of a kind in mnemonics. -/
def letter : LocalKind → String
  | .int => "i" | .long => "l" | .float => "f" | .double => "d" | .reference => "a"

end LocalKind

namespace NumberKind

/-- All kinds, in the order of their opcodes. -/
def all : List NumberKind := [.int, .long, .float, .double]

/-- The place of a kind among the opcodes of a family. -/
def place : NumberKind → Nat
  | .int => 0 | .long => 1 | .float => 2 | .double => 3

/-- The letter of a kind in mnemonics. -/
def letter : NumberKind → String
  | .int => "i" | .long => "l" | .float => "f" | .double => "d"

end NumberKind

namespace IntegerKind

/-- All kinds, in the order of their opcodes. -/
def all : List IntegerKind := [.int, .long]

/-- The place of a kind among the opcodes of a family. -/
def place : IntegerKind → Nat
  | .int => 0 | .long => 1

/-- The letter of a kind in mnemonics. -/
def letter : IntegerKind → String
  | .int => "i" | .long => "l"

end IntegerKind

namespace ElementKind

/-- All kinds, in the order of their opcodes. -/
def all : List ElementKind := [.int, .long, .float, .double, .reference, .byte, .char, .short]

/-- The place of a kind among the opcodes of a family. -/
def place : ElementKind → Nat
  | .int => 0 | .long => 1 | .float => 2 | .double => 3 | .reference => 4 | .byte => 5 | .char => 6
  | .short => 7

/-- The letter of a kind in mnemonics. -/
def letter : ElementKind → String
  | .int => "i" | .long => "l" | .float => "f" | .double => "d" | .reference => "a" | .byte => "b"
  | .char => "c" | .short => "s"

end ElementKind

namespace ArithmeticOp

/-- All operators, in the order of their opcodes. -/
def all : List ArithmeticOp := [.add, .sub, .mul, .div, .rem]

/-- The place of an operator among the opcodes of its family. -/
def place : ArithmeticOp → Nat
  | .add => 0 | .sub => 1 | .mul => 2 | .div => 3 | .rem => 4

/-- The name of an operator in mnemonics. -/
def name : ArithmeticOp → String
  | .add => "add" | .sub => "sub" | .mul => "mul" | .div => "div" | .rem => "rem"

end ArithmeticOp

namespace BitwiseOp

/-- All operators, in the order of their opcodes. -/
def all : List BitwiseOp := [.shl, .shr, .ushr, .and, .or, .xor]

/-- The place of an operator among the opcodes of its family. -/
def place : BitwiseOp → Nat
  | .shl => 0 | .shr => 1 | .ushr => 2 | .and => 3 | .or => 4 | .xor => 5

/-- The name of an operator in mnemonics. -/
def name : BitwiseOp → String
  | .shl => "shl" | .shr => "shr" | .ushr => "ushr" | .and => "and" | .or => "or" | .xor => "xor"

end BitwiseOp

namespace Conversion

/-- All conversions, in the order of their opcodes. -/
def all : List Conversion :=
  [.intToLong, .intToFloat, .intToDouble, .longToInt, .longToFloat, .longToDouble, .floatToInt,
    .floatToLong, .floatToDouble, .doubleToInt, .doubleToLong, .doubleToFloat, .intToByte,
    .intToChar, .intToShort]

/-- The place of a conversion among the opcodes of its family. -/
def place : Conversion → Nat
  | .intToLong => 0 | .intToFloat => 1 | .intToDouble => 2
  | .longToInt => 3 | .longToFloat => 4 | .longToDouble => 5
  | .floatToInt => 6 | .floatToLong => 7 | .floatToDouble => 8
  | .doubleToInt => 9 | .doubleToLong => 10 | .doubleToFloat => 11
  | .intToByte => 12 | .intToChar => 13 | .intToShort => 14

/-- The mnemonic of a conversion. -/
def mnemonic : Conversion → String
  | .intToLong => "i2l" | .intToFloat => "i2f" | .intToDouble => "i2d"
  | .longToInt => "l2i" | .longToFloat => "l2f" | .longToDouble => "l2d"
  | .floatToInt => "f2i" | .floatToLong => "f2l" | .floatToDouble => "f2d"
  | .doubleToInt => "d2i" | .doubleToLong => "d2l" | .doubleToFloat => "d2f"
  | .intToByte => "i2b" | .intToChar => "i2c" | .intToShort => "i2s"

end Conversion

namespace ThreeWay

/-- All comparisons, in the order of their opcodes. -/
def all : List ThreeWay := [.long, .floatLess, .floatGreater, .doubleLess, .doubleGreater]

/-- The place of a comparison among the opcodes of its family. -/
def place : ThreeWay → Nat
  | .long => 0 | .floatLess => 1 | .floatGreater => 2 | .doubleLess => 3 | .doubleGreater => 4

/-- The mnemonic of a comparison. -/
def mnemonic : ThreeWay → String
  | .long => "lcmp" | .floatLess => "fcmpl" | .floatGreater => "fcmpg" | .doubleLess => "dcmpl"
  | .doubleGreater => "dcmpg"

end ThreeWay

namespace Condition

/-- All conditions, in the order of their opcodes. -/
def all : List Condition := [.eq, .ne, .lt, .ge, .gt, .le]

/-- The place of a condition among the opcodes of a family. -/
def place : Condition → Nat
  | .eq => 0 | .ne => 1 | .lt => 2 | .ge => 3 | .gt => 4 | .le => 5

/-- The name of a condition in mnemonics. -/
def name : Condition → String
  | .eq => "eq" | .ne => "ne" | .lt => "lt" | .ge => "ge" | .gt => "gt" | .le => "le"

end Condition

namespace Identity

/-- All conditions, in the order of their opcodes. -/
def all : List Identity := [.eq, .ne]

/-- The place of a condition among the opcodes of its family. -/
def place : Identity → Nat
  | .eq => 0 | .ne => 1

/-- The name of a condition in mnemonics. -/
def name : Identity → String
  | .eq => "eq" | .ne => "ne"

end Identity

namespace CallKind

/-- All kinds, in the order of their opcodes. -/
def all : List CallKind := [.virtual, .special, .static, .interface, .dynamic]

/-- The place of a kind among the opcodes of its family. -/
def place : CallKind → Nat
  | .virtual => 0 | .special => 1 | .static => 2 | .interface => 3 | .dynamic => 4

/-- The name of a kind in mnemonics. -/
def name : CallKind → String
  | .virtual => "virtual" | .special => "special" | .static => "static" | .interface => "interface"
  | .dynamic => "dynamic"

end CallKind

namespace ConstantForm

/-- All forms, in the order of their opcodes. -/
def all : List ConstantForm := [.narrow, .wide, .wideTwoWords]

/-- The place of a form among the opcodes of its family. -/
def place : ConstantForm → Nat
  | .narrow => 0 | .wide => 1 | .wideTwoWords => 2

/-- The mnemonic of a form. -/
def mnemonic : ConstantForm → String
  | .narrow => "ldc" | .wide => "ldc_w" | .wideTwoWords => "ldc2_w"

end ConstantForm

namespace Opcode

/-- The byte of an opcode of a family whose forms with an operand start at `explicit` and whose
forms that carry their slot start at `short`. -/
def localByte (explicit short : Nat) (kind : LocalKind) : Option (Fin 4) → Nat
  | none => explicit + kind.place
  | some slot => short + 4 * kind.place + slot

/-- The byte of an opcode, as a number. -/
def code : Opcode → Nat
  | .nop => 0x00
  | .nullConst => 0x01
  | .intConst choice => 0x02 + choice
  | .longConst value => 0x09 + value
  | .floatConst value => 0x0b + value
  | .doubleConst value => 0x0e + value
  | .bytePush => 0x10
  | .shortPush => 0x11
  | .loadConstant form => 0x12 + form.place
  | .load kind slot => localByte 0x15 0x1a kind slot
  | .arrayLoad kind => 0x2e + kind.place
  | .store kind slot => localByte 0x36 0x3b kind slot
  | .arrayStore kind => 0x4f + kind.place
  | .pop => 0x57
  | .pop2 => 0x58
  | .dup depth => 0x59 + depth
  | .dup2 depth => 0x5c + depth
  | .swap => 0x5f
  | .arithmetic op kind => 0x60 + 4 * op.place + kind.place
  | .negate kind => 0x74 + kind.place
  | .bitwise op kind => 0x78 + 2 * op.place + kind.place
  | .increment => 0x84
  | .convert conversion => 0x85 + conversion.place
  | .threeWay comparison => 0x94 + comparison.place
  | .ifZero condition => 0x99 + condition.place
  | .ifInts condition => 0x9f + condition.place
  | .ifReferences condition => 0xa5 + condition.place
  | .goto => 0xa7
  | .jsr => 0xa8
  | .ret => 0xa9
  | .tableSwitch => 0xaa
  | .lookupSwitch => 0xab
  | .returnValue kind => 0xac + kind.place
  | .returnVoid => 0xb1
  | .getStatic => 0xb2
  | .putStatic => 0xb3
  | .getField => 0xb4
  | .putField => 0xb5
  | .invoke kind => 0xb6 + kind.place
  | .new => 0xbb
  | .newArray => 0xbc
  | .newReferenceArray => 0xbd
  | .arrayLength => 0xbe
  | .throw => 0xbf
  | .checkCast => 0xc0
  | .instanceOf => 0xc1
  | .monitorEnter => 0xc2
  | .monitorExit => 0xc3
  | .wide => 0xc4
  | .newMultiArray => 0xc5
  | .ifNull => 0xc6
  | .ifNonNull => 0xc7
  | .gotoWide => 0xc8
  | .jsrWide => 0xc9
  | .breakpoint => 0xca
  | .implementation1 => 0xfe
  | .implementation2 => 0xff

/-- The byte of an opcode in a code array. -/
def toByte (opcode : Opcode) : UInt8 := UInt8.ofNat opcode.code

/-- A mnemonic with the slot that the opcode carries. -/
def withSlot (mnemonic : String) : Option (Fin 4) → String
  | none => mnemonic
  | some slot => s!"{mnemonic}_{slot.val}"

/-- A mnemonic with the depth below which the copy goes. -/
def withDepth (mnemonic : String) (depth : Fin 3) : String :=
  if depth.val = 0 then mnemonic else s!"{mnemonic}_x{depth.val}"

/-- The name of an opcode in listings. -/
def mnemonic : Opcode → String
  | .nop => "nop"
  | .nullConst => "aconst_null"
  | .intConst choice => if choice.val = 0 then "iconst_m1" else s!"iconst_{choice.val - 1}"
  | .longConst value => s!"lconst_{value.val}"
  | .floatConst value => s!"fconst_{value.val}"
  | .doubleConst value => s!"dconst_{value.val}"
  | .bytePush => "bipush"
  | .shortPush => "sipush"
  | .loadConstant form => form.mnemonic
  | .load kind slot => withSlot (kind.letter ++ "load") slot
  | .arrayLoad kind => kind.letter ++ "aload"
  | .store kind slot => withSlot (kind.letter ++ "store") slot
  | .arrayStore kind => kind.letter ++ "astore"
  | .pop => "pop"
  | .pop2 => "pop2"
  | .dup depth => withDepth "dup" depth
  | .dup2 depth => withDepth "dup2" depth
  | .swap => "swap"
  | .arithmetic op kind => kind.letter ++ op.name
  | .negate kind => kind.letter ++ "neg"
  | .bitwise op kind => kind.letter ++ op.name
  | .increment => "iinc"
  | .convert conversion => conversion.mnemonic
  | .threeWay comparison => comparison.mnemonic
  | .ifZero condition => "if" ++ condition.name
  | .ifInts condition => "if_icmp" ++ condition.name
  | .ifReferences condition => "if_acmp" ++ condition.name
  | .ifNull => "ifnull"
  | .ifNonNull => "ifnonnull"
  | .goto => "goto"
  | .gotoWide => "goto_w"
  | .jsr => "jsr"
  | .jsrWide => "jsr_w"
  | .ret => "ret"
  | .tableSwitch => "tableswitch"
  | .lookupSwitch => "lookupswitch"
  | .returnValue kind => kind.letter ++ "return"
  | .returnVoid => "return"
  | .getStatic => "getstatic"
  | .putStatic => "putstatic"
  | .getField => "getfield"
  | .putField => "putfield"
  | .invoke kind => "invoke" ++ kind.name
  | .new => "new"
  | .newArray => "newarray"
  | .newReferenceArray => "anewarray"
  | .newMultiArray => "multianewarray"
  | .arrayLength => "arraylength"
  | .throw => "athrow"
  | .checkCast => "checkcast"
  | .instanceOf => "instanceof"
  | .monitorEnter => "monitorenter"
  | .monitorExit => "monitorexit"
  | .wide => "wide"
  | .breakpoint => "breakpoint"
  | .implementation1 => "impdep1"
  | .implementation2 => "impdep2"

/-- The opcodes of a family of local variable instructions: first the forms with an operand, then
for each kind the forms that carry their slot. -/
def localFamily (make : LocalKind → Option (Fin 4) → Opcode) : List Opcode :=
  LocalKind.all.map (make · none) ++
    LocalKind.all.flatMap fun kind => (List.finRange 4).map fun slot => make kind (some slot)

/-- The families of opcodes, in the order of their bytes. -/
def families : List (List Opcode) :=
  [[.nop, .nullConst], (List.finRange 7).map .intConst, (List.finRange 2).map .longConst,
    (List.finRange 3).map .floatConst, (List.finRange 2).map .doubleConst, [.bytePush, .shortPush],
    ConstantForm.all.map .loadConstant, localFamily .load, ElementKind.all.map .arrayLoad,
    localFamily .store, ElementKind.all.map .arrayStore, [.pop, .pop2],
    (List.finRange 3).map .dup, (List.finRange 3).map .dup2, [.swap],
    ArithmeticOp.all.flatMap fun op => NumberKind.all.map (.arithmetic op),
    NumberKind.all.map .negate,
    BitwiseOp.all.flatMap fun op => IntegerKind.all.map (.bitwise op),
    [.increment], Conversion.all.map .convert, ThreeWay.all.map .threeWay,
    Condition.all.map .ifZero, Condition.all.map .ifInts, Identity.all.map .ifReferences,
    [.goto, .jsr, .ret, .tableSwitch, .lookupSwitch], LocalKind.all.map .returnValue,
    [.returnVoid, .getStatic, .putStatic, .getField, .putField], CallKind.all.map .invoke,
    [.new, .newArray, .newReferenceArray, .arrayLength, .throw, .checkCast, .instanceOf,
      .monitorEnter, .monitorExit, .wide, .newMultiArray, .ifNull, .ifNonNull, .gotoWide, .jsrWide,
      .breakpoint, .implementation1, .implementation2]]

/-- All opcodes, in the order of their bytes. -/
def all : List Opcode := families.flatten

/-- The opcode that a byte stands for. -/
def ofByte? (byte : UInt8) : Option Opcode := all.find? (·.toByte = byte)

/-- All opcodes with their mnemonics. -/
def mnemonics : List (String × Opcode) := all.map fun opcode => (opcode.mnemonic, opcode)

/-- The opcode of a mnemonic. -/
def ofMnemonic? (text : String) : Option Opcode := mnemonics.lookup text

end Opcode

end StackFlow
