import StackFlow.Descriptor.Basic
import StackFlow.OffsetVector
import StackFlow.Text.Quoted

/-!
# Entries of the operand stack

An entry is a symbolic value: its type, a text that describes it, the instruction that pushed it and
its size. Small integers are pushed as `int`, so the stack knows fewer types than descriptors do.
-/

namespace StackFlow

/-- The type of a value on the operand stack. -/
inductive ValueType where
  | int | float | long | double | reference | returnAddress | unknown
deriving Repr, DecidableEq

namespace ValueType

/-- The tag by which a type is shown. -/
def tag : ValueType → String
  | .int => "I" | .float => "F" | .long => "J" | .double => "D" | .reference => "L"
  | .returnAddress => "RA" | .unknown => "?"

/-- The number of bytes that a value of the type takes up. -/
def sizeInBytes : ValueType → Nat
  | .long | .double => 8
  | _ => 4

/-- The type of a base type's values on the stack. -/
def ofBaseType : BaseType → ValueType
  | .int | .char | .short | .byte | .boolean => .int
  | .float => .float
  | .long => .long
  | .double => .double

/-- The type of a field type's values on the stack. -/
def ofFieldType : FieldType → ValueType
  | .base type => ofBaseType type
  | .reference _ => .reference

end ValueType

/-- A symbolic value on the operand stack. -/
structure Entry where
  /-- The offset of the instruction that pushed the value, if one did. -/
  producer : Option Nat
  sizeInBytes : Nat
  valueType : ValueType
  /-- An expression for the value. -/
  value : String
deriving Repr, DecidableEq

namespace Entry

/-- A value of a type, with the size of that type. -/
def make (producer : Option Nat) (valueType : ValueType) (value : String) : Entry :=
  { producer, sizeInBytes := valueType.sizeInBytes, valueType, value }

/-- The same value as another type. -/
def retyped (entry : Entry) (producer : Option Nat) (valueType : ValueType) : Entry :=
  make producer valueType entry.value

/-- The entry as it stands in signatures: its tag and its quoted value, given which characters can
be shown. -/
def renderWith (printable : Char → Bool) (entry : Entry) : String :=
  entry.valueType.tag ++ ":" ++ Text.quotedWith printable entry.value

end Entry

/-- Entries are measured in words of four bytes. -/
instance : HasWidth Entry where
  width entry := entry.sizeInBytes / 4

end StackFlow
