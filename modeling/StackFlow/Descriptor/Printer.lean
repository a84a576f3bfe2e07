import StackFlow.Descriptor.Basic

/-!
# Writing descriptors

The text of each type, by the grammar of descriptors: one letter for a base type, the name of a
class between `L` and `;`, one bracket for each dimension of an array before its element, and the
parameters of a method in parentheses before its result. A type can be told from its text if its
class names can, that is if they are not empty and have no semicolon.
-/

namespace StackFlow

/-- A class name that a descriptor can hold. -/
def ValidClassName (className : String) : Prop := className ≠ "" ∧ ';' ∉ className.toList

namespace BaseType

/-- The letter of a base type. -/
def letter : BaseType → Char
  | .byte => 'B' | .char => 'C' | .double => 'D' | .float => 'F' | .int => 'I' | .long => 'J'
  | .short => 'S' | .boolean => 'Z'

/-- The characters of a base type's descriptor. -/
def renderChars (type : BaseType) : List Char := [type.letter]

end BaseType

/-- The characters of a class descriptor. -/
def renderClassName (className : String) : List Char := 'L' :: className.toList ++ [';']

namespace ElementType

/-- The characters of an element type's descriptor. -/
def renderChars : ElementType → List Char
  | .base type => type.renderChars
  | .object className => renderClassName className

/-- All class names are valid. -/
def WellFormed : ElementType → Prop
  | .base _ => True
  | .object className => ValidClassName className

end ElementType

namespace ReferenceType

/-- The characters of a reference type's descriptor. -/
def renderChars : ReferenceType → List Char
  | .object className => renderClassName className
  | .array element extraDimensions =>
    List.replicate (extraDimensions + 1) '[' ++ element.renderChars

/-- All class names are valid. -/
def WellFormed : ReferenceType → Prop
  | .object className => ValidClassName className
  | .array element _ => element.WellFormed

end ReferenceType

namespace FieldType

/-- The characters of a field type's descriptor. -/
def renderChars : FieldType → List Char
  | .base type => type.renderChars
  | .reference type => type.renderChars

/-- All class names are valid. -/
def WellFormed : FieldType → Prop
  | .base _ => True
  | .reference type => type.WellFormed

/-- The descriptor of a field type. -/
def render (type : FieldType) : String := String.ofList type.renderChars

end FieldType

namespace MethodDescriptor

/-- The characters of a method descriptor. -/
def renderChars (descriptor : MethodDescriptor) : List Char :=
  '(' :: descriptor.parameters.flatMap FieldType.renderChars ++
    ')' :: (match descriptor.returnType with
      | none => ['V']
      | some type => type.renderChars)

/-- All class names are valid. -/
def WellFormed (descriptor : MethodDescriptor) : Prop :=
  (∀ type ∈ descriptor.parameters, type.WellFormed) ∧
    ∀ type ∈ descriptor.returnType, type.WellFormed

/-- The text of a method descriptor. -/
def render (descriptor : MethodDescriptor) : String := String.ofList descriptor.renderChars

end MethodDescriptor

end StackFlow
