/-!
# Type descriptors

The types of fields and methods as class files describe them: base types, classes by their internal
name, and arrays by their element type and number of dimensions.
-/

namespace StackFlow

/-- Primitive types. -/
inductive BaseType where
  | byte | char | double | float | int | long | short | boolean
deriving Repr, DecidableEq

/-- What an array is ultimately an array of. -/
inductive ElementType where
  | base (type : BaseType)
  | object (className : String)
deriving Repr, DecidableEq

/-- Reference types. An array has `extraDimensions + 1` dimensions, so that it has at least one. -/
inductive ReferenceType where
  | object (className : String)
  | array (element : ElementType) (extraDimensions : Nat)
deriving Repr, DecidableEq

/-- The type of a field, a parameter or a local variable. -/
inductive FieldType where
  | base (type : BaseType)
  | reference (type : ReferenceType)
deriving Repr, DecidableEq

/-- The parameters and the result of a method. A method without a result returns `none`. -/
structure MethodDescriptor where
  parameters : List FieldType
  returnType : Option FieldType
deriving Repr, DecidableEq

namespace BaseType

/-- The name of a base type in source code. -/
def sourceName : BaseType → String
  | .byte => "byte" | .char => "char" | .double => "double" | .float => "float" | .int => "int"
  | .long => "long" | .short => "short" | .boolean => "boolean"

/-- The number of words of a base type. -/
def words : BaseType → Nat
  | .double | .long => 2
  | _ => 1

/-- The element type that a primitive array creation gives by a code. -/
def ofArrayCode? : Nat → Option BaseType
  | 4 => some .boolean
  | 5 => some .char
  | 6 => some .float
  | 7 => some .double
  | 8 => some .byte
  | 9 => some .short
  | 10 => some .int
  | 11 => some .long
  | _ => none

end BaseType

/-- The name of a class in source code: the parts of the internal name are divided by points. -/
def classSourceName (className : String) : String :=
  String.ofList (className.toList.map fun c => if c = '/' then '.' else c)

/-- The name of an element type in source code. -/
def ElementType.sourceName : ElementType → String
  | .base type => type.sourceName
  | .object className => classSourceName className

namespace ReferenceType

/-- The number of array dimensions; a class has none. -/
def dimensions : ReferenceType → Nat
  | .object _ => 0
  | .array _ extraDimensions => extraDimensions + 1

/-- The name of a reference type without its array dimensions. -/
def elementName : ReferenceType → String
  | .object className => classSourceName className
  | .array element _ => element.sourceName

/-- The name of a reference type in source code. -/
def sourceName (type : ReferenceType) : String :=
  type.elementName ++ String.join (List.replicate type.dimensions "[]")

end ReferenceType

namespace FieldType

/-- The number of words of a value of the type. -/
def words : FieldType → Nat
  | .base type => type.words
  | .reference _ => 1

/-- The name of a type in source code. -/
def sourceName : FieldType → String
  | .base type => type.sourceName
  | .reference type => type.sourceName

end FieldType

/-- The number of words of the arguments of a call, with or without a receiver. -/
def MethodDescriptor.parameterWords (descriptor : MethodDescriptor) (hasReceiver : Bool) : Nat :=
  (if hasReceiver then 1 else 0) +
    descriptor.parameters.foldr (fun type words => type.words + words) 0

end StackFlow
