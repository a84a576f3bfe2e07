import StackFlow.OffsetVector

/-!
# Constant pools

The constants of a class are found by an index that starts at one, and constants of type `long` and
`double` take up two indices. Constants refer to each other by index. A look-up never fails loudly:
an index at which there is nothing, or nothing of the wanted kind, gives none.

A pool is built by pushing constants, or by asking for a text, a class or a member, which adds the
constants that are needed. Texts and classes that were asked for before are shared.
-/

namespace StackFlow

/-- An index into a constant pool. Index zero never resolves. -/
abbrev ConstantIndex := Nat

/-- The greatest index that instructions and other constants can hold. -/
def lastConstantIndex : ConstantIndex := 65535

/-- A constant of a pool. -/
inductive Constant where
  /-- A class or interface, by the index of its name. -/
  | classRef (name : ConstantIndex)
  | fieldRef (owner nameAndType : ConstantIndex)
  | methodRef (owner nameAndType : ConstantIndex) (isInterface : Bool)
  /-- A string object, by the index of its text. -/
  | string (text : ConstantIndex)
  | integer (value : Int32)
  /-- A 32-bit floating-point number, by its bits. -/
  | float (bits : UInt32)
  | long (value : Int64)
  /-- A 64-bit floating-point number, by its bits. -/
  | double (bits : UInt64)
  | nameAndType (name descriptor : ConstantIndex)
  /-- A text that other constants refer to. -/
  | utf8 (text : String)
  | methodHandle (referenceKind : UInt8) (member : ConstantIndex)
  | methodType (descriptor : ConstantIndex)
  /-- A constant computed by a bootstrap method. -/
  | dynamic (bootstrap : Nat) (nameAndType : ConstantIndex)
  /-- A call site linked by a bootstrap method. -/
  | invokeDynamic (bootstrap : Nat) (nameAndType : ConstantIndex)
  | moduleRef (name : ConstantIndex)
  | packageRef (name : ConstantIndex)
deriving Repr, DecidableEq

/-- Constants take up one index, or two if they are 64 bits long. -/
instance : HasWidth Constant where
  width
    | .long _ | .double _ => 2
    | _ => 1

/-- A reference to a field or a method with its names resolved. -/
structure MemberRef where
  /-- The internal name of the class that owns the member. -/
  owner : String
  name : String
  descriptor : String
deriving Repr, DecidableEq

/-- The constants of a class. -/
structure ConstantPool where
  constants : OffsetVector Constant := .startingAt 1
  /-- The texts that were asked for, with their indices. -/
  texts : List (String × ConstantIndex) := []
  /-- The classes that were asked for, with their indices. -/
  classes : List (String × ConstantIndex) := []

namespace ConstantPool

/-- The pool without constants. -/
def empty : ConstantPool := {}

instance : Inhabited ConstantPool := ⟨empty⟩

/-- The number of constants, however many indices they take up. -/
def length (pool : ConstantPool) : Nat := pool.constants.length

/-- Whether there is no constant. -/
def isEmpty (pool : ConstantPool) : Bool := pool.constants.isEmpty

/-- The constant at an index. -/
def get? (pool : ConstantPool) (index : ConstantIndex) : Option Constant :=
  (pool.constants.get? index).map Prod.snd

/-- The text at an index. -/
def text? (pool : ConstantPool) (index : ConstantIndex) : Option String :=
  match pool.get? index with
  | some (.utf8 text) => some text
  | _ => none

/-- The internal name of the class at an index. -/
def className? (pool : ConstantPool) (index : ConstantIndex) : Option String :=
  match pool.get? index with
  | some (.classRef name) => pool.text? name
  | _ => none

/-- The name and the descriptor at an index. -/
def nameAndType? (pool : ConstantPool) (index : ConstantIndex) : Option (String × String) :=
  match pool.get? index with
  | some (.nameAndType name descriptor) => do
    return (← pool.text? name, ← pool.text? descriptor)
  | _ => none

/-- The field or method that the constant at an index refers to. -/
def memberRef? (pool : ConstantPool) (index : ConstantIndex) : Option MemberRef :=
  match pool.get? index with
  | some (.fieldRef owner nameAndType) | some (.methodRef owner nameAndType _) => do
    let (name, descriptor) ← pool.nameAndType? nameAndType
    return { owner := ← pool.className? owner, name, descriptor }
  | _ => none

/-- The name and the descriptor of the call site at an index. -/
def callSite? (pool : ConstantPool) (index : ConstantIndex) : Option (String × String) :=
  match pool.get? index with
  | some (.invokeDynamic _ nameAndType) => pool.nameAndType? nameAndType
  | _ => none

/-- Adds a constant and gives its index. A constant past the last index is kept, but it gets index
zero, so that nothing can refer to it. -/
def push (pool : ConstantPool) (constant : Constant) : ConstantIndex × ConstantPool :=
  let (offset, constants) := pool.constants.push constant
  (if offset ≤ lastConstantIndex then offset else 0, { pool with constants })

/-- The offsets of the constants that lie past the last index, in the order in which they were
added. -/
def overflows (pool : ConstantPool) : List Nat :=
  (pool.constants.offsets.map Prod.fst).filter (lastConstantIndex < ·)

/-- The pool of the given constants. -/
def ofList (constants : List Constant) : ConstantPool :=
  constants.foldl (fun pool constant => (pool.push constant).2) empty

/-- The index of a text, which is added unless it was asked for before. -/
def internText (pool : ConstantPool) (text : String) : ConstantIndex × ConstantPool :=
  match pool.texts.lookup text with
  | some index => (index, pool)
  | none =>
    let (index, pool) := pool.push (.utf8 text)
    (index, { pool with texts := (text, index) :: pool.texts })

/-- The index of a class, which is added unless it was asked for before. -/
def internClass (pool : ConstantPool) (className : String) : ConstantIndex × ConstantPool :=
  match pool.classes.lookup className with
  | some index => (index, pool)
  | none =>
    let (name, pool) := pool.internText className
    let (index, pool) := pool.push (.classRef name)
    (index, { pool with classes := (className, index) :: pool.classes })

/-- Adds a string object. -/
def addString (pool : ConstantPool) (text : String) : ConstantIndex × ConstantPool :=
  let (text, pool) := pool.internText text
  pool.push (.string text)

/-- Adds a name and a descriptor. -/
def addNameAndType (pool : ConstantPool) (name descriptor : String) :
    ConstantIndex × ConstantPool :=
  let (name, pool) := pool.internText name
  let (descriptor, pool) := pool.internText descriptor
  pool.push (.nameAndType name descriptor)

/-- Adds a reference to a field. -/
def addFieldRef (pool : ConstantPool) (owner name descriptor : String) :
    ConstantIndex × ConstantPool :=
  let (owner, pool) := pool.internClass owner
  let (nameAndType, pool) := pool.addNameAndType name descriptor
  pool.push (.fieldRef owner nameAndType)

/-- Adds a reference to a method. -/
def addMethodRef (pool : ConstantPool) (owner name descriptor : String) (isInterface : Bool) :
    ConstantIndex × ConstantPool :=
  let (owner, pool) := pool.internClass owner
  let (nameAndType, pool) := pool.addNameAndType name descriptor
  pool.push (.methodRef owner nameAndType isInterface)

/-- Adds a call site linked by a bootstrap method. -/
def addCallSite (pool : ConstantPool) (bootstrap : Nat) (name descriptor : String) :
    ConstantIndex × ConstantPool :=
  let (nameAndType, pool) := pool.addNameAndType name descriptor
  pool.push (.invokeDynamic bootstrap nameAndType)

end ConstantPool

end StackFlow
