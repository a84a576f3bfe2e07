import StackFlow.Descriptor.Basic

/-!
# Reading descriptors

Each reader takes a type from the front of a list of characters and gives back what is left; `parse`
then asks that nothing is left. Every reader that succeeds takes at least one character
(`FieldType.length_read_lt`), which is why reading a list of parameters ends.

An error says what is wrong and, through `unexpectedEnd`, whether the text ended too early or has a
character that cannot stand where it does.
-/

namespace StackFlow

/-- Why a text is not a descriptor. -/
inductive DescriptorError where
  | leftover (c : Char)
  | invalidBaseType (c : Char)
  | missingBaseType
  | missingTerminator (className : String)
  | emptyClassName
  | notAnObject
  | invalidReferenceType (c : Char)
  | invalidFieldType (c : Char)
  | missingFieldType
  | missingClassName
  | notAMethod
  | missingParenthesis
deriving Repr, DecidableEq

namespace DescriptorError

/-- The wording of an error. -/
def message : DescriptorError → String
  | .leftover c => s!"Unexpected leftover input '{c}'"
  | .invalidBaseType c => s!"Invalid base type character '{c}'"
  | .missingBaseType => "Missing base type character"
  | .missingTerminator className => s!"Missing terminator for 'L{className}'"
  | .emptyClassName => "Empty class name"
  | .notAnObject => "Expected object type to start with `L`"
  | .invalidReferenceType c => s!"Invalid reference type character '{c}'"
  | .invalidFieldType c => s!"Invalid field type character '{c}'"
  | .missingFieldType => "Missing field type"
  | .missingClassName => "Missing class name"
  | .notAMethod => "Expected '(' for method"
  | .missingParenthesis => "Expected ')' for method"

/-- Whether the text ended too early. -/
def unexpectedEnd : DescriptorError → Bool
  | .missingBaseType | .missingTerminator _ | .missingFieldType | .missingClassName
  | .missingParenthesis => true
  | _ => false

end DescriptorError

/-- A reader takes a value from the front of a text. -/
abbrev Reader (α : Type) := List Char → Except DescriptorError (α × List Char)

/-- Reads a whole text. -/
def Reader.parse {α : Type} (read : Reader α) (text : String) : Except DescriptorError α :=
  match read text.toList with
  | .error error => .error error
  | .ok (value, []) => .ok value
  | .ok (_, c :: _) => .error (.leftover c)

/-- Reads values one after the other, up to a number of them or to the first error. Gives the values
and what is left or the error. -/
def Reader.readMany {α : Type} (read : Reader α) :
    Nat → List Char → List α × Except DescriptorError (List Char)
  | 0, chars => ([], .ok chars)
  | count + 1, chars =>
    match read chars with
    | .error error => ([], .error error)
    | .ok (value, rest) =>
      let (values, outcome) := readMany read count rest
      (value :: values, outcome)

/-- The base type of a letter. -/
def BaseType.ofLetter? : Char → Option BaseType
  | 'B' => some .byte
  | 'C' => some .char
  | 'D' => some .double
  | 'F' => some .float
  | 'I' => some .int
  | 'J' => some .long
  | 'S' => some .short
  | 'Z' => some .boolean
  | _ => none

/-- Reads a base type. -/
def BaseType.read : Reader BaseType
  | [] => .error .missingBaseType
  | c :: rest =>
    match BaseType.ofLetter? c with
    | some type => .ok (type, rest)
    | none => .error (.invalidBaseType c)

/-- Reads the internal name of a class between its `L` and `;`. -/
def readClassName : Reader String
  | 'L' :: chars =>
    let name := chars.takeWhile (· ≠ ';')
    match chars.dropWhile (· ≠ ';') with
    | [] => .error (.missingTerminator (String.ofList name))
    | _ :: rest => if name.isEmpty then .error .emptyClassName else .ok (String.ofList name, rest)
  | _ => .error .notAnObject

/-- Reads what stands after the brackets of an array. -/
def ElementType.read (chars : List Char) : Except DescriptorError (ElementType × List Char) :=
  match chars with
  | 'L' :: _ => (readClassName chars).map fun (className, rest) => (.object className, rest)
  | _ => (BaseType.read chars).map fun (type, rest) => (.base type, rest)

/-- Reads a reference type. -/
def ReferenceType.read : Reader ReferenceType
  | [] => .error .missingFieldType
  | '[' :: chars =>
    let brackets := chars.takeWhile (· = '[')
    (ElementType.read (chars.dropWhile (· = '['))).map fun (element, rest) =>
      (.array element brackets.length, rest)
  | 'L' :: chars => (readClassName ('L' :: chars)).map fun (className, rest) =>
      (.object className, rest)
  | c :: _ => .error (.invalidReferenceType c)

/-- Reads a field type. -/
def FieldType.read : Reader FieldType
  | [] => .error .missingFieldType
  | c :: rest =>
    match BaseType.ofLetter? c with
    | some type => .ok (.base type, rest)
    | none =>
      if c = 'L' ∨ c = '[' then
        (ReferenceType.read (c :: rest)).map fun (type, rest) => (.reference type, rest)
      else .error (.invalidFieldType c)

theorem BaseType.length_read_lt {chars rest : List Char} {type : BaseType}
    (read : BaseType.read chars = .ok (type, rest)) : rest.length < chars.length := by
  cases chars with
  | nil => simp [BaseType.read] at read
  | cons c tail =>
    simp only [BaseType.read] at read
    split at read
    · simp only [Except.ok.injEq, Prod.mk.injEq] at read
      simp [read.2]
    · simp at read

theorem length_readClassName_lt {chars rest : List Char} {name : String}
    (read : readClassName chars = .ok (name, rest)) : rest.length < chars.length := by
  unfold readClassName at read
  split at read
  · rename_i tail
    split at read
    · simp at read
    · rename_i c suffix dropped
      dsimp only at read
      split at read
      · simp at read
      · simp only [Except.ok.injEq, Prod.mk.injEq] at read
        have shorter := (List.dropWhile_suffix (l := tail) (· ≠ ';')).length_le
        rw [dropped] at shorter
        simp only [List.length_cons, ← read.2] at shorter ⊢
        omega
  · simp at read

theorem ElementType.length_read_lt {chars rest : List Char} {type : ElementType}
    (read : ElementType.read chars = .ok (type, rest)) : rest.length < chars.length := by
  unfold ElementType.read at read
  split at read
  · rename_i tail
    cases result : readClassName ('L' :: tail) with
    | error error => simp [result, Except.map] at read
    | ok pair =>
      simp only [result, Except.map, Except.ok.injEq, Prod.mk.injEq] at read
      exact read.2 ▸ length_readClassName_lt result
  · cases result : BaseType.read chars with
    | error error => simp [result, Except.map] at read
    | ok pair =>
      simp only [result, Except.map, Except.ok.injEq, Prod.mk.injEq] at read
      exact read.2 ▸ BaseType.length_read_lt result

theorem ReferenceType.length_read_lt {chars rest : List Char} {type : ReferenceType}
    (read : ReferenceType.read chars = .ok (type, rest)) : rest.length < chars.length := by
  unfold ReferenceType.read at read
  split at read
  · simp at read
  · rename_i tail
    cases result : ElementType.read (tail.dropWhile (· = '[')) with
    | error error => simp [result, Except.map] at read
    | ok pair =>
      simp only [result, Except.map, Except.ok.injEq, Prod.mk.injEq] at read
      have taken := ElementType.length_read_lt result
      have shorter := (List.dropWhile_suffix (l := tail) (· = '[')).length_le
      simp only [List.length_cons, ← read.2]
      omega
  · rename_i tail
    cases result : readClassName ('L' :: tail) with
    | error error => simp [result, Except.map] at read
    | ok pair =>
      simp only [result, Except.map, Except.ok.injEq, Prod.mk.injEq] at read
      exact read.2 ▸ length_readClassName_lt result
  · simp at read

/-- A field type is never read from nothing. -/
theorem FieldType.length_read_lt {chars rest : List Char} {type : FieldType}
    (read : FieldType.read chars = .ok (type, rest)) : rest.length < chars.length := by
  cases chars with
  | nil => simp [FieldType.read] at read
  | cons c tail =>
    simp only [FieldType.read] at read
    split at read
    · simp only [Except.ok.injEq, Prod.mk.injEq] at read
      simp [read.2]
    · split at read
      · cases result : ReferenceType.read (c :: tail) with
        | error error => simp [result, Except.map] at read
        | ok pair =>
          simp only [result, Except.map, Except.ok.injEq, Prod.mk.injEq] at read
          exact read.2 ▸ ReferenceType.length_read_lt result
      · simp at read

/-- Reads field types up to the closing parenthesis, which is taken too. -/
def readParameters (chars : List Char) : Except DescriptorError (List FieldType × List Char) :=
  match chars with
  | [] => .error .missingParenthesis
  | ')' :: rest => .ok ([], rest)
  | chars =>
    match _read : FieldType.read chars with
    | .error error => .error error
    | .ok (type, rest) =>
      match readParameters rest with
      | .error error => .error error
      | .ok (types, rest) => .ok (type :: types, rest)
termination_by chars.length
decreasing_by exact FieldType.length_read_lt _read

/-- Reads the result of a method, where `V` stands for none. -/
def readReturnType : Reader (Option FieldType)
  | 'V' :: rest => .ok (none, rest)
  | chars => (FieldType.read chars).map fun (type, rest) => (some type, rest)

/-- Reads a method descriptor. -/
def MethodDescriptor.read : Reader MethodDescriptor
  | '(' :: chars =>
    match readParameters chars with
    | .error error => .error error
    | .ok (parameters, rest) =>
      (readReturnType rest).map fun (returnType, rest) => (⟨parameters, returnType⟩, rest)
  | _ => .error .notAMethod

/-- Reads the name of a class constant. A class is named plainly, without `L` and `;`, while an
array class is named by its descriptor. -/
def ReferenceType.ofClassConstant (name : String) : Except DescriptorError ReferenceType :=
  match name.toList with
  | [] => .error .missingClassName
  | '[' :: _ => Reader.parse ReferenceType.read name
  | _ => .ok (.object name)

end StackFlow
