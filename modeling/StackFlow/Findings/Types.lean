import StackFlow.Findings.Basic

/-!
# Findings about types

For each visited node: the types of the stacks before it, and the operands whose type is not the one
that the instruction expects. Only instructions whose operands have known types are checked, and a
value of unknown type is taken to fit.
-/

namespace StackFlow

namespace Instruction

/-- The operands of a field write. -/
def fieldOperands (pool : ConstantPool) (hasObject : Bool) (instruction : Instruction) :
    Option (List Operand) :=
  (instruction.field? pool).map fun field =>
    (if hasObject then [⟨.reference, .object⟩] else []) ++
      [⟨.ofFieldType field.type, .fieldValue field.name⟩]

/-- The name and the descriptor of the method whose arguments a call of a kind is given. -/
def methodOfCall? (pool : ConstantPool) (kind : CallKind) (index : ConstantIndex) :
    Option (String × String) :=
  if kind = .dynamic then pool.callSite? index
  else (pool.memberRef? index).map fun member => (member.name, member.descriptor)

/-- The operands of a call. -/
def callOperands (pool : ConstantPool) (kind : CallKind) (instruction : Instruction) :
    Option (List Operand) := do
  let index ← instruction.constantIndex.toOption
  let (name, text) ← methodOfCall? pool kind index
  let descriptor ← (Reader.parse MethodDescriptor.read text).toOption
  let receiver := if kind = .static ∨ kind = .dynamic then [] else [⟨.reference, .receiver name⟩]
  return receiver ++ descriptor.parameters.mapIdx fun index type =>
    ⟨.ofFieldType type, .argument (index + 1) name⟩

/-- The operands that an instruction expects, bottom to top, if it can be told. A reference is
stored from return addresses too, so a store of one expects nothing. -/
def expectedOperands (pool : ConstantPool) (instruction : Instruction) : Option (List Operand) :=
  match instruction.opcode with
  | .store .reference _ => none
  | .store kind _ => some [⟨kind.valueType, .value⟩]
  | .arrayStore kind =>
    some [⟨.reference, .array⟩, ⟨.int, .index⟩, ⟨kind.valueType, .value⟩]
  | .returnValue kind => some [⟨kind.valueType, .returnValue⟩]
  | .putField => instruction.fieldOperands pool true
  | .putStatic => instruction.fieldOperands pool false
  | .invoke kind => instruction.callOperands pool kind
  | _ => none

end Instruction

/-- Compares the top of a state with the expected operands, from the top down. Operands that the
state does not have are not compared. -/
def checkOperands (state : StackState) (expected : List Operand) : List Observation :=
  (expected.reverse.zip state.types.reverse).filterMap fun (operand, found) =>
    if found ≠ .unknown ∧ operand.valueType ≠ found then some (.operandMismatch operand found)
    else none

namespace StateSet

/-- The different types of the states, in the order in which they occur. -/
def layouts (set : StateSet) : List (List ValueType) :=
  (set.states.map StackState.types).eraseDups

end StateSet

namespace StackProperty

/-- What the types before a node say. -/
def typeObservation (property : StackProperty) : Observation :=
  let layouts := property.statesBefore.layouts
  if 1 < layouts.length then .inconsistentTypes layouts else .sameTypes layouts

/-- What the operands before a node say. -/
def operandObservations (property : StackProperty) (input : ReportInput) (node : Node) :
    List Observation :=
  match (input.method.instruction? node.instruction).bind
      (Instruction.expectedOperands input.method.pool) with
  | some expected =>
    property.statesBefore.states.flatMap fun state => checkOperands state expected
  | none => []

end StackProperty

namespace ReportInput

/-- The findings about types. -/
def typeFindings (input : ReportInput) : List Finding :=
  input.analyzedNodes.flatMap fun (id, node, property) =>
    (property.typeObservation :: property.operandObservations input node).map fun observation =>
      ⟨some (node.site id), observation⟩

end ReportInput

end StackFlow
