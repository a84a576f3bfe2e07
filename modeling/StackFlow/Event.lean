import StackFlow.Instruction

/-!
# Events

What is worth telling about a run while it happens, as values. An event has a level and a wording;
who shows it, and whether, is up to the caller.
-/

namespace StackFlow

/-- How much an event matters. -/
inductive EventLevel where
  | trace | debug | warn
deriving Repr, DecidableEq

/-- The name of a level. -/
def EventLevel.name : EventLevel → String
  | .trace => "trace" | .debug => "debug" | .warn => "warn"

/-- A node of a flow graph as events name it. -/
structure NodeLabel where
  node : NodeId
  mnemonic : String
  offset : Nat
deriving Repr, DecidableEq

/-- The wording of a label. -/
def NodeLabel.text (label : NodeLabel) : String :=
  s!"{nodeName label.node} ({label.mnemonic} at {label.offset})"

/-- Something that happened during a run. -/
inductive Event where
  /-- A constant landed past the last index of its pool. -/
  | poolOverflow (offset : Nat)
  /-- An operand could not be read. -/
  | unreadableOperand (instruction : Instruction) (error : Error)
  | unresolvableClass (instruction : Instruction)
  | unresolvableField (instruction : Instruction)
  | unresolvableMethod (instruction : Instruction)
  | unresolvableConstant (instruction : Instruction)
  /-- Edges that close loops were taken out of the graph. -/
  | removedBackEdges (count : Nat)
  /-- A predecessor was to hand on states and had none. -/
  | predecessorWithoutStates (node predecessor : NodeId)
  /-- A node without predecessors is neither the entry nor a handler. -/
  | noHandler (node : NodeId) (offset : Nat)
  /-- A local variable was given a name. -/
  | namedLocal (slot offset : Nat) (name : String)
  /-- A node's states were computed. -/
  | visited (label : NodeLabel) (statesBefore statesAfter : Nat)
  /-- A node's instruction failed, so its successors get no states from it. -/
  | abandoned (label : NodeLabel) (error : StackError)
  /-- The run is over. -/
  | finished (analyzed nodes errored maxStackSize : Nat)
deriving Repr, DecidableEq

namespace Event

/-- The level of an event. -/
def level : Event → EventLevel
  | .poolOverflow _ | .unreadableOperand .. | .unresolvableClass _ | .unresolvableField _
  | .unresolvableMethod _ | .unresolvableConstant _ | .predecessorWithoutStates ..
  | .abandoned .. => .warn
  | .removedBackEdges _ | .finished .. => .debug
  | .noHandler .. | .namedLocal .. | .visited .. => .trace

/-- The wording of an event. -/
def text : Event → String
  | .poolOverflow offset => s!"constant pool overflow at index {offset}"
  | .unreadableOperand instruction error => s!"{instruction.render}: {error.message}"
  | .unresolvableClass instruction => s!"{instruction.render}: unresolvable class"
  | .unresolvableField instruction => s!"{instruction.render}: unresolvable field"
  | .unresolvableMethod instruction => s!"{instruction.render}: unresolvable method"
  | .unresolvableConstant instruction => s!"{instruction.render}: unresolvable constant"
  | .removedBackEdges count => s!"removed {count} back edge(s)"
  | .predecessorWithoutStates node predecessor =>
    s!"{nodeName node}: predecessor {nodeName predecessor} has no states"
  | .noHandler node offset => s!"{nodeName node}: no predecessors and no handler at {offset}"
  | .namedLocal slot offset name => s!"naming local {slot} at {offset} '{name}'"
  | .visited label statesBefore statesAfter =>
    s!"{label.text}: {statesBefore} state(s) before, {statesAfter} after"
  | .abandoned label error => s!"{label.text}: {error.message}, successors left unanalyzed"
  | .finished analyzed nodes errored maxStackSize =>
    s!"analyzed {analyzed}/{nodes} nodes ({errored} errored), max stack size {maxStackSize}"

end Event

end StackFlow
