import StackFlow.Event
import StackFlow.FlowGraph.Basic
import StackFlow.Settings
import StackFlow.Stack.StateSet

/-!
# States at the roots

A node without predecessors is the entry of the method, where the stack is empty, or the start of
exception handlers, where the stack holds the exception alone. The handler may begin by storing the
exception into a local variable that has no name; such a variable can be given one.
-/

namespace StackFlow

/-- The value of an exception that a handler for all exceptions catches. It also names the local
variable that an exception is stored into. -/
def anyException : String := "<any exception>"

namespace Handler

/-- The value of the exception that a handler catches. -/
def caughtValue (method : Method) (placeholder : String) (handler : Handler) : String :=
  if handler.catchesAny then anyException
  else
    let className := (method.pool.className? handler.catchType).map classSourceName
    "<" ++ className.getD placeholder ++ ">"

/-- The stack at the start of a handler. -/
def entryState (method : Method) (placeholder : String) (handler : Handler) : StackState :=
  StackState.empty.push (.make none .reference (handler.caughtValue method placeholder))

end Handler

namespace Node

/-- The handlers that a node without predecessors starts. The node at offset zero is the entry of
the method instead. -/
def handlers (method : Method) (node : Node) : List Handler :=
  if node.offset = 0 then [] else method.handlersAt node.offset

/-- The states before a node without predecessors. -/
def rootStates (method : Method) (settings : Settings) (node : Node) : StateSet :=
  match node.handlers method with
  | [] => .singleEmpty
  | handlers => .ofList (handlers.map (Handler.entryState method settings.placeholder))

/-- The slot and the offset of the store by which a node begins, if the variable has no name. -/
def unnamedStore? (method : Method) (names : LocalNames) (node : Node) : Option (Nat × Nat) :=
  match method.instruction? node.instruction with
  | some instruction =>
    match instruction.opcode.isStore, instruction.localIndex with
    | true, .ok slot =>
      if (names.storeName? slot instruction.offset).isNone then some (slot, instruction.offset)
      else none
    | _, _ => none
  | none => none

/-- The slot and the offset of the local variable that is to be named at a node without
predecessors. -/
def handlerLocal? (method : Method) (settings : Settings) (names : LocalNames) (node : Node) :
    Option (Nat × Nat) :=
  if settings.registerHandlerLocals && !(node.handlers method).isEmpty then
    node.unnamedStore? method names
  else none

/-- The names of local variables after a node without predecessors was entered. -/
def rootNames (method : Method) (settings : Settings) (names : LocalNames) (node : Node) :
    LocalNames :=
  match node.handlerLocal? method settings names with
  | some (slot, offset) => names.register slot offset anyException
  | none => names

/-- What is told about a node without predecessors. -/
def rootEvents (method : Method) (settings : Settings) (names : LocalNames) (id : NodeId)
    (node : Node) : List Event :=
  if node.offset = 0 then []
  else if (node.handlers method).isEmpty then [.noHandler id node.offset]
  else
    match node.handlerLocal? method settings names with
    | some (slot, offset) => [.namedLocal slot offset anyException]
    | none => []

end Node

end StackFlow
