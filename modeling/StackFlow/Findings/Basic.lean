import StackFlow.Propagation.Analysis

/-!
# Findings

A finding is something that a report says about a node, or about the method as a whole. What it says
is an `Observation`, which has a severity and a wording; so a finding can be spoken of without its
text.
-/

namespace StackFlow

/-- How bad a finding is. -/
inductive Severity where
  | info | warning | error
deriving Repr, DecidableEq

/-- The name of a severity. -/
def Severity.name : Severity → String
  | .info => "info" | .warning => "warning" | .error => "error"

/-- What an instruction takes an operand for. -/
inductive OperandRole where
  | value | array | index | returnValue | object
  | fieldValue (field : String)
  | receiver (method : String)
  /-- An argument of a method, counted from one. -/
  | argument (position : Nat) (method : String)
deriving Repr, DecidableEq

/-- The wording of a role. -/
def OperandRole.text : OperandRole → String
  | .value => "value"
  | .array => "array"
  | .index => "index"
  | .returnValue => "return value"
  | .object => "object"
  | .fieldValue field => s!"value of {field}"
  | .receiver method => s!"receiver of {method}"
  | .argument position method => s!"argument {position} of {method}"

/-- An operand that an instruction takes from the stack. -/
structure Operand where
  valueType : ValueType
  role : OperandRole
deriving Repr, DecidableEq

/-- A loop, by the offsets of the node that closes it and of its header. -/
structure LoopLabel where
  source : Nat
  header : Nat
deriving Repr, DecidableEq

/-- The wording of a loop. -/
def LoopLabel.text (label : LoopLabel) : String := s!"loop {label.source} -> {label.header}"

/-- The types of a stack, bottom to top, as they are shown. -/
def renderLayout (layout : List ValueType) : String :=
  "[" ++ ", ".intercalate (layout.map ValueType.tag) ++ "]"

/-- Signatures as they are shown side by side. -/
def renderSignatures (signatures : List String) : String :=
  if signatures.isEmpty then "(none)" else " | ".intercalate signatures

/-- Numbers as they are shown side by side. -/
def renderNumbers (numbers : List Nat) : String := ", ".intercalate (numbers.map toString)

/-- What a finding says. -/
inductive Observation where
  /-- The node was never visited. -/
  | notAnalyzed
  /-- All stacks before the node have the same size. -/
  | stackSize (sizes : List Nat)
  | inconsistentSizes (sizes : List Nat)
  /-- The instruction of the node failed. -/
  | underflow (error : StackError)
  | exceedsMaxStack (size limit : Nat)
  /-- Stacks that are not empty when the method is left. -/
  | notEmptyOnExit (count : Nat)
  /-- All stacks before the node have the same types. -/
  | sameTypes (layouts : List (List ValueType))
  | inconsistentTypes (layouts : List (List ValueType))
  /-- An operand has another type than the instruction expects. -/
  | operandMismatch (expected : Operand) (found : ValueType)
  /-- The signatures of the states before and after the node. -/
  | content (before after : List String)
  /-- A state arrives along several edges. -/
  | repeatedArrival (signature : String) (count : Nat)
  | loopNotAnalyzed (label : LoopLabel)
  /-- A state comes back to the loop's header with types with which the loop was not entered. -/
  | loopMismatch (label : LoopLabel) (signature : String)
  | loopConsistent (label : LoopLabel)
  /-- A number about the method as a whole. -/
  | statistic (what : String) (count : Nat)
deriving Repr, DecidableEq

namespace Observation

/-- The severity of an observation. -/
def severity : Observation → Severity
  | .stackSize _ | .sameTypes _ | .content .. | .loopConsistent _ | .statistic .. => .info
  | .notAnalyzed | .notEmptyOnExit _ | .repeatedArrival .. | .loopNotAnalyzed _ => .warning
  | .inconsistentSizes _ | .underflow _ | .exceedsMaxStack .. | .inconsistentTypes _
  | .operandMismatch .. | .loopMismatch .. => .error

/-- The wording of an observation. -/
def message : Observation → String
  | .notAnalyzed => "not analyzed (unreachable, or only reachable through an error)"
  | .stackSize sizes => s!"stack size {renderNumbers sizes}"
  | .inconsistentSizes sizes => s!"inconsistent stack sizes: {renderNumbers sizes}"
  | .underflow error => s!"stack underflow ({error.message})"
  | .exceedsMaxStack size limit => s!"stack size {size} exceeds max_stack {limit}"
  | .notEmptyOnExit count => s!"stack not empty on exit ({count} state(s))"
  | .sameTypes layouts => "types " ++ String.join (layouts.map renderLayout)
  | .inconsistentTypes layouts =>
    "inconsistent types: " ++ " vs ".intercalate (layouts.map renderLayout)
  | .operandMismatch expected found =>
    s!"expected {expected.valueType.tag} for {expected.role.text} but found {found.tag}"
  | .content before after =>
    s!"before {renderSignatures before}, after {renderSignatures after}"
  | .repeatedArrival signature count =>
    s!"state {signature} arrives from {count} branches (possibly dead branch)"
  | .loopNotAnalyzed label => s!"{label.text}: not analyzed"
  | .loopMismatch label signature =>
    s!"{label.text}: state {signature} on the back edge does not match any entry state"
  | .loopConsistent label => s!"{label.text}: consistent"
  | .statistic what count => s!"{what}: {count}"

end Observation

/-- The node that a finding is about. -/
structure Site where
  node : NodeId
  offset : Nat
  mnemonic : String
deriving Repr, DecidableEq

/-- The site of a node. -/
def Node.site (node : Node) (id : NodeId) : Site := ⟨id, node.offset, node.mnemonic⟩

/-- One line of a report. Findings about the method as a whole have no site. -/
structure Finding where
  site : Option Site
  observation : Observation
deriving Repr, DecidableEq

namespace Finding

/-- The node that a finding is about. -/
def node? (finding : Finding) : Option NodeId := finding.site.map Site.node

/-- How bad a finding is. -/
def severity (finding : Finding) : Severity := finding.observation.severity

/-- The finding as a line of text. -/
def render (finding : Finding) : String :=
  let place := match finding.site with
    | some site => s!"{site.offset} {site.mnemonic}: "
    | none => ""
  s!"[{finding.severity.name}] {place}{finding.observation.message}"

end Finding

/-- What findings are drawn from. The graph need not be the one that was analyzed. -/
structure ReportInput where
  method : Method
  graph : FlowGraph
  analysis : Analysis
  settings : Settings

namespace ReportInput

/-- The stack size that the method is checked against. -/
def maxStack (input : ReportInput) : Nat := input.settings.maxStackFor input.method.maxStack

/-- The visited nodes that the graph has, with what is known about them. -/
def analyzedNodes (input : ReportInput) : List (NodeId × Node × StackProperty) :=
  input.analysis.analyzed.filterMap fun (id, property) =>
    (input.graph.node? id).map fun node => (id, node, property)

end ReportInput

end StackFlow
