import StackFlow.ConstantPool
import StackFlow.Decimal.Layout
import StackFlow.Decimal.Shortest
import StackFlow.Descriptor.Basic
import StackFlow.Descriptor.Parser
import StackFlow.Descriptor.Printer
import StackFlow.Effect.Basic
import StackFlow.Effect.Interpretation
import StackFlow.Effect.Resolution
import StackFlow.Effect.Warnings
import StackFlow.Error
import StackFlow.Event
import StackFlow.Findings.Basic
import StackFlow.Findings.Content
import StackFlow.Findings.Loops
import StackFlow.Findings.Size
import StackFlow.Findings.Summary
import StackFlow.Findings.Types
import StackFlow.FlowGraph.BackEdges
import StackFlow.FlowGraph.Basic
import StackFlow.Instruction
import StackFlow.Iteration
import StackFlow.Locals
import StackFlow.Method
import StackFlow.OffsetVector
import StackFlow.Opcode.Basic
import StackFlow.Opcode.Encoding
import StackFlow.Propagation.Analysis
import StackFlow.Propagation.Property
import StackFlow.Propagation.RootStates
import StackFlow.Propagation.Worklist
import StackFlow.Report
import StackFlow.Settings
import StackFlow.Stack.Entry
import StackFlow.Stack.State
import StackFlow.Stack.StateSet
import StackFlow.Text.Printable
import StackFlow.Text.Quoted
import StackFlow.Proofs.Distinct
import StackFlow.Proofs.Locals
import StackFlow.Proofs.FlowGraph.Calls
import StackFlow.Proofs.FlowGraph.Reachability
import StackFlow.Proofs.Iteration
import StackFlow.Proofs.FlowGraph.DepthFirst
import StackFlow.Proofs.FlowGraph.BackEdges
import StackFlow.Proofs.FlowGraph.Exploration
import StackFlow.Proofs.Propagation.Schedule
import StackFlow.Proofs.Effect.Congruence
import StackFlow.Proofs.Propagation.Coverage
import StackFlow.Proofs.Propagation.States
import StackFlow.Proofs.Propagation.Paths
import StackFlow.Proofs.Findings.NoErrors
import StackFlow.Proofs.Propagation.Loops
import StackFlow.Proofs.Propagation.Entries
import StackFlow.Proofs.Propagation.Verdicts
import StackFlow.Proofs.Propagation.Recursion
import StackFlow.Proofs.Descriptor.Grammar
import StackFlow.Proofs.FlowGraph.Identifiers
import StackFlow.Proofs.FlowGraph.Bounds
import StackFlow.Proofs.Propagation.Bounds
import StackFlow.Proofs.Findings.Witnesses
import StackFlow.Proofs.Effect.Calls
import StackFlow.Proofs.Effect.Footprint
import StackFlow.Proofs.Effect.InformationFlow
import StackFlow.Proofs.Propagation.Origins
import StackFlow.Proofs.ConstantPool.References
import StackFlow.Proofs.Propagation.HandlerLocals
import StackFlow.Proofs.Propagation.RegisteredCount
import StackFlow.Proofs.Findings.Operands
import StackFlow.Proofs.Findings.Joins
import StackFlow.Proofs.Findings.Metrics
import StackFlow.Proofs.Stack.InsertionOrder
import StackFlow.Proofs.OffsetVector.Refinement
import StackFlow.Proofs.FlowGraph.Removal
import StackFlow.Proofs.Propagation.Rejection
import StackFlow.Proofs.Effect.Forms
import StackFlow.Proofs.Descriptor.EarlyEnd
import StackFlow.Proofs.Effect.ArrayCreation
