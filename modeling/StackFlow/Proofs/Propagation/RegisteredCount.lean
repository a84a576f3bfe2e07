import Mathlib.Data.Set.Card
import StackFlow.Proofs.Propagation.HandlerLocals

/-!
# The number of named locals

Each root may name the local variable into which its handlers store their exception, unless an
earlier root has named it already. How many names there are in the end does not depend on the order
of the roots: the names that are registered are for different places, and these are the places at
which some root begins by such a store.
-/

namespace StackFlow

/-- Says that handlers start at an offset that is not the entry of the method, and begin with the
instruction of an index, which stores into a slot, at an offset of its own, for which the method has
no variable. -/
structure Method.StoresUnnamed (method : Method) (offset : Nat) (index : Option Nat)
    (place : Nat × Nat) : Prop where
  notEntry : offset ≠ 0
  handled : ∃ handler ∈ method.handlers, handler.target = offset
  stores : ∃ instruction, method.instruction? index = some instruction ∧
    instruction.opcode.isStore = true ∧ instruction.localIndex = .ok place.1 ∧
    instruction.offset = place.2
  unresolved : method.locals.resolveStore? place.1 place.2 = none

/-- Says that some root has an offset and refers to an instruction by an index. -/
def FlowGraph.HasRoot (graph : FlowGraph) (offset : Nat) (index : Option Nat) : Prop :=
  ∃ root ∈ graph.roots, ∃ node, graph.node? root = some node ∧ node.offset = offset ∧
    node.instruction = index

/-- The slots and offsets of the unnamed local variables into which handlers store their exception
at a root. -/
def FlowGraph.unnamedPlaces (graph : FlowGraph) (method : Method) : Set (Nat × Nat) :=
  {place | ∃ offset index, graph.HasRoot offset index ∧ method.StoresUnnamed offset index place}

namespace Node

variable {method : Method} {settings : Settings} {names : LocalNames} {node : Node}
  {place : Nat × Nat}

theorem handlers_ne_nil_iff : node.handlers method ≠ [] ↔
    node.offset ≠ 0 ∧ ∃ handler ∈ method.handlers, handler.target = node.offset := by
  by_cases isEntry : node.offset = 0
  · simp [handlers, isEntry]
  · simp [handlers, isEntry, Method.handlersAt]

theorem handlerLocal?_iff_storesUnnamed :
    node.handlerLocal? method settings { table := method.locals } = some place ↔
      settings.registerHandlerLocals = true ∧
        method.StoresUnnamed node.offset node.instruction place := by
  rcases place with ⟨slot, offset⟩
  have unnamed : ({ table := method.locals } : LocalNames).storeName? slot offset = none ↔
      method.locals.resolveStore? slot offset = none :=
    LocalNames.storeName?_eq_none_iff.trans (and_iff_left rfl)
  rw [handlerLocal?, Option.ite_none_right_eq_some, unnamedStore?_eq_some_iff, Bool.and_eq_true,
    Bool.not_eq_true', List.isEmpty_eq_false_iff, handlers_ne_nil_iff]
  simp only [unnamed]
  constructor
  · rintro ⟨⟨registers, notEntry, handled⟩, instruction, known, isStore, isSlot, isOffset, unresolved⟩
    exact ⟨registers, notEntry, handled, ⟨instruction, known, isStore, isSlot, isOffset⟩, unresolved⟩
  · rintro ⟨registers, notEntry, handled, ⟨instruction, known, isStore, isSlot, isOffset⟩, unresolved⟩
    exact ⟨⟨registers, notEntry, handled⟩, instruction, known, isStore, isSlot, isOffset, unresolved⟩

theorem distinct_rootNames (distinct : names.Distinct) :
    (node.rootNames method settings names).Distinct := by
  unfold rootNames
  split
  · exact distinct.register ..
  · exact distinct

end Node

namespace Problem

variable (problem : Problem)

theorem distinct_namesAfter (roots : List NodeId) : (problem.namesAfter roots).Distinct := by
  induction roots using List.reverseRecOn with
  | nil => exact List.nodup_nil
  | append_singleton roots root ih =>
      rw [namesAfter_append_singleton, enter]
      split
      · exact Node.distinct_rootNames ih
      · exact ih

theorem mem_places_namesAfter {roots : List NodeId} {place : Nat × Nat} :
    place ∈ (problem.namesAfter roots).registered.map RegisteredName.place ↔
      ∃ root ∈ roots, problem.Names root place.1 place.2 := by
  rw [List.mem_map]
  constructor
  · rintro ⟨entry, member, rfl⟩
    exact (mem_registered_namesAfter.1 member).2
  · intro isNamed
    exact ⟨⟨place.1, place.2, anyException⟩, mem_registered_namesAfter.2 ⟨rfl, isNamed⟩, rfl⟩

theorem exists_names_iff {place : Nat × Nat} :
    (∃ root ∈ problem.graph.roots, problem.Names root place.1 place.2) ↔
      problem.settings.registerHandlerLocals = true ∧
        place ∈ problem.graph.unnamedPlaces problem.method := by
  simp only [Names, ownNames, Prod.mk.eta, Node.handlerLocal?_iff_storesUnnamed]
  constructor
  · rintro ⟨root, isRoot, node, known, registers, stores⟩
    exact ⟨registers, node.offset, node.instruction, ⟨root, isRoot, node, known, rfl, rfl⟩, stores⟩
  · rintro ⟨registers, _, _, ⟨root, isRoot, node, known, rfl, rfl⟩, stores⟩
    exact ⟨root, isRoot, node, known, registers, stores⟩

end Problem

theorem encard_of_nodup {α : Type} {elements : List α} (nodup : elements.Nodup) :
    {element | element ∈ elements}.encard = elements.length := by
  classical
  rw [← List.coe_toFinset, Set.encard_coe_eq_coe_finsetCard, List.toFinset_card_of_nodup nodup]

theorem registeredLocals_of_analyzeAcyclic {problem : Problem} {analysis : Analysis}
    (wellFormed : problem.graph.WellFormed)
    (analyzed : analyzeAcyclic problem.method problem.graph problem.settings = .ok analysis) :
    (analysis.registeredLocals : ℕ∞) =
      {place | problem.settings.registerHandlerLocals = true ∧
        place ∈ problem.graph.unnamedPlaces problem.method}.encard := by
  have count : analysis.registeredLocals =
      (problem.namesAfter problem.graph.roots).registered.length := by
    rw [← Propagation.names_final wellFormed]
    unfold analyzeAcyclic at analyzed
    split at analyzed
    · cases analyzed
    · cases analyzed
      rfl
  rw [count, ← List.length_map RegisteredName.place,
    ← encard_of_nodup (problem.distinct_namesAfter problem.graph.roots)]
  simp only [problem.mem_places_namesAfter, problem.exists_names_iff]

/-- If handlers' locals are to be named, an analysis names as many as there are different slots and
offsets into which handlers store at a root without the method having a variable there; otherwise it
names none. The order of the nodes does not matter, and neither does how many roots there are with
the same offset and instruction. -/
theorem analyzeAcyclic_registeredLocals {method : Method} {graph : FlowGraph} (built : graph.Built)
    (valid : graph.validate method = .ok ()) (settings : Settings) :
    ∃ analysis, analyzeAcyclic method graph settings = .ok analysis ∧
      (settings.registerHandlerLocals = false → analysis.registeredLocals = 0) ∧
      (settings.registerHandlerLocals = true →
        (analysis.registeredLocals : ℕ∞) = (graph.unnamedPlaces method).encard) ∧
      ∀ other otherAnalysis, other.Built →
        analyzeAcyclic method other settings = .ok otherAnalysis →
        (∀ offset index, other.HasRoot offset index ↔ graph.HasRoot offset index) →
          otherAnalysis.registeredLocals = analysis.registeredLocals := by
  rcases analyzeAcyclic_of_valid valid settings with ⟨analysis, analyzed, _⟩
  have counted {graph : FlowGraph} {analysis : Analysis} (built : graph.Built) analyzed :=
    @registeredLocals_of_analyzeAcyclic ⟨method, graph, settings⟩ analysis built.wellFormed analyzed
  have count := counted built analyzed
  refine ⟨analysis, analyzed, ?_, ?_, ?_⟩
  · intro registersNone
    simpa [registersNone] using count
  · intro registers
    simpa [registers] using count
  · intro other otherAnalysis otherBuilt otherAnalyzed sameRoots
    have otherCount := counted otherBuilt otherAnalyzed
    simp only [FlowGraph.unnamedPlaces, sameRoots] at otherCount
    exact Nat.cast_injective (otherCount.trans count.symm)

/-- A method with four handlers. The first two store into one slot at different offsets, the third
stores into a slot that has a variable there, and the fourth stores nothing. -/
def fourHandlers : Method :=
  { instructions := #[{ offset := 0, opcode := .returnVoid },
      { offset := 1, opcode := .store .reference none, operands := [1] },
      { offset := 3, opcode := .store .reference none, operands := [1] },
      { offset := 5, opcode := .store .reference none, operands := [2] },
      { offset := 7, opcode := .pop }]
    locals := [⟨2, 7, 9, "caught", "LFault;"⟩]
    handlers := [⟨0, 1, 1, 0⟩, ⟨0, 1, 3, 0⟩, ⟨0, 1, 5, 0⟩, ⟨0, 1, 7, 0⟩] }

/-- Two nodes for the first handler and one for each of the others, all of them roots, and a loop. -/
def repeatedRoots : FlowGraph :=
  .ofCalls [.addNode 1 "astore" .simple (some 1), .addInstructionNodes fourHandlers,
    .addNode 9 "start" .start none, .addEdge 6 6]

theorem analyzeAcyclic_registeredLocals_repeatedRoots :
    repeatedRoots.Built ∧ repeatedRoots.validate fourHandlers = .ok () ∧
      repeatedRoots.roots = [0, 1, 2, 3, 4, 5] ∧
      (repeatedRoots.unnamedPlaces fourHandlers).encard = 2 ∧
      ∃ analysis, analyzeAcyclic fourHandlers repeatedRoots { registerHandlerLocals := false } =
        .ok analysis ∧ analysis.registeredLocals = 0 := by
  have built : repeatedRoots.Built := ⟨_, rfl⟩
  have valid : repeatedRoots.validate fourHandlers = .ok () := by decide +kernel
  have count : (analyzeAcyclic fourHandlers repeatedRoots {}).toOption.map
      Analysis.registeredLocals = some 2 := by
    decide +kernel
  rcases analyzeAcyclic_registeredLocals built valid {} with ⟨analysis, analyzed, _, places, _⟩
  rcases analyzeAcyclic_registeredLocals built valid { registerHandlerLocals := false } with
    ⟨silent, silentAnalyzed, none, _⟩
  rw [analyzed] at count
  refine ⟨built, valid, by decide +kernel, ?_, silent, silentAnalyzed, none rfl⟩
  rw [← places rfl, Option.some.inj count]
  rfl

end StackFlow
