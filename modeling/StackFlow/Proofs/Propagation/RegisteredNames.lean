import StackFlow.Proofs.Locals
import StackFlow.Proofs.Propagation.States

/-!
# Names that roots register

Entering a root may register a name for the local variable into which its handlers store their
exception. All such names are the same, so what matters is for which slots and from which offsets
they are registered, and that depends on the entered roots alone, not on their order
(`Problem.mem_registered_namesAfter`).
-/

namespace StackFlow

/-! ### Registered names -/

namespace LocalNames

variable {names : LocalNames} {slot offset : Nat} {name : String}

theorem loadName?_of_mem {entry : RegisteredName}
    (unresolved : names.table.resolve? slot offset = none)
    (same : ∀ entry ∈ names.registered, entry.name = name) (member : entry ∈ names.registered)
    (isSlot : entry.slot = slot) (isEarlier : entry.offset ≤ offset) :
    names.loadName? slot offset = some name := by
  rw [loadName?_of_unresolved unresolved]
  cases found : names.registeredUpTo? slot offset with
  | none => exact absurd ⟨entry, member, isSlot, isEarlier⟩ (registeredUpTo?_eq_none_iff.1 found)
  | some best => rw [Option.map_some, same best (greatest_of_registeredUpTo? found).1]

theorem loadName?_eq_none (unresolved : names.table.resolve? slot offset = none)
    (absent : ∀ entry ∈ names.registered, entry.slot = slot → ¬entry.offset ≤ offset) :
    names.loadName? slot offset = none := by
  rw [loadName?_of_unresolved unresolved, Option.map_eq_none_iff, registeredUpTo?_eq_none_iff]
  rintro ⟨entry, member, isSlot, isEarlier⟩
  exact absent entry member isSlot isEarlier

/-- Where nothing is registered, a name is added and none is replaced. -/
theorem mem_register_of_absent (absent : names.registeredAt? slot offset = none)
    {entry : RegisteredName} :
    entry ∈ (names.register slot offset name).registered ↔
      entry ∈ names.registered ∨ entry = ⟨slot, offset, name⟩ := by
  rw [registeredAt?_eq_none_iff] at absent
  rw [mem_register, or_comm, and_iff_left_of_imp (absent entry)]

theorem storeName?_eq_none_iff : names.storeName? slot offset = none ↔
    names.table.resolveStore? slot offset = none ∧ names.registeredAt? slot offset = none := by
  simp [storeName?]

end LocalNames

namespace Node

variable {method : Method} {settings : Settings} {names : LocalNames} {node : Node}
  {slot offset : Nat}

theorem unnamedStore?_eq_some_iff : node.unnamedStore? method names = some (slot, offset) ↔
    ∃ instruction, method.instruction? node.instruction = some instruction ∧
      instruction.opcode.isStore = true ∧ instruction.localIndex = .ok slot ∧
      instruction.offset = offset ∧ names.storeName? slot offset = none := by
  unfold unnamedStore?
  simp only [Option.isNone_iff_eq_none]
  split
  · next instruction found =>
    split
    · next isStore isSlot => grind
    · next isOther => grind
  · next unknown => simp [unknown]

/-- What the analysis registers is left alone by it afterwards. -/
theorem handlerLocal?_eq_some_iff : node.handlerLocal? method settings names = some (slot, offset) ↔
    node.handlerLocal? method settings { table := names.table } = some (slot, offset) ∧
      names.registeredAt? slot offset = none := by
  unfold handlerLocal?
  split
  · simp only [unnamedStore?_eq_some_iff, LocalNames.storeName?_eq_none_iff]
    have unregistered : ({ table := names.table } : LocalNames).registeredAt? slot offset = none :=
      rfl
    simp only [unregistered]
    grind
  · simp

theorem mem_registered_rootNames {entry : RegisteredName} :
    entry ∈ (node.rootNames method settings names).registered ↔
      entry ∈ names.registered ∨
        node.handlerLocal? method settings names = some (entry.slot, entry.offset) ∧
          entry.name = anyException := by
  unfold rootNames
  split
  · next slot offset registers =>
    rw [LocalNames.mem_register_of_absent (handlerLocal?_eq_some_iff.1 registers).2, registers]
    constructor
    · rintro (member | rfl)
      · exact Or.inl member
      · exact Or.inr ⟨rfl, rfl⟩
    · rintro (member | ⟨same, isName⟩)
      · exact Or.inl member
      · cases same
        exact Or.inr (by rw [← isName])
  · next registersNothing => simp [registersNothing]

theorem table_rootNames : (node.rootNames method settings names).table = names.table := by
  unfold rootNames
  split <;> rfl

theorem namedLocal_mem_rootEvents_iff {id : NodeId} {name : String} :
    Event.namedLocal slot offset name ∈ node.rootEvents method settings names id ↔
      node.handlerLocal? method settings names = some (slot, offset) ∧ name = anyException := by
  unfold rootEvents
  split
  · next isEntry => simp [handlerLocal?, handlers, isEntry]
  · split
    · next noHandler => simp [handlerLocal?, noHandler]
    · split
      · next registers => simp [registers, eq_comm, and_assoc]
      · next registersNothing => simp [registersNothing]

end Node

/-! ### Names along the roots -/

namespace Problem

/-- The names of local variables after a root was entered. -/
def enter (problem : Problem) (names : LocalNames) (root : NodeId) : LocalNames :=
  match problem.graph.node? root with
  | some node => node.rootNames problem.method problem.settings names
  | none => names

/-- The names of local variables after roots were entered, in order. -/
def namesAfter (problem : Problem) (roots : List NodeId) : LocalNames :=
  roots.foldl problem.enter problem.ownNames

/-- Says that a root names a slot from an offset on: its handlers begin by a store there for which
the method has no name, and such variables are to be named. -/
def Names (problem : Problem) (root : NodeId) (slot offset : Nat) : Prop :=
  ∃ node, problem.graph.node? root = some node ∧
    node.handlerLocal? problem.method problem.settings problem.ownNames = some (slot, offset)

variable {problem : Problem} {roots : List NodeId} {names : LocalNames} {root : NodeId}

theorem namesAfter_append_singleton (problem : Problem) (roots : List NodeId) (root : NodeId) :
    problem.namesAfter (roots ++ [root]) = problem.enter (problem.namesAfter roots) root := by
  simp only [namesAfter, List.foldl_append, List.foldl_cons, List.foldl_nil]

theorem table_namesAfter (problem : Problem) (roots : List NodeId) :
    (problem.namesAfter roots).table = problem.method.locals := by
  induction roots using List.reverseRecOn with
  | nil => rfl
  | append_singleton roots root ih =>
      rw [namesAfter_append_singleton, enter]
      split
      · exact Node.table_rootNames.trans ih
      · exact ih

/-- Two roots may begin by the same store; then the second one adds nothing. -/
theorem mem_registered_enter (own : names.table = problem.method.locals)
    (same : ∀ entry ∈ names.registered, entry.name = anyException) {entry : RegisteredName} :
    entry ∈ (problem.enter names root).registered ↔ entry ∈ names.registered ∨
      entry.name = anyException ∧ problem.Names root entry.slot entry.offset := by
  unfold enter
  cases known : problem.graph.node? root with
  | none => simp [Names, known]
  | some node =>
      dsimp only
      rw [Node.mem_registered_rootNames, Node.handlerLocal?_eq_some_iff, own]
      constructor
      · rintro (member | ⟨⟨registers, _⟩, isName⟩)
        · exact Or.inl member
        · exact Or.inr ⟨isName, node, known, registers⟩
      · rintro (member | ⟨isName, found, foundKnown, registers⟩)
        · exact Or.inl member
        · rw [known, Option.some.injEq] at foundKnown
          subst found
          cases absent : names.registeredAt? entry.slot entry.offset with
          | none => exact Or.inr ⟨⟨registers, rfl⟩, isName⟩
          | some other =>
              rcases LocalNames.mem_of_registeredAt? absent with ⟨member, samePlace⟩
              rw [RegisteredName.place_eq_iff] at samePlace
              have isEntry : other = entry := by
                rw [RegisteredName.mk.injEq]
                exact ⟨samePlace.1, samePlace.2, (same other member).trans isName.symm⟩
              exact Or.inl (isEntry ▸ member)

/-- What is registered is what the roots name. -/
theorem mem_registered_namesAfter {entry : RegisteredName} :
    entry ∈ (problem.namesAfter roots).registered ↔
      entry.name = anyException ∧ ∃ root ∈ roots, problem.Names root entry.slot entry.offset := by
  induction roots using List.reverseRecOn generalizing entry with
  | nil => simp [namesAfter, ownNames]
  | append_singleton roots root ih =>
      rw [namesAfter_append_singleton, mem_registered_enter (table_namesAfter problem roots)
        fun entry member => (ih.1 member).1, ih]
      simp only [List.mem_append, List.mem_singleton, or_and_right, exists_or, exists_eq_left,
        ← and_or_left]

/-- A load that the table does not name reads what some root names up to its offset. -/
theorem loadName?_namesAfter (problem : Problem) (roots : List NodeId) {slot offset : Nat}
    (unresolved : problem.method.locals.resolve? slot offset = none) :
    ((∃ root ∈ roots, ∃ start ≤ offset, problem.Names root slot start) →
      (problem.namesAfter roots).loadName? slot offset = some anyException) ∧
    ((¬∃ root ∈ roots, ∃ start ≤ offset, problem.Names root slot start) →
      (problem.namesAfter roots).loadName? slot offset = none) := by
  rw [← table_namesAfter problem roots] at unresolved
  constructor
  · rintro ⟨root, member, start, isEarlier, isNamed⟩
    have registered : ⟨slot, start, anyException⟩ ∈ (problem.namesAfter roots).registered :=
      mem_registered_namesAfter.2 ⟨rfl, root, member, isNamed⟩
    exact LocalNames.loadName?_of_mem unresolved
      (fun entry other => (mem_registered_namesAfter.1 other).1) registered rfl isEarlier
  · intro unnamed
    apply LocalNames.loadName?_eq_none unresolved
    rintro entry registered rfl isEarlier
    rcases (mem_registered_namesAfter.1 registered).2 with ⟨root, member, isNamed⟩
    exact unnamed ⟨root, member, entry.offset, isEarlier, isNamed⟩

end Problem

end StackFlow
