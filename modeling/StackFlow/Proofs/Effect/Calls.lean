import StackFlow.Proofs.Effect.Footprint

/-!
# The words of a call

A call takes entries, a descriptor counts words, and a stack measures its entries by their bytes.
The three agree: where the top of a stack holds what a descriptor asks for, the call succeeds, and
the stack gets smaller by the words of the parameters and larger by those of the result.
-/

namespace StackFlow

open OffsetVector

theorem ValueType.sizeInBytes_ofFieldType (type : FieldType) :
    (ofFieldType type).sizeInBytes = 4 * type.words := by
  cases type with
  | base type => cases type <;> rfl
  | reference type => rfl

namespace Entry

/-- Says that an entry has the type and the size of the values of a field type. -/
structure Holds (type : FieldType) (entry : Entry) : Prop where
  valueType_eq : entry.valueType = .ofFieldType type
  sizeInBytes_eq : entry.sizeInBytes = (ValueType.ofFieldType type).sizeInBytes

theorem holds_make (producer : Option Nat) (type : FieldType) (text : String) :
    Holds type (.make producer (.ofFieldType type) text) :=
  ⟨rfl, rfl⟩

theorem Holds.width_eq {type : FieldType} {entry : Entry} (holds : Holds type entry) :
    width entry = type.words := by
  have size := holds.sizeInBytes_eq
  rw [ValueType.sizeInBytes_ofFieldType] at size
  change entry.sizeInBytes / 4 = type.words
  omega

end Entry

theorem CallKind.hasReceiver_iff {kind : CallKind} :
    kind.hasReceiver = true ↔ kind = .virtual ∨ kind = .special ∨ kind = .interface := by
  cases kind <;> decide

theorem CallKind.hasReceiver_eq_false_iff {kind : CallKind} :
    kind.hasReceiver = false ↔ kind = .static ∨ kind = .dynamic := by
  cases kind <;> decide

namespace MethodDescriptor

/-- The number of words of what a method returns. -/
def returnWords (descriptor : MethodDescriptor) : Nat :=
  match descriptor.returnType with
  | none => 0
  | some type => type.words

/-- Says that entries, bottom to top, are what a call of a method takes: a receiver of one word for
a virtual, special or interface call, and then an argument for each parameter. -/
inductive Supplied (descriptor : MethodDescriptor) (kind : CallKind) : List Entry → Prop where
  | arguments {arguments : List Entry} (noReceiver : kind = .static ∨ kind = .dynamic) :
      List.Forall₂ Entry.Holds descriptor.parameters arguments →
        Supplied descriptor kind arguments
  | receiver {receiver : Entry} {arguments : List Entry}
      (onReceiver : kind = .virtual ∨ kind = .special ∨ kind = .interface)
      (oneWord : width receiver = 1) :
      List.Forall₂ Entry.Holds descriptor.parameters arguments →
        Supplied descriptor kind (receiver :: arguments)

theorem widthSum_of_holds {types : List FieldType} {entries : List Entry}
    (holds : List.Forall₂ Entry.Holds types entries) :
    widthSum entries = types.foldr (fun type words => type.words + words) 0 := by
  induction holds with
  | nil => rfl
  | cons first _ ih => simp [first.width_eq, ih]

variable {descriptor : MethodDescriptor} {kind : CallKind} {entries : List Entry}

theorem Supplied.widthSum_eq (supplied : descriptor.Supplied kind entries) :
    widthSum entries = descriptor.parameterWords kind.hasReceiver := by
  cases supplied with
  | arguments noReceiver holds =>
      rw [CallKind.hasReceiver_eq_false_iff.2 noReceiver]
      simp [parameterWords, widthSum_of_holds holds]
  | receiver onReceiver oneWord holds =>
      rw [CallKind.hasReceiver_iff.2 onReceiver]
      simp [parameterWords, widthSum_of_holds holds, oneWord]

theorem Supplied.length_eq (supplied : descriptor.Supplied kind entries) :
    entries.length = descriptor.parameters.length + if kind.hasReceiver then 1 else 0 := by
  cases supplied with
  | arguments noReceiver holds =>
      simp [CallKind.hasReceiver_eq_false_iff.2 noReceiver, holds.length_eq]
  | receiver onReceiver oneWord holds =>
      simp [CallKind.hasReceiver_iff.2 onReceiver, holds.length_eq]

/-- The entry that a call at an offset pushes, if the method returns a value. -/
def returned (descriptor : MethodDescriptor) (offset : Nat) : Option Entry :=
  descriptor.returnType.map fun type => .make (some offset) (.ofFieldType type) returnedValue

theorem valueType_returned (descriptor : MethodDescriptor) (offset : Nat) :
    (descriptor.returned offset).map Entry.valueType =
      descriptor.returnType.map .ofFieldType := by
  unfold returned
  cases descriptor.returnType <;> rfl

theorem widthSum_returned (descriptor : MethodDescriptor) (offset : Nat) :
    widthSum (descriptor.returned offset).toList = descriptor.returnWords := by
  unfold returned returnWords
  cases descriptor.returnType with
  | none => rfl
  | some type => exact (Entry.holds_make (some offset) type returnedValue).width_eq

end MethodDescriptor

section Calls

variable {environment : Environment} {instruction : Instruction} {kind : CallKind} {callee : Callee}

theorem Instruction.effect_call (calls : instruction.opcode = .invoke kind)
    (resolves : instruction.callee? environment.pool = some callee) :
    instruction.effect environment =
      .replace (callee.descriptor.parameters.length + if kind.hasReceiver then 1 else 0)
        (callee.descriptor.returnType.map fun type => (.ofFieldType type, returnedValue)) := by
  simp only [effect, calls, callEffect, resolves]

theorem interpret_call (calls : instruction.opcode = .invoke kind)
    (resolves : instruction.callee? environment.pool = some callee) {state : StackState}
    {rest entries : List Entry} (contents : state.toList = rest ++ entries)
    (supplied : callee.descriptor.Supplied kind entries) :
    interpret environment instruction state =
      .ok (.ofList (rest ++ (callee.descriptor.returned instruction.offset).toList)) := by
  have isReturned : Effect.made instruction.offset (callee.descriptor.returnType.map fun type =>
      (.ofFieldType type, returnedValue)) = callee.descriptor.returned instruction.offset :=
    Option.map_map ..
  rw [interpret, Instruction.effect_call calls resolves, ← supplied.length_eq]
  apply Effect.apply_replace_eq_ok_iff.2
  rw [isReturned, StackState.length_eq, contents, StackState.toList_ofList]
  simp [List.rdrop]

/-- A call whose method is known succeeds on every stack whose top holds what the method asks for.
It takes just that, and pushes a value of the type that the method returns, if it returns one. The
size of the stack changes by what the descriptor says. -/
theorem interpret_call_words (calls : instruction.opcode = .invoke kind)
    (resolves : instruction.callee? environment.pool = some callee) {state : StackState}
    {rest entries : List Entry} (contents : state.toList = rest ++ entries)
    (supplied : callee.descriptor.Supplied kind entries) :
    ∃ (result : StackState) (returned : Option Entry),
      interpret environment instruction state = .ok result ∧
      result.toList = rest ++ returned.toList ∧
      returned.map Entry.valueType = callee.descriptor.returnType.map .ofFieldType ∧
      callee.descriptor.parameterWords kind.hasReceiver ≤ state.sizeInWords ∧
      result.sizeInWords = state.sizeInWords -
        callee.descriptor.parameterWords kind.hasReceiver + callee.descriptor.returnWords := by
  have before : state.sizeInWords =
      widthSum rest + callee.descriptor.parameterWords kind.hasReceiver := by
    rw [StackState.sizeInWords_eq, contents, widthSum_append, supplied.widthSum_eq]
  refine ⟨_, _, interpret_call calls resolves contents supplied, StackState.toList_ofList _,
    callee.descriptor.valueType_returned _, by omega, ?_⟩
  simp only [StackState.sizeInWords_eq (.ofList _), StackState.toList_ofList, widthSum_append,
    MethodDescriptor.widthSum_returned]
  omega

end Calls

/-- A method whose parameters take one or two words. -/
def mixing : Callee :=
  ⟨"mix", ⟨[.base .long, .base .char, .reference (.array (.base .double) 0), .base .double],
    some (.base .double)⟩⟩

/-- A call of it. -/
def mixingCall : Instruction := { offset := 7, opcode := .invoke .virtual, operands := [0, 6] }

/-- What the call is interpreted in. -/
def mixingEnvironment : Environment :=
  ⟨(ConstantPool.empty.addMethodRef "A" "mix" "(JC[DD)D" false).2, { table := [] }, "?"⟩

/-- A receiver and arguments. -/
def mixingOperands : List Entry :=
  [.make none .reference "r", .make (some 1) .long "l", .make (some 2) .int "c",
    .make none .reference "a", .make (some 3) .double "d"]

theorem interpret_call_words_mixing :
    mixingCall.callee? mixingEnvironment.pool = some mixing ∧
      mixing.descriptor.Supplied .virtual mixingOperands ∧
      ∃ (result : StackState) (returned : Option Entry),
        interpret mixingEnvironment mixingCall
          (.ofList ([.make none .long "below"] ++ mixingOperands)) = .ok result ∧
        result.toList = [.make none .long "below"] ++ returned.toList ∧
        returned.map Entry.valueType = some .double ∧ result.sizeInWords = 9 - 7 + 2 := by
  have calls : mixingCall.opcode = .invoke .virtual := rfl
  have resolves : mixingCall.callee? mixingEnvironment.pool = some mixing := by decide +kernel
  have supplied : mixing.descriptor.Supplied .virtual mixingOperands :=
    .receiver (.inl rfl) rfl (.cons ⟨rfl, rfl⟩ (.cons ⟨rfl, rfl⟩ (.cons ⟨rfl, rfl⟩ (.cons ⟨rfl, rfl⟩ .nil))))
  rcases interpret_call_words calls resolves
      (StackState.toList_ofList ([.make none .long "below"] ++ mixingOperands)) supplied with
    ⟨result, returned, succeeds, contents, isReturned, _, words⟩
  exact ⟨resolves, supplied, result, returned, succeeds, contents, isReturned, words⟩

end StackFlow
