import StackFlow.Proofs.Effect.Footprint

/-!
# Creation of arrays

The expression for a new array is made from the rendered name of a type. The name is cut at its
first bracket, and the length of what follows says how many dimensions the type has. If the name of
the element type has no bracket, this gives back the element type and the dimensions that went into
the name. Counts take the place of the leading dimensions, also where there are more of them than
dimensions.
-/

namespace StackFlow

/-! ### Brackets -/

theorem utf8ByteSize_brackets (count : Nat) :
    (String.join (List.replicate count "[]")).utf8ByteSize = 2 * count := by
  induction count with
  | zero => rfl
  | succ count ih =>
      have pair : "[]".utf8ByteSize = 2 := rfl
      rw [List.replicate_succ, String.join_cons, String.utf8ByteSize_append, ih, pair]
      omega

theorem toList_brackets_eq_nil_or_cons (count : Nat) :
    (String.join (List.replicate count "[]")).toList = [] ∨
      ∃ rest, (String.join (List.replicate count "[]")).toList = '[' :: rest := by
  cases count with
  | zero => exact .inl rfl
  | succ count =>
      refine .inr ⟨']' :: (String.join (List.replicate count "[]")).toList, ?_⟩
      simp [List.replicate_succ]

namespace Expression

/-- A name is cut where its brackets begin. -/
theorem cut_brackets {element : String} (plain : '[' ∉ element.toList) (count : Nat) :
    (element ++ String.join (List.replicate count "[]")).toList.takeWhile (· ≠ '[') =
        element.toList ∧
      (element ++ String.join (List.replicate count "[]")).toList.dropWhile (· ≠ '[') =
        (String.join (List.replicate count "[]")).toList := by
  have passes : ∀ c ∈ element.toList, decide (c ≠ '[') = true := by
    intro c member
    rw [decide_eq_true_eq]
    rintro rfl
    exact plain member
  rw [String.toList_append, List.takeWhile_append_of_pos passes,
    List.dropWhile_append_of_pos passes]
  rcases toList_brackets_eq_nil_or_cons count with none | ⟨rest, some⟩
  · simp [none]
  · simp [some]

theorem arrayCreation_brackets {element : String} (plain : '[' ∉ element.toList)
    (dimensions : Nat) (counts : List String) :
    arrayCreation (element ++ String.join (List.replicate dimensions "[]")) counts =
      "new " ++ element ++ subscripts counts ++
        String.join (List.replicate (dimensions - counts.length) "[]") := by
  rcases cut_brackets plain dimensions with ⟨front, back⟩
  simp only [arrayCreation, front, back, String.ofList_toList, utf8ByteSize_brackets]
  rw [Nat.mul_div_cancel_left dimensions (by decide : 0 < 2)]

end Expression

/-! ### Instructions that create arrays -/

/-- Says that the class constant which an instruction refers to names a type. -/
def Instruction.RefersTo (instruction : Instruction) (pool : ConstantPool) (type : ReferenceType) :
    Prop :=
  ∃ index name, instruction.constantIndex = .ok index ∧ pool.className? index = some name ∧
    ReferenceType.ofClassConstant name = .ok type

section Instructions

variable {environment : Environment} {instruction : Instruction} {type : ReferenceType}

theorem Instruction.RefersTo.classNameText_eq
    (refers : instruction.RefersTo environment.pool type) :
    instruction.classNameText environment = type.sourceName := by
  rcases refers with ⟨index, name, isIndex, isName, isType⟩
  simp [classNameText, className?, isIndex, isName, isType, Except.toOption]

theorem interpret_combine {resultType : ValueType} {text : List String → String} {count : Nat}
    (combines : instruction.effect environment = .combine count resultType text)
    {state : StackState} {rest taken : List Entry} (contents : state.toList = rest ++ taken)
    (enough : taken.length = count) :
    interpret environment instruction state = .ok (.ofList (rest ++
      [.make (some instruction.offset) resultType (text (taken.map Entry.value))])) := by
  subst enough
  rw [interpret, combines, ← StackState.ofList_toList state, contents]
  exact Effect.apply_of_acts (.combine taken resultType text) rest

theorem Instruction.effect_newReferenceArray (creates : instruction.opcode = .newReferenceArray)
    (refers : instruction.RefersTo environment.pool type) :
    instruction.effect environment = .combine 1 .reference (Expression.arrayCreation
      (type.elementName ++ String.join (List.replicate (type.dimensions + 1) "[]"))) := by
  have extended : type.sourceName ++ "[]" =
      type.elementName ++ String.join (List.replicate (type.dimensions + 1) "[]") := by
    simp [ReferenceType.sourceName, List.replicate_succ', String.append_assoc]
  simp only [effect, creates, refers.classNameText_eq, extended]

theorem Instruction.effect_newMultiArray (creates : instruction.opcode = .newMultiArray)
    (refers : instruction.RefersTo environment.pool type) {dimensions : Nat}
    (given : instruction.dimensions = .ok dimensions) :
    instruction.effect environment = .combine dimensions .reference (Expression.arrayCreation
      (type.elementName ++ String.join (List.replicate type.dimensions "[]"))) := by
  simp only [effect, creates, refers.classNameText_eq, given]
  rfl

/-- The creation of an array takes its counts, puts them in brackets behind the name of the element
type, and leaves empty brackets for the dimensions that have no count. An array of references has
one dimension more than its elements and takes one count; an array of several dimensions has those
of its type and takes as many counts as the instruction says. -/
theorem interpret_arrayCreation (refers : instruction.RefersTo environment.pool type)
    (plain : '[' ∉ type.elementName.toList) :
    (instruction.opcode = .newReferenceArray →
      ∀ (state : StackState) (rest : List Entry) (count : Entry), state.toList = rest ++ [count] →
        ∃ result, interpret environment instruction state = .ok result ∧
          result.toList = rest ++ [.make (some instruction.offset) .reference
            ("new " ++ type.elementName ++ "[" ++ count.value ++ "]" ++
              String.join (List.replicate type.dimensions "[]"))]) ∧
    (instruction.opcode = .newMultiArray → ∀ dimensions, instruction.dimensions = .ok dimensions →
      ∀ (state : StackState) (rest counts : List Entry), state.toList = rest ++ counts →
        counts.length = dimensions →
        ∃ result, interpret environment instruction state = .ok result ∧
          result.toList = rest ++ [.make (some instruction.offset) .reference
            ("new " ++ type.elementName ++
              String.join (counts.map fun count => "[" ++ count.value ++ "]") ++
              String.join (List.replicate (type.dimensions - dimensions) "[]"))]) := by
  constructor
  · intro creates state rest count contents
    have effect := Instruction.effect_newReferenceArray creates refers
    refine ⟨_, interpret_combine effect contents rfl, ?_⟩
    rw [StackState.toList_ofList, Expression.arrayCreation_brackets plain]
    simp [Expression.subscripts, String.append_assoc]
  · intro creates dimensions given state rest counts contents enough
    have effect := Instruction.effect_newMultiArray creates refers given
    refine ⟨_, interpret_combine effect contents enough, ?_⟩
    rw [StackState.toList_ofList, Expression.arrayCreation_brackets plain, List.length_map, enough,
      Expression.subscripts, List.map_map]
    rfl

end Instructions

/-- A pool with an array class of two dimensions. -/
def gridEnvironment : Environment :=
  ⟨(ConstantPool.empty.internClass "[[La/B;").2, { table := [] }, "?"⟩

/-- The type that the class stands for. -/
def gridType : ReferenceType := .array (.object "a/B") 1

/-- The creation of an array of such arrays. -/
def gridRowCreation : Instruction :=
  { offset := 4, opcode := .newReferenceArray, operands := [0, 2] }

/-- The creation of such an array with the given number of counts. -/
def gridCreation (dimensions : UInt8) : Instruction :=
  { offset := 4, opcode := .newMultiArray, operands := [0, 2, dimensions] }

theorem interpret_arrayCreation_grid :
    '[' ∉ gridType.elementName.toList ∧
    (∃ result, interpret gridEnvironment gridRowCreation
        (.ofList [.make none .long "x", .make none .int "n"]) = .ok result ∧
      result.toList = [.make none .long "x", .make (some 4) .reference "new a.B[n][][]"]) ∧
    (∃ result, interpret gridEnvironment (gridCreation 1)
        (.ofList [.make none .long "x", .make none .int "n"]) = .ok result ∧
      result.toList = [.make none .long "x", .make (some 4) .reference "new a.B[n][]"]) ∧
    ∃ result, interpret gridEnvironment (gridCreation 3)
        (.ofList [.make none .int "k", .make none .int "m", .make none .int "n"]) = .ok result ∧
      result.toList = [.make (some 4) .reference "new a.B[k][m][n]"] := by
  have plain : '[' ∉ gridType.elementName.toList := by decide +kernel
  have isName : gridEnvironment.pool.className? 2 = some "[[La/B;" := by decide +kernel
  have isType : ReferenceType.ofClassConstant "[[La/B;" = .ok gridType := by decide +kernel
  have refersRow : gridRowCreation.RefersTo gridEnvironment.pool gridType :=
    ⟨2, _, rfl, isName, isType⟩
  have refers (dimensions : UInt8) : (gridCreation dimensions).RefersTo gridEnvironment.pool
      gridType := ⟨2, _, rfl, isName, isType⟩
  refine ⟨plain, ?_, ?_, ?_⟩
  · rcases (interpret_arrayCreation refersRow plain).1 rfl _ [.make none .long "x"]
      (.make none .int "n") (StackState.toList_ofList _) with ⟨result, succeeds, contents⟩
    exact ⟨result, succeeds, contents.trans (by decide +kernel)⟩
  · rcases (interpret_arrayCreation (refers 1) plain).2 rfl 1 rfl _ [.make none .long "x"]
      [.make none .int "n"] (StackState.toList_ofList _) rfl with ⟨result, succeeds, contents⟩
    exact ⟨result, succeeds, contents.trans (by decide +kernel)⟩
  · rcases (interpret_arrayCreation (refers 3) plain).2 rfl 3 rfl _ []
      [.make none .int "k", .make none .int "m", .make none .int "n"]
      (StackState.toList_ofList _) rfl with ⟨result, succeeds, contents⟩
    exact ⟨result, succeeds, contents.trans (by decide +kernel)⟩

end StackFlow
