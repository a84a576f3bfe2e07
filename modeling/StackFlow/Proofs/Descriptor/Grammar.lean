import Mathlib.Data.List.TakeWhile
import StackFlow.Descriptor.Parser
import StackFlow.Descriptor.Printer

/-!
# Descriptors are read as they are written

A reader is exact for a writer if it succeeds on exactly the texts that begin with something written
from a value that it accepts, and then gives that value and what follows it. This says at once that
reading undoes writing whatever follows, that nothing else is accepted, and that no text is written
from two values. Exactness of a reader of types follows from that of the readers of its parts; for
lists of parameters it is what makes each parameter end where the next one begins.
-/

namespace StackFlow

/-- Says that a reader takes exactly what is written from the values that are accepted, whatever
follows. -/
structure Reader.Exact {α : Type} (read : Reader α) (accepted : α → Prop)
    (write : α → List Char) : Prop where
  read_iff : ∀ {chars value rest}, read chars = .ok (value, rest) ↔
    accepted value ∧ chars = write value ++ rest

section Readers

variable {α : Type} {read : Reader α} {accepted : α → Prop} {write : α → List Char}

theorem Reader.Exact.read_append (exact : read.Exact accepted write) {value : α}
    (isAccepted : accepted value) (rest : List Char) :
    read (write value ++ rest) = .ok (value, rest) :=
  exact.read_iff.2 ⟨isAccepted, rfl⟩

theorem Reader.parse_eq_ok_iff {text : String} {value : α} :
    read.parse text = .ok value ↔ read text.toList = .ok (value, []) := by
  unfold Reader.parse
  split
  · next failed => simp [failed]
  · next found whole => simp [whole]
  · next found c rest partly => simp [partly]

/-- A whole text is read exactly if it is written from the value. -/
theorem Reader.Exact.parse_eq_ok_iff (exact : read.Exact accepted write) {text : String}
    {value : α} :
    read.parse text = .ok value ↔ accepted value ∧ text = String.ofList (write value) := by
  rw [Reader.parse_eq_ok_iff, exact.read_iff, List.append_nil]
  refine and_congr_right fun _ => ?_
  constructor
  · intro same
    rw [← same, String.ofList_toList]
  · rintro rfl
    exact String.toList_ofList

theorem map_eq_ok_iff {β γ : Type} {outcome : Except DescriptorError β} {wrap : β → γ}
    {result : γ} :
    outcome.map wrap = .ok result ↔ ∃ value, outcome = .ok value ∧ wrap value = result := by
  cases outcome <;> simp [Except.map]

end Readers

/-- The longest front whose characters pass a test ends before the first that does not. -/
theorem takeWhile_dropWhile_eq_iff {test : Char → Bool} {chars front rest : List Char} {c : Char} :
    chars.takeWhile test = front ∧ chars.dropWhile test = c :: rest ↔
      chars = front ++ c :: rest ∧ (∀ x ∈ front, test x = true) ∧ test c = false := by
  constructor
  · rintro ⟨taken, dropped⟩
    refine ⟨?_, ?_, ?_⟩
    · rw [← taken, ← dropped, List.takeWhile_append_dropWhile]
    · intro x member
      rw [← taken] at member
      exact List.mem_takeWhile_imp member
    · have stopped := List.head_dropWhile_not test (l := chars) (by simp [dropped])
      simpa only [dropped, List.head_cons] using stopped
  · rintro ⟨rfl, passes, stops⟩
    rw [List.takeWhile_append_of_pos passes, List.dropWhile_append_of_pos passes]
    simp [stops]

namespace BaseType

theorem ofLetter?_eq_some_iff {c : Char} {type : BaseType} :
    ofLetter? c = some type ↔ c = type.letter := by
  constructor
  · intro found
    unfold ofLetter? at found
    split at found <;> cases found <;> rfl
  · rintro rfl
    cases type <;> rfl

theorem exact_read : Reader.Exact read (fun _ => True) renderChars := by
  constructor
  intro chars type rest
  cases chars with
  | nil => simp [read, renderChars]
  | cons c tail =>
      simp only [read, renderChars, List.singleton_append, List.cons.injEq, true_and]
      cases found : ofLetter? c with
      | none =>
          have noLetter : c ≠ type.letter := by
            rw [ne_eq, ← ofLetter?_eq_some_iff, found]
            simp
          simp [noLetter]
      | some other =>
          rw [ofLetter?_eq_some_iff] at found
          subst c
          have same : other.letter = type.letter ↔ other = type := by
            rw [← ofLetter?_eq_some_iff, ofLetter?_eq_some_iff.2 rfl, Option.some.injEq]
          simp [same]

end BaseType

theorem exact_readClassName : Reader.Exact readClassName ValidClassName renderClassName := by
  constructor
  intro chars name rest
  constructor
  · intro read
    unfold readClassName at read
    split at read
    · next tail =>
      dsimp only at read
      split at read
      · cases read
      · next c left dropped =>
        split at read
        · cases read
        · next nonempty =>
          cases read
          rcases takeWhile_dropWhile_eq_iff.1 ⟨rfl, dropped⟩ with ⟨whole, passes, stops⟩
          have isEnd : c = ';' := by simpa using stops
          subst c
          refine ⟨⟨?_, ?_⟩, ?_⟩
          · rw [ne_eq, ← String.toList_eq_nil_iff, String.toList_ofList, ← List.isEmpty_iff]
            exact nonempty
          · intro member
            rw [String.toList_ofList] at member
            simpa using passes ';' member
          · simpa only [renderClassName, String.toList_ofList, List.cons_append, List.append_assoc,
              List.nil_append, List.cons.injEq, true_and] using whole
    · cases read
  · rintro ⟨⟨nonempty, absent⟩, rfl⟩
    have passes : ∀ c ∈ name.toList, decide (c ≠ ';') = true := by
      intro c member
      rw [decide_eq_true_eq]
      rintro rfl
      exact absent member
    have ends := takeWhile_dropWhile_eq_iff.2
      ⟨rfl (a := name.toList ++ ';' :: rest), passes, by simp⟩
    simp only [renderClassName, List.cons_append, List.append_assoc, List.nil_append,
      readClassName, ends.1, ends.2, String.ofList_toList]
    rw [if_neg]
    rwa [List.isEmpty_iff, String.toList_eq_nil_iff]

namespace ElementType

/-- No element type begins with a bracket. -/
theorem renderChars_eq_cons (type : ElementType) :
    ∃ c tail, type.renderChars = c :: tail ∧ c ≠ '[' := by
  cases type with
  | base type => exact ⟨type.letter, [], rfl, by cases type <;> decide⟩
  | object className => exact ⟨'L', _, rfl, by decide⟩

theorem exact_read : Reader.Exact read WellFormed renderChars := by
  constructor
  intro chars type rest
  constructor
  · intro found
    unfold read at found
    split at found
    · rcases map_eq_ok_iff.1 found with ⟨⟨className, left⟩, nameRead, same⟩
      cases same
      exact exact_readClassName.read_iff.1 nameRead
    · rcases map_eq_ok_iff.1 found with ⟨⟨type, left⟩, typeRead, same⟩
      cases same
      exact BaseType.exact_read.read_iff.1 typeRead
  · rintro ⟨wellFormed, rfl⟩
    cases type with
    | base type =>
        have typeRead : BaseType.read (type.renderChars ++ rest) = .ok (type, rest) :=
          BaseType.exact_read.read_append trivial rest
        unfold read
        split
        · next begins => cases type <;> cases begins
        · exact map_eq_ok_iff.2 ⟨_, typeRead, rfl⟩
    | object className =>
        exact map_eq_ok_iff.2 ⟨_, exact_readClassName.read_append wellFormed rest, rfl⟩

end ElementType

namespace ReferenceType

/-- The brackets of an array end where its element type begins. -/
theorem brackets_iff (element : ElementType) {tail rest : List Char} {count : Nat} :
    (tail.takeWhile (· = '[')).length = count ∧
        tail.dropWhile (· = '[') = element.renderChars ++ rest ↔
      tail = List.replicate count '[' ++ (element.renderChars ++ rest) := by
  rcases element.renderChars_eq_cons with ⟨c, left, starts, noBracket⟩
  rw [starts, List.cons_append]
  constructor
  · rintro ⟨rfl, dropped⟩
    rcases takeWhile_dropWhile_eq_iff.1 ⟨rfl, dropped⟩ with ⟨whole, brackets, _⟩
    have same : tail.takeWhile (· = '[') =
        List.replicate (tail.takeWhile (· = '[')).length '[' :=
      List.eq_replicate_iff.2 ⟨rfl, fun c member => of_decide_eq_true (brackets c member)⟩
    rwa [← same]
  · intro whole
    have brackets : ∀ c ∈ List.replicate count '[', decide (c = '[') = true := by simp
    rcases takeWhile_dropWhile_eq_iff.2 ⟨whole, brackets, decide_eq_false noBracket⟩ with
      ⟨taken, dropped⟩
    exact ⟨by rw [taken, List.length_replicate], dropped⟩

theorem exact_read : Reader.Exact read WellFormed renderChars := by
  constructor
  intro chars type rest
  constructor
  · intro found
    unfold read at found
    split at found
    · cases found
    · rcases map_eq_ok_iff.1 found with ⟨⟨element, left⟩, elementRead, same⟩
      cases same
      rcases ElementType.exact_read.read_iff.1 elementRead with ⟨wellFormed, dropped⟩
      refine ⟨wellFormed, ?_⟩
      rw [renderChars, List.replicate_succ, List.cons_append, List.cons_append, List.append_assoc,
        ← (brackets_iff element).1 ⟨rfl, dropped⟩]
    · rcases map_eq_ok_iff.1 found with ⟨⟨className, left⟩, nameRead, same⟩
      cases same
      exact exact_readClassName.read_iff.1 nameRead
    · cases found
  · rintro ⟨wellFormed, rfl⟩
    cases type with
    | object className =>
        exact map_eq_ok_iff.2 ⟨_, exact_readClassName.read_append wellFormed rest, rfl⟩
    | array element extraDimensions =>
        have whole : List.replicate extraDimensions '[' ++ (element.renderChars ++ rest) = _ := rfl
        rcases (brackets_iff element).2 whole with ⟨count, dropped⟩
        have elementRead := ElementType.exact_read.read_append wellFormed rest
        rw [← dropped] at elementRead
        rw [renderChars, List.replicate_succ, List.cons_append, List.cons_append,
          List.append_assoc]
        exact map_eq_ok_iff.2 ⟨_, elementRead, by rw [count]⟩

/-- A reference type begins with a character that begins no base type. -/
theorem renderChars_eq_cons (type : ReferenceType) :
    ∃ c tail, type.renderChars = c :: tail ∧ (c = 'L' ∨ c = '[') := by
  cases type with
  | object className => exact ⟨'L', _, rfl, .inl rfl⟩
  | array element extraDimensions => exact ⟨'[', _, rfl, .inr rfl⟩

end ReferenceType

namespace FieldType

theorem exact_read : Reader.Exact read WellFormed renderChars := by
  constructor
  intro chars type rest
  constructor
  · intro found
    unfold read at found
    split at found
    · cases found
    · split at found
      · next letter =>
        cases found
        rw [BaseType.ofLetter?_eq_some_iff.1 letter]
        exact ⟨trivial, rfl⟩
      · split at found
        · rcases map_eq_ok_iff.1 found with ⟨⟨reference, left⟩, referenceRead, same⟩
          cases same
          exact ReferenceType.exact_read.read_iff.1 referenceRead
        · cases found
  · rintro ⟨wellFormed, rfl⟩
    cases type with
    | base type =>
        have letter : BaseType.ofLetter? type.letter = some type :=
          BaseType.ofLetter?_eq_some_iff.2 rfl
        simp only [renderChars, BaseType.renderChars, List.singleton_append, read, letter]
    | reference type =>
        have referenceRead := ReferenceType.exact_read.read_append wellFormed rest
        rcases type.renderChars_eq_cons with ⟨c, tail, starts, begins⟩
        have noLetter : BaseType.ofLetter? c = none := by
          rcases begins with rfl | rfl <;> rfl
        rw [renderChars]
        rw [starts, List.cons_append] at referenceRead ⊢
        simp only [read, noLetter, if_pos begins]
        exact map_eq_ok_iff.2 ⟨_, referenceRead, rfl⟩

/-- A field type does not begin like the end of a list of parameters or like the lack of a
result. -/
theorem renderChars_eq_cons (type : FieldType) :
    ∃ c tail, type.renderChars = c :: tail ∧ c ≠ ')' ∧ c ≠ 'V' := by
  cases type with
  | base type =>
      refine ⟨type.letter, [], rfl, ?_⟩
      cases type <;> decide
  | reference type =>
      rcases type.renderChars_eq_cons with ⟨c, tail, starts, begins⟩
      refine ⟨c, tail, starts, ?_⟩
      rcases begins with rfl | rfl <;> decide

end FieldType

/-- The characters of a list of parameters, with the parenthesis that closes it. -/
def renderParameters (types : List FieldType) : List Char :=
  types.flatMap FieldType.renderChars ++ [')']

/-- The characters of the result of a method. -/
def renderReturnType : Option FieldType → List Char
  | none => ['V']
  | some type => type.renderChars

theorem exact_readParameters : Reader.Exact readParameters
    (fun types => ∀ type ∈ types, type.WellFormed) renderParameters := by
  constructor
  intro chars types rest
  constructor
  · intro found
    fun_induction readParameters chars generalizing types rest with
    | case1 => cases found
    | case2 =>
        cases found
        simp [renderParameters]
    | case3 => cases found
    | case4 => cases found
    | case5 chars _ _ type left typeRead others last othersRead ih =>
        cases found
        rcases FieldType.exact_read.read_iff.1 typeRead with ⟨typeWellFormed, rfl⟩
        rcases ih othersRead with ⟨othersWellFormed, rfl⟩
        refine ⟨List.forall_mem_cons.2 ⟨typeWellFormed, othersWellFormed⟩, ?_⟩
        simp [renderParameters]
  · rintro ⟨wellFormed, rfl⟩
    induction types with
    | nil => simp [readParameters, renderParameters]
    | cons type types ih =>
        rcases List.forall_mem_cons.1 wellFormed with ⟨typeWellFormed, othersWellFormed⟩
        have typeRead := FieldType.exact_read.read_append typeWellFormed
          (renderParameters types ++ rest)
        have othersRead := ih othersWellFormed
        have whole : renderParameters (type :: types) ++ rest =
            type.renderChars ++ (renderParameters types ++ rest) := by simp [renderParameters]
        rcases type.renderChars_eq_cons with ⟨c, tail, starts, notClosed, _⟩
        rw [whole]
        rw [starts, List.cons_append] at typeRead ⊢
        rw [readParameters]
        · split
          · next failed =>
            rw [typeRead] at failed
            cases failed
          · next found =>
            rw [typeRead] at found
            cases found
            rw [othersRead]
        · exact List.cons_ne_nil _ _
        · intro left closed
          exact notClosed (List.cons.inj closed).1

theorem exact_readReturnType : Reader.Exact readReturnType
    (fun result => ∀ type ∈ result, type.WellFormed) renderReturnType := by
  constructor
  intro chars result rest
  constructor
  · intro found
    unfold readReturnType at found
    split at found
    · cases found
      exact ⟨fun _ isResult => (nomatch isResult), rfl⟩
    · rcases map_eq_ok_iff.1 found with ⟨⟨type, left⟩, typeRead, same⟩
      cases same
      rcases FieldType.exact_read.read_iff.1 typeRead with ⟨wellFormed, whole⟩
      refine ⟨?_, whole⟩
      intro other isResult
      cases isResult
      exact wellFormed
  · rintro ⟨wellFormed, rfl⟩
    cases result with
    | none => rfl
    | some type =>
        have typeRead := FieldType.exact_read.read_append (wellFormed type rfl) rest
        rcases type.renderChars_eq_cons with ⟨c, tail, starts, _, notVoid⟩
        unfold readReturnType
        split
        · next begins =>
          rw [renderReturnType, starts, List.cons_append] at begins
          exact absurd (List.cons.inj begins).1 notVoid
        · exact map_eq_ok_iff.2 ⟨_, typeRead, rfl⟩

namespace MethodDescriptor

theorem renderChars_append (descriptor : MethodDescriptor) (rest : List Char) :
    descriptor.renderChars ++ rest = '(' ::
      (renderParameters descriptor.parameters ++
        (renderReturnType descriptor.returnType ++ rest)) := by
  cases result : descriptor.returnType <;>
    simp [renderChars, renderParameters, renderReturnType, result]

theorem exact_read : Reader.Exact read WellFormed renderChars := by
  constructor
  intro chars descriptor rest
  rw [renderChars_append]
  constructor
  · intro found
    unfold read at found
    split at found
    · split at found
      · cases found
      · next parametersRead =>
        rcases map_eq_ok_iff.1 found with ⟨⟨returnType, left⟩, returnRead, same⟩
        cases same
        rcases exact_readParameters.read_iff.1 parametersRead with ⟨parametersWellFormed, rfl⟩
        rcases exact_readReturnType.read_iff.1 returnRead with ⟨returnWellFormed, rfl⟩
        exact ⟨⟨parametersWellFormed, returnWellFormed⟩, rfl⟩
    · cases found
  · rintro ⟨⟨parametersWellFormed, returnWellFormed⟩, rfl⟩
    have returnRead := exact_readReturnType.read_append returnWellFormed rest
    have parametersRead := exact_readParameters.read_append parametersWellFormed
      (renderReturnType descriptor.returnType ++ rest)
    simp only [read, parametersRead]
    exact map_eq_ok_iff.2 ⟨_, returnRead, rfl⟩

end MethodDescriptor

/-- Descriptors are read exactly as they are written. A text is a field type exactly if it is the
descriptor of that type, and the type can be written; likewise for methods. A type at the front of a
text is read whatever follows it, and what follows is left. -/
theorem descriptors_read_iff_rendered :
    (∀ text (type : FieldType), Reader.parse FieldType.read text = .ok type ↔
      type.WellFormed ∧ text = type.render) ∧
    (∀ text (descriptor : MethodDescriptor),
      Reader.parse MethodDescriptor.read text = .ok descriptor ↔
        descriptor.WellFormed ∧ text = descriptor.render) ∧
    (∀ (type : FieldType) rest, type.WellFormed →
      FieldType.read (type.render.toList ++ rest) = .ok (type, rest)) ∧
    ∀ (descriptor : MethodDescriptor) rest, descriptor.WellFormed →
      MethodDescriptor.read (descriptor.render.toList ++ rest) = .ok (descriptor, rest) := by
  refine ⟨?_, ?_, ?_, ?_⟩
  · intro text type
    exact FieldType.exact_read.parse_eq_ok_iff
  · intro text descriptor
    exact MethodDescriptor.exact_read.parse_eq_ok_iff
  · intro type rest wellFormed
    rw [FieldType.render, String.toList_ofList]
    exact FieldType.exact_read.read_append wellFormed rest
  · intro descriptor rest wellFormed
    rw [MethodDescriptor.render, String.toList_ofList]
    exact MethodDescriptor.exact_read.read_append wellFormed rest

/-- A type whose class name looks like other parts of descriptors. -/
def oddlyNamed : FieldType := .reference (.array (.object "a)[(V") 1)

theorem descriptors_read_iff_rendered_oddlyNamed :
    oddlyNamed.WellFormed ∧
      FieldType.read ("[[La)[(V;".toList ++ "I)".toList) = .ok (oddlyNamed, "I)".toList) ∧
      Reader.parse MethodDescriptor.read "([[La)[(V;I)V" = .ok ⟨[oddlyNamed, .base .int], none⟩ := by
  have wellFormed : oddlyNamed.WellFormed := ⟨by decide, by decide⟩
  rcases descriptors_read_iff_rendered with ⟨_, methods, fieldPrefix, _⟩
  refine ⟨wellFormed, fieldPrefix oddlyNamed _ wellFormed, (methods _ _).2 ⟨⟨?_, ?_⟩, rfl⟩⟩
  · exact List.forall_mem_cons.2 ⟨wellFormed, by simp [FieldType.WellFormed]⟩
  · exact fun _ isResult => nomatch isResult

end StackFlow
