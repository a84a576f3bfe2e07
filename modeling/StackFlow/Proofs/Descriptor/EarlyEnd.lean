import StackFlow.Proofs.Descriptor.Grammar

/-!
# Texts that end too early

An error of a reader says whether the text ended too early or has a character that cannot stand
where it does. Either is a statement about texts that the reader has not seen: a text that ended too
early can be completed, and a bad character stays bad whatever follows it. The readers of types are
right about both, so their errors tell the beginnings of descriptors from all other texts. Those of
method descriptors and of class names ask for their first character before they ask whether there is
one, and so they find the empty text bad.
-/

namespace StackFlow

namespace Reader

variable {α β : Type}

/-- Says that an error is right about the texts that begin like the one that was read. -/
structure Justified (read : Reader α) (chars : List Char) (error : DescriptorError) : Prop where
  completed : error.unexpectedEnd = true → ∃ more value, read (chars ++ more) = .ok (value, [])
  stays : error.unexpectedEnd = false → ∀ more, read (chars ++ more) = .error error

/-- Reads a value and makes another from it. -/
def map (wrap : α → β) (read : Reader α) : Reader β := fun chars =>
  (read chars).map fun (value, rest) => (wrap value, rest)

/-- Reads a value and then another. -/
def both (first : Reader α) (second : Reader β) : Reader (α × β) := fun chars =>
  match first chars with
  | .error error => .error error
  | .ok (value, rest) => (second rest).map fun (other, rest) => ((value, other), rest)

/-- Says that a reader reads a whole text. -/
def Accepts (read : Reader α) (text : String) : Prop := ∃ value, read.parse text = .ok value

/-- Says that a reader does not read a whole text, and whether it says that the text ended too
early. -/
def Fails (read : Reader α) (text : String) (early : Bool) : Prop :=
  ∃ error, read.parse text = .error error ∧ error.unexpectedEnd = early

/-- Says that a reader tells whether a text that it does not read is the beginning of one that it
reads. -/
structure TellsEnd (read : Reader α) (text : String) : Prop where
  early_iff : read.Fails text true ↔ ∃ more, more ≠ "" ∧ read.Accepts (text ++ more)
  bad_iff : read.Fails text false ↔ ¬read.Accepts text ∧ ¬∃ more, read.Accepts (text ++ more)

section Errors

variable {read : Reader α} {inner : Reader β} {chars rest text : List Char}
  {error : DescriptorError} {accepted : α → Prop} {write : α → List Char}

theorem Justified.of_early (more : List Char) {value : α} (early : error.unexpectedEnd = true)
    (completed : read (chars ++ more) = .ok (value, [])) : read.Justified chars error where
  completed _ := ⟨more, value, completed⟩
  stays bad := by simp [early] at bad

theorem Justified.of_bad (bad : error.unexpectedEnd = false)
    (stays : ∀ more, read (chars ++ more) = .error error) : read.Justified chars error where
  completed early := by simp [early] at bad
  stays _ := stays

/-- An error is right about a text if it is right about the part of it that is still to be read. -/
theorem Justified.map (justified : inner.Justified rest error) (wrap : β → α)
    (same : ∀ more, read (chars ++ more) = inner.map wrap (rest ++ more)) :
    read.Justified chars error := by
  constructor
  · intro early
    rcases justified.completed early with ⟨more, value, completed⟩
    refine ⟨more, wrap value, ?_⟩
    rw [same, Reader.map, completed]
    rfl
  · intro bad more
    rw [same, Reader.map, justified.stays bad]
    rfl

theorem Exact.read_more (exact : read.Exact accepted write) {value : α}
    (found : read chars = .ok (value, rest)) (more : List Char) :
    read (chars ++ more) = .ok (value, rest ++ more) := by
  rcases exact.read_iff.1 found with ⟨isAccepted, rfl⟩
  rw [List.append_assoc]
  exact exact.read_append isAccepted _

theorem both_eq_ok {value : α} {other : β} {left : List Char}
    (found : read chars = .ok (value, rest)) (otherFound : inner rest = .ok (other, left)) :
    read.both inner chars = .ok ((value, other), left) := by
  simp only [both, found, otherFound]
  rfl

theorem Justified.both_left (justified : read.Justified chars error)
    (exact : read.Exact accepted write) {other : β} (ends : inner text = .ok (other, [])) :
    (read.both inner).Justified chars error := by
  constructor
  · intro early
    rcases justified.completed early with ⟨more, value, completed⟩
    have followed := exact.read_more completed text
    rw [List.append_assoc] at followed
    exact ⟨more ++ text, (value, other), both_eq_ok followed ends⟩
  · intro bad more
    simp only [both, justified.stays bad]

theorem Justified.both_right (justified : inner.Justified rest error)
    (exact : read.Exact accepted write) {value : α} (found : read chars = .ok (value, rest)) :
    (read.both inner).Justified chars error := by
  constructor
  · intro early
    rcases justified.completed early with ⟨more, other, completed⟩
    exact ⟨more, (value, other), both_eq_ok (exact.read_more found more) completed⟩
  · intro bad more
    simp only [both, exact.read_more found, justified.stays bad]
    rfl

/-! ### Whole texts -/

theorem accepts_append_iff {text more : String} :
    read.Accepts (text ++ more) ↔ ∃ value, read (text.toList ++ more.toList) = .ok (value, []) := by
  simp only [Accepts, parse_eq_ok_iff, String.toList_append]

theorem Exact.accepts_iff (exact : read.Exact accepted write) {text : String} :
    read.Accepts text ↔ ∃ value, accepted value ∧ text = String.ofList (write value) := by
  simp only [Accepts, exact.parse_eq_ok_iff]

theorem not_accepts_of_never {text : String} (never : ∀ more, ¬read.Accepts (text ++ more)) :
    ¬read.Accepts text := by
  simpa using never ""

/-- A text whose front is read is the beginning of nothing longer. -/
theorem Exact.not_accepts_append (exact : read.Exact accepted write) {text more : String}
    {value : α} (found : read text.toList = .ok (value, rest)) (goesOn : rest ≠ [] ∨ more ≠ "") :
    ¬read.Accepts (text ++ more) := by
  rw [accepts_append_iff, exact.read_more found]
  rintro ⟨other, whole⟩
  simp only [Except.ok.injEq, Prod.mk.injEq, List.append_eq_nil_iff,
    String.toList_eq_nil_iff] at whole
  rcases goesOn with isLeft | isMore
  · exact isLeft whole.2.1
  · exact isMore whole.2.2

/-- A reader whose errors are right tells what it cannot read from what it could not read yet. -/
theorem Exact.tellsEnd (exact : read.Exact accepted write) {text : String}
    (justified : ∀ {error}, read text.toList = .error error →
      read.Justified text.toList error) : read.TellsEnd text := by
  cases outcome : read text.toList with
  | error error =>
      have fails (early : Bool) : read.Fails text early ↔ error.unexpectedEnd = early := by
        simp [Fails, parse, outcome]
      cases flag : error.unexpectedEnd with
      | false =>
          have never (more : String) : ¬read.Accepts (text ++ more) := by
            rw [accepts_append_iff, (justified outcome).stays flag]
            simp
          constructor <;> simp [fails, flag, never, not_accepts_of_never never]
      | true =>
          rcases (justified outcome).completed flag with ⟨more, value, whole⟩
          have longer : read.Accepts (text ++ String.ofList more) :=
            accepts_append_iff.2 ⟨value, by simpa using whole⟩
          have isMore : String.ofList more ≠ "" := by
            rw [ne_eq, ← String.toList_eq_nil_iff, String.toList_ofList]
            rintro rfl
            rw [List.append_nil, outcome] at whole
            cases whole
          constructor
          · simpa [fails, flag] using ⟨_, isMore, longer⟩
          · simpa [fails, flag] using fun _ => ⟨_, longer⟩
  | ok found =>
      rcases found with ⟨value, rest⟩
      cases rest with
      | nil =>
          have isAccepted : read.Accepts text := ⟨value, Reader.parse_eq_ok_iff.2 outcome⟩
          have passes (early : Bool) : ¬read.Fails text early := by
            simp [Fails, parse, outcome]
          have longest (more : String) (isMore : more ≠ "") : ¬read.Accepts (text ++ more) :=
            exact.not_accepts_append outcome (.inr isMore)
          constructor
          · simpa [passes] using longest
          · simp [passes, isAccepted]
      | cons c rest =>
          -- A descriptor ends before what is left over, so no longer text is one.
          have fails (early : Bool) : read.Fails text early ↔ early = false := by
            simp [Fails, parse, outcome, DescriptorError.unexpectedEnd, eq_comm]
          have never (more : String) : ¬read.Accepts (text ++ more) :=
            exact.not_accepts_append outcome (.inl (List.cons_ne_nil c rest))
          constructor <;> simp [fails, never, not_accepts_of_never never]

/-- A reader that is wrong about the empty text alone. -/
theorem Exact.fails_early_iff_of_ne_empty (exact : read.Exact accepted write)
    (empty : read [] = .error error) (bad : error.unexpectedEnd = false)
    (justified : ∀ {chars error}, chars ≠ [] → read chars = .error error →
      read.Justified chars error) (text : String) :
    read.Fails text true ↔ text ≠ "" ∧ ∃ more, more ≠ "" ∧ read.Accepts (text ++ more) := by
  by_cases isEmpty : text = ""
  · simp [isEmpty, Fails, parse, empty, bad]
  · have nonempty : text.toList ≠ [] := by rwa [ne_eq, String.toList_eq_nil_iff]
    rw [(exact.tellsEnd (justified nonempty)).early_iff]
    simp [isEmpty]

end Errors

end Reader

open Reader

theorem map_eq_error_iff {β γ : Type} {outcome : Except DescriptorError β} {wrap : β → γ}
    {error : DescriptorError} : outcome.map wrap = .error error ↔ outcome = .error error := by
  cases outcome <;> simp [Except.map]

/-- A text that begins with another character does so however it goes on. -/
theorem append_ne_cons {chars : List Char} {c : Char} (nonempty : chars ≠ [])
    (other : ∀ tail, chars = c :: tail → False) (more tail : List Char) :
    chars ++ more = c :: tail → False := by
  cases chars with
  | nil => exact absurd rfl nonempty
  | cons first left =>
      rintro same
      cases same
      exact other left rfl

/-- The front of a text whose characters pass a test ends where it does however the text goes on
after the first that does not. -/
theorem takeWhile_dropWhile_append {test : Char → Bool} {chars rest : List Char} {c : Char}
    (dropped : chars.dropWhile test = c :: rest) (more : List Char) :
    (chars ++ more).takeWhile test = chars.takeWhile test ∧
      (chars ++ more).dropWhile test = c :: (rest ++ more) := by
  rcases takeWhile_dropWhile_eq_iff.1 ⟨rfl, dropped⟩ with ⟨whole, passes, stops⟩
  refine takeWhile_dropWhile_eq_iff.2 ⟨?_, passes, stops⟩
  simpa using congrArg (· ++ more) whole

section Readers

variable {chars : List Char} {error : DescriptorError}

theorem BaseType.justified_read (failed : BaseType.read chars = .error error) :
    Justified BaseType.read chars error := by
  cases chars with
  | nil =>
      cases failed
      exact .of_early ['I'] rfl rfl
  | cons c tail =>
      simp only [BaseType.read] at failed
      split at failed
      · cases failed
      · next noLetter =>
        cases failed
        refine .of_bad rfl fun more => ?_
        simp [BaseType.read, noLetter]

/-- A name without its end is the beginning of a longer name. -/
theorem readClassName_unended {tail : List Char} (unended : tail.dropWhile (· ≠ ';') = []) :
    readClassName ('L' :: tail ++ ['a', ';']) = .ok (String.ofList (tail ++ ['a']), []) := by
  have valid : ValidClassName (String.ofList (tail ++ ['a'])) := by
    constructor
    · simp [← String.toList_eq_nil_iff]
    · intro member
      have inTail : ';' ∈ tail := by simpa using member
      simpa using List.dropWhile_eq_nil_iff.1 unended ';' inTail
  simpa [renderClassName] using exact_readClassName.read_append valid []

theorem justified_readClassName (nonempty : chars ≠ [])
    (failed : readClassName chars = .error error) : Justified readClassName chars error := by
  unfold readClassName at failed
  split at failed
  · next tail =>
    dsimp only at failed
    split at failed
    · next unended =>
      cases failed
      exact .of_early _ rfl (readClassName_unended unended)
    · next c left dropped =>
      split at failed
      · next isEmpty =>
        cases failed
        refine .of_bad rfl fun more => ?_
        have ends := takeWhile_dropWhile_append dropped more
        simp only [List.cons_append, readClassName, ends.1, ends.2, isEmpty, if_true]
      · cases failed
  · next noObject =>
    -- The text is not empty, so its first character is the bad one.
    cases failed
    refine .of_bad rfl fun more => ?_
    rw [readClassName]
    exact append_ne_cons nonempty noObject more

theorem ElementType.justified_read (failed : ElementType.read chars = .error error) :
    Justified ElementType.read chars error := by
  unfold ElementType.read at failed
  split at failed
  · next tail =>
    have nameFailed := map_eq_error_iff.1 failed
    exact (justified_readClassName (by simp) nameFailed).map .object fun _ => rfl
  · next noObject =>
    have typeFailed := map_eq_error_iff.1 failed
    -- The first character chooses the reader, so that of base types answers for what follows only
    -- if there is one.
    rcases eq_or_ne chars [] with rfl | nonempty
    · cases typeFailed
      exact .of_early ['I'] rfl rfl
    · refine (BaseType.justified_read typeFailed).map .base fun more => ?_
      rw [ElementType.read]
      · rfl
      · exact append_ne_cons nonempty noObject more

/-- Brackets alone are the beginning of an array. -/
theorem ReferenceType.read_brackets {tail : List Char}
    (allBrackets : tail.dropWhile (· = '[') = []) :
    ReferenceType.read ('[' :: tail ++ ['I']) = .ok (.array (.base .int) tail.length, []) := by
  have brackets : tail = List.replicate tail.length '[' := by
    refine List.eq_replicate_iff.2 ⟨rfl, fun c member => ?_⟩
    simpa using List.dropWhile_eq_nil_iff.1 allBrackets c member
  have wellFormed : (array (.base .int) tail.length).WellFormed := trivial
  have completed := exact_read.read_append wellFormed []
  rw [renderChars, List.replicate_succ, ← brackets, List.append_nil] at completed
  exact completed

theorem ReferenceType.justified_read (failed : ReferenceType.read chars = .error error) :
    Justified ReferenceType.read chars error := by
  unfold ReferenceType.read at failed
  split at failed
  · cases failed
    exact .of_early ['[', 'I'] rfl rfl
  · next tail =>
    have elementFailed := map_eq_error_iff.1 failed
    cases dropped : tail.dropWhile (· = '[') with
    | nil =>
        rw [dropped] at elementFailed
        cases elementFailed
        exact .of_early _ rfl (read_brackets dropped)
    | cons c rest =>
        rw [dropped] at elementFailed
        refine (ElementType.justified_read elementFailed).map
          (.array · (tail.takeWhile (· = '[')).length) fun more => ?_
        have ends := takeWhile_dropWhile_append dropped more
        simp only [List.cons_append, ReferenceType.read, ends.1, ends.2, Reader.map]
  · next tail =>
    have nameFailed := map_eq_error_iff.1 failed
    exact (justified_readClassName (by simp) nameFailed).map .object fun _ => rfl
  · next c tail noArray noObject =>
    cases failed
    refine .of_bad rfl fun more => ?_
    rw [List.cons_append, ReferenceType.read]
    · rintro rfl
      exact noArray rfl
    · rintro rfl
      exact noObject rfl

theorem FieldType.justified_read (failed : FieldType.read chars = .error error) :
    Justified FieldType.read chars error := by
  cases chars with
  | nil =>
      cases failed
      exact .of_early ['I'] rfl rfl
  | cons c tail =>
      simp only [FieldType.read] at failed
      split at failed
      · cases failed
      · next noLetter =>
        split at failed
        · next begins =>
          have referenceFailed := map_eq_error_iff.1 failed
          refine (ReferenceType.justified_read referenceFailed).map .reference fun more => ?_
          simp only [List.cons_append, FieldType.read, noLetter, if_pos begins, Reader.map]
        · next noReference =>
          cases failed
          refine .of_bad rfl fun more => ?_
          simp only [List.cons_append, FieldType.read, noLetter, if_neg noReference]

/-- A list of parameters that does not end at once begins with a parameter. -/
theorem readParameters_eq_both (nonempty : chars ≠ [])
    (notClosed : ∀ tail, chars = ')' :: tail → False) (more : List Char) :
    readParameters (chars ++ more) =
      (both FieldType.read readParameters).map (fun found => found.1 :: found.2)
        (chars ++ more) := by
  rw [readParameters, Reader.map, both]
  · split
    · next failed => simp [failed, Except.map]
    · next found =>
      simp only [found]
      split <;> next outcome => simp [outcome, Except.map]
  · simp [nonempty]
  · exact append_ne_cons nonempty notClosed more

theorem justified_readParameters (failed : readParameters chars = .error error) :
    Justified readParameters chars error := by
  have closed : readParameters [')'] = .ok ([], []) := by simp [readParameters]
  -- A failure lies in the first parameter, which then needs a parenthesis after its completion, or
  -- in the others, which begin where the first one ends however the text goes on.
  fun_induction readParameters chars with
  | case1 =>
      cases failed
      exact .of_early _ rfl closed
  | case2 => cases failed
  | case3 chars nonempty notClosed cause typeFailed =>
      cases failed
      exact ((FieldType.justified_read typeFailed).both_left FieldType.exact_read closed).map _
        (readParameters_eq_both nonempty notClosed)
  | case4 chars nonempty notClosed type rest typeRead cause othersFailed ih =>
      cases failed
      exact ((ih othersFailed).both_right FieldType.exact_read typeRead).map _
        (readParameters_eq_both nonempty notClosed)
  | case5 => cases failed

theorem justified_readReturnType (failed : readReturnType chars = .error error) :
    Justified readReturnType chars error := by
  unfold readReturnType at failed
  split at failed
  · cases failed
  · next notVoid =>
    have typeFailed := map_eq_error_iff.1 failed
    rcases eq_or_ne chars [] with rfl | nonempty
    · cases typeFailed
      exact .of_early ['V'] rfl rfl
    · refine (FieldType.justified_read typeFailed).map some fun more => ?_
      rw [readReturnType]
      · rfl
      · exact append_ne_cons nonempty notVoid more

theorem MethodDescriptor.read_eq_both (tail : List Char) :
    MethodDescriptor.read ('(' :: tail) =
      (both readParameters readReturnType).map (fun found => ⟨found.1, found.2⟩) tail := by
  rw [MethodDescriptor.read, Reader.map, both]
  cases readParameters tail with
  | error error => rfl
  | ok found => cases outcome : readReturnType found.2 <;> simp [outcome, Except.map]

theorem MethodDescriptor.justified_read (nonempty : chars ≠ [])
    (failed : MethodDescriptor.read chars = .error error) :
    Justified MethodDescriptor.read chars error := by
  unfold MethodDescriptor.read at failed
  split at failed
  · next tail =>
    have same (more : List Char) := read_eq_both (tail ++ more)
    split at failed
    · next parametersFailed =>
      cases failed
      have void : readReturnType ['V'] = .ok (none, []) := rfl
      exact ((justified_readParameters parametersFailed).both_left exact_readParameters void).map _
        same
    · next parametersRead =>
      have returnFailed := map_eq_error_iff.1 failed
      exact ((justified_readReturnType returnFailed).both_right exact_readParameters
        parametersRead).map _ same
  · next notMethod =>
    cases failed
    refine .of_bad rfl fun more => ?_
    rw [MethodDescriptor.read]
    exact append_ne_cons nonempty notMethod more

end Readers

/-- The readers of types tell what ends too early. A text fails to be read because of its end
exactly if it is a proper prefix of a text that is read, and because of a bad character exactly if
it is no prefix of one. The texts that are read are the descriptors of types. -/
theorem typeReaders_tell_earlyEnd (text : String) :
    (TellsEnd BaseType.read text ∧ TellsEnd ReferenceType.read text ∧
      TellsEnd FieldType.read text) ∧
    (Accepts BaseType.read text ↔ ∃ type : BaseType, text = String.ofList type.renderChars) ∧
    (Accepts ReferenceType.read text ↔
      ∃ type : ReferenceType, type.WellFormed ∧ text = String.ofList type.renderChars) ∧
    (Accepts FieldType.read text ↔ ∃ type : FieldType, type.WellFormed ∧ text = type.render) := by
  refine ⟨⟨?_, ?_, ?_⟩, ?_, ?_, ?_⟩
  · exact BaseType.exact_read.tellsEnd BaseType.justified_read
  · exact ReferenceType.exact_read.tellsEnd ReferenceType.justified_read
  · exact FieldType.exact_read.tellsEnd FieldType.justified_read
  · simpa using BaseType.exact_read.accepts_iff
  · exact ReferenceType.exact_read.accepts_iff
  · exact FieldType.exact_read.accepts_iff

/-- The readers of method descriptors and class names tell what ends too early, but for the empty
text. Any other text fails to be read because of its end exactly if it is a proper prefix of a text
that is read. The texts that are read are the descriptors of methods and of classes. -/
theorem methods_classNames_tell_earlyEnd (text : String) :
    (Fails MethodDescriptor.read text true ↔
      text ≠ "" ∧ ∃ more, more ≠ "" ∧ Accepts MethodDescriptor.read (text ++ more)) ∧
    (Fails readClassName text true ↔
      text ≠ "" ∧ ∃ more, more ≠ "" ∧ Accepts readClassName (text ++ more)) ∧
    (Accepts MethodDescriptor.read text ↔
      ∃ descriptor : MethodDescriptor, descriptor.WellFormed ∧ text = descriptor.render) ∧
    (Accepts readClassName text ↔
      ∃ name, ValidClassName name ∧ text = String.ofList (renderClassName name)) := by
  refine ⟨?_, ?_, ?_, ?_⟩
  · exact MethodDescriptor.exact_read.fails_early_iff_of_ne_empty rfl rfl
      MethodDescriptor.justified_read text
  · exact exact_readClassName.fails_early_iff_of_ne_empty rfl rfl justified_readClassName text
  · exact MethodDescriptor.exact_read.accepts_iff
  · exact exact_readClassName.accepts_iff

/-- The empty text is a proper prefix of descriptors, but it does not fail because of its end. -/
theorem emptyText_earlyEnd_untold :
    ¬(Fails MethodDescriptor.read "" true ↔
      ∃ more, more ≠ "" ∧ Accepts MethodDescriptor.read ("" ++ more)) ∧
    ¬(Fails readClassName "" true ↔
      ∃ more, more ≠ "" ∧ Accepts readClassName ("" ++ more)) := by
  constructor
  · intro same
    rcases same.2 ⟨"()V", by decide, ⟨[], none⟩, by cbv⟩ with ⟨error, failed, early⟩
    cases failed
    cases early
  · intro same
    rcases same.2 ⟨"La;", by decide, "a", by cbv⟩ with ⟨error, failed, early⟩
    cases failed
    cases early

end StackFlow
