import Mathlib.Data.List.Forall2
import Mathlib.Data.List.Induction
import StackFlow.Effect.Interpretation
import StackFlow.Proofs.Stack.Signature

/-!
# What interpretation can tell apart

An effect looks at the widths of entries and at their values, and it passes values on without
comparing them. So a relation between entries that respects widths carries over from the states
before an instruction to the states after it, and neither of two related states underflows alone.
Taken for entries of the same type and size, this says that layouts do not depend on values and
names. Taken for entries that signatures show alike, it says that states with the same signature
can stand for each other. Taken for equality between entries as large as their types say, it says
that entries keep that size.
-/

namespace StackFlow

/-- Outcomes that are alike: the same failure, or two related results. -/
inductive Alike {α β : Type} (related : α → β → Prop) :
    Except StackError α → Except StackError β → Prop where
  | error (cause : StackError) : Alike related (.error cause) (.error cause)
  | ok {left : α} {right : β} : related left right → Alike related (.ok left) (.ok right)

theorem Alike.bind {α β γ δ : Type} {related : α → β → Prop} {after : γ → δ → Prop}
    {left : Except StackError α} {right : Except StackError β}
    {leftNext : α → Except StackError γ} {rightNext : β → Except StackError δ}
    (alike : Alike related left right)
    (next : ∀ leftResult rightResult, related leftResult rightResult →
      Alike after (leftNext leftResult) (rightNext rightResult)) :
    Alike after (left >>= leftNext) (right >>= rightNext) := by
  cases alike with
  | error cause => exact .error cause
  | ok results => exact next _ _ results

theorem Alike.mono {α β : Type} {related looser : α → β → Prop} {left : Except StackError α}
    {right : Except StackError β} (alike : Alike related left right)
    (implies : ∀ leftResult rightResult, related leftResult rightResult →
      looser leftResult rightResult) : Alike looser left right := by
  cases alike with
  | error cause => exact .error cause
  | ok results => exact .ok (implies _ _ results)

theorem Alike.exists_ok {α β : Type} {related : α → β → Prop} {outcome : Except StackError β}
    {left : α} (alike : Alike related (.ok left) outcome) :
    ∃ right, outcome = .ok right ∧ related left right := by
  cases alike with
  | ok results => exact ⟨_, rfl, results⟩

theorem Alike.eq_error {α β : Type} {related : α → β → Prop} {outcome : Except StackError β}
    {cause : StackError} (alike : Alike related (.error cause) outcome) :
    outcome = .error cause := by
  cases alike with
  | error => rfl

/-- A relation between entries that effects respect. Entries that an effect makes are related as
soon as their values are equal, or in any case if the relation does not look at values. -/
structure Entry.Congruence (values : Prop) (related : Entry → Entry → Prop) : Prop where
  width_eq {left right : Entry} : related left right → width left = width right
  value_eq {left right : Entry} : related left right → values → left.value = right.value
  make (producer : Option Nat) (type : ValueType) {left right : String} :
    (values → left = right) → related (.make producer type left) (.make producer type right)

namespace StackState

@[elab_as_elim]
theorem push_induction {motive : StackState → Prop} (empty : motive .empty)
    (push : ∀ below top, motive below → motive (below.push top)) (state : StackState) :
    motive state := by
  rw [← ofList_toList state]
  induction state.toList using List.reverseRecOn with
  | nil => exact empty
  | append_singleton entries top ih =>
      have pushed : ofList (entries ++ [top]) = (ofList entries).push top :=
        eq_of_toList_eq (by simp)
      rw [pushed]
      exact push _ top ih

theorem clear_eq (state : StackState) : state.clear = .empty := eq_of_toList_eq rfl

theorem pushMany_around (state : StackState) (top : Entry) (below : List Entry) :
    state.pushMany (top :: below ++ [top]) = ((state.push top).pushMany below).push top := by
  simp [pushMany]

/-- States that are related entry by entry. -/
inductive Related (related : Entry → Entry → Prop) : StackState → StackState → Prop where
  | empty : Related related .empty .empty
  | push {left right : StackState} {leftTop rightTop : Entry} :
      Related related left right → related leftTop rightTop →
        Related related (left.push leftTop) (right.push rightTop)

namespace Related

variable {related : Entry → Entry → Prop} {left right : StackState}

theorem map_eq {γ : Type} (view : Entry → γ)
    (respects : ∀ leftEntry rightEntry, related leftEntry rightEntry →
      view leftEntry = view rightEntry) (states : Related related left right) :
    left.toList.map view = right.toList.map view := by
  induction states with
  | empty => rfl
  | push _ tops ih => simp [ih, respects _ _ tops]

theorem of_map_eq {γ : Type} (view : Entry → γ)
    (refines : ∀ leftEntry ∈ left.toList, ∀ rightEntry ∈ right.toList,
      view leftEntry = view rightEntry → related leftEntry rightEntry)
    (same : left.toList.map view = right.toList.map view) : Related related left right := by
  induction left using push_induction generalizing right with
  | empty =>
      have nothing : right.toList = [] := by simpa using same.symm
      have isEmpty : right = .empty := eq_of_toList_eq nothing
      rw [isEmpty]
      exact .empty
  | push leftBelow leftTop ih =>
      induction right using push_induction with
      | empty => simp at same
      | push rightBelow rightTop _ =>
          simp only [toList_push, List.map_append, List.map_cons, List.map_nil] at same
          obtain ⟨sameBelow, sameTop⟩ := List.append_inj' same rfl
          refine .push (ih ?_ sameBelow) (refines _ (by simp) _ (by simp) (by simpa using sameTop))
          intro leftEntry leftMember rightEntry rightMember
          exact refines _ (by simp [leftMember]) _ (by simp [rightMember])

theorem pop (states : Related related left right) :
    Alike (fun leftPopped rightPopped => related leftPopped.1 rightPopped.1 ∧
      Related related leftPopped.2 rightPopped.2) left.pop right.pop := by
  cases states with
  | empty => exact .error .emptyStack
  | push below tops => exact .ok ⟨tops, below⟩

theorem popOnto {leftTaken rightTaken : List Entry} (states : Related related left right)
    (taken : List.Forall₂ related leftTaken rightTaken) (count : Nat) :
    Alike (fun leftPopped rightPopped => List.Forall₂ related leftPopped.1 rightPopped.1 ∧
      Related related leftPopped.2 rightPopped.2)
      (left.popOnto leftTaken count) (right.popOnto rightTaken count) := by
  induction count generalizing left right leftTaken rightTaken with
  | zero => exact .ok ⟨taken, states⟩
  | succ count ih =>
      cases states with
      | empty => exact .error .emptyStack
      | push below tops => exact ih below (.cons tops taken)

theorem popMany (states : Related related left right) (count : Nat) :
    Alike (fun leftPopped rightPopped => List.Forall₂ related leftPopped.1 rightPopped.1 ∧
      Related related leftPopped.2 rightPopped.2) (left.popMany count) (right.popMany count) :=
  states.popOnto .nil count

theorem pushMany {leftEntries rightEntries : List Entry} (states : Related related left right)
    (entries : List.Forall₂ related leftEntries rightEntries) :
    Related related (left.pushMany leftEntries) (right.pushMany rightEntries) := by
  induction entries generalizing left right with
  | nil => exact states
  | cons first _ ih => exact ih (states.push first)

end Related

end StackState

namespace Effect

/-- Effects that do the same to the layout of a stack, and to its values if these count. -/
inductive Similar (values : Prop) : Effect → Effect → Prop where
  | drop (count : Nat) : Similar values (.replace count none) (.replace count none)
  | replace (count : Nat) (type : ValueType) {left right : String} : (values → left = right) →
      Similar values (.replace count (some (type, left))) (.replace count (some (type, right)))
  | combine (count : Nat) (type : ValueType) {left right : List String → String} :
      (values → left = right) →
        Similar values (.combine count type left) (.combine count type right)
  | retype (type : ValueType) : Similar values (.retype type) (.retype type)
  | dropTwoWords : Similar values .dropTwoWords .dropTwoWords
  | duplicate (depth : Nat) : Similar values (.duplicate depth) (.duplicate depth)
  | swap : Similar values .swap .swap
  | keepTop : Similar values .keepTop .keepTop

theorem Similar.refl (values : Prop) (effect : Effect) : Similar values effect effect := by
  cases effect with
  | replace count result =>
      cases result with
      | none => exact .drop count
      | some result => exact .replace count result.1 fun _ => rfl
  | combine count type text => exact .combine count type fun _ => rfl
  | retype type => exact .retype type
  | dropTwoWords => exact .dropTwoWords
  | duplicate depth => exact .duplicate depth
  | swap => exact .swap
  | keepTop => exact .keepTop

theorem values_eq {values : Prop} {related : Entry → Entry → Prop}
    (congruence : Entry.Congruence values related) {left right : List Entry}
    (entries : List.Forall₂ related left right) (given : values) :
    left.map Entry.value = right.map Entry.value := by
  induction entries with
  | nil => rfl
  | cons first _ ih => simp [congruence.value_eq first given, ih]

/-- Similar effects take related states to related states, or underflow on both. -/
theorem Similar.apply {values : Prop} {related : Entry → Entry → Prop} {first second : Effect}
    {left right : StackState} (similar : Similar values first second)
    (congruence : Entry.Congruence values related) (offset : Nat)
    (states : StackState.Related related left right) :
    Alike (StackState.Related related) (first.apply offset left) (second.apply offset right) := by
  cases similar with
  | drop count =>
      refine (states.popMany count).bind ?_
      rintro leftPopped rightPopped ⟨_, rest⟩
      exact .ok rest
  | replace count type texts =>
      refine (states.popMany count).bind ?_
      rintro leftPopped rightPopped ⟨_, rest⟩
      exact .ok (rest.push (congruence.make _ type texts))
  | combine count type texts =>
      refine (states.popMany count).bind ?_
      rintro leftPopped rightPopped ⟨taken, rest⟩
      refine .ok (rest.push (congruence.make _ type fun given => ?_))
      rw [texts given, values_eq congruence taken given]
  | retype type =>
      refine states.pop.bind ?_
      rintro leftPopped rightPopped ⟨tops, rest⟩
      exact .ok (rest.push (congruence.make _ type (congruence.value_eq tops)))
  | dropTwoWords =>
      refine states.pop.bind ?_
      rintro leftPopped rightPopped ⟨tops, rest⟩
      simp only [congruence.width_eq tops]
      split
      · refine rest.pop.bind ?_
        rintro leftSecond rightSecond ⟨_, rest⟩
        exact .ok rest
      · exact .ok rest
  | duplicate depth =>
      refine states.pop.bind ?_
      rintro leftPopped rightPopped ⟨tops, rest⟩
      refine (rest.popMany depth).bind ?_
      rintro leftBelow rightBelow ⟨below, rest⟩
      simp only [StackState.pushMany_around]
      exact .ok (((rest.push tops).pushMany below).push tops)
  | swap =>
      refine states.pop.bind ?_
      rintro leftPopped rightPopped ⟨tops, rest⟩
      refine rest.pop.bind ?_
      rintro leftBelow rightBelow ⟨below, rest⟩
      exact .ok ((rest.push tops).push below)
  | keepTop =>
      refine states.pop.bind ?_
      rintro leftPopped rightPopped ⟨tops, rest⟩
      simp only [StackState.clear_eq]
      exact .ok (.push .empty tops)

end Effect

namespace Instruction

variable {values : Prop} {left right : Environment}

theorem loaded?_types (pool : ConstantPool) (instruction : Instruction)
    (placeholder otherPlaceholder : String) :
    (instruction.loaded? pool placeholder).map Prod.fst =
      (instruction.loaded? pool otherPlaceholder).map Prod.fst := by
  unfold loaded?
  split <;> rfl

theorem fieldValue_type (samePool : left.pool = right.pool) (instruction : Instruction) :
    (instruction.fieldValue left).1 = (instruction.fieldValue right).1 := by
  unfold fieldValue
  rw [samePool]
  split <;> rfl

theorem replace_similar {first second : ValueType × String} (unread : ¬ values) (count : Nat)
    (sameType : first.1 = second.1) :
    Effect.Similar values (.replace count (some first)) (.replace count (some second)) := by
  obtain ⟨type, text⟩ := first
  obtain ⟨otherType, otherText⟩ := second
  cases sameType
  exact .replace count type fun given => absurd given unread

theorem callEffect_similar (unread : ¬ values) (samePool : left.pool = right.pool)
    (kind : CallKind) (instruction : Instruction) :
    Effect.Similar values (instruction.callEffect left kind)
      (instruction.callEffect right kind) := by
  simp only [callEffect, samePool]
  cases instruction.callee? right.pool with
  | none => exact replace_similar unread _ rfl
  | some callee => exact .refl _ _

theorem loadConstant_similar (unread : ¬ values) (samePool : left.pool = right.pool)
    {instruction : Instruction} {form : ConstantForm}
    (opcode : instruction.opcode = .loadConstant form) :
    Effect.Similar values (instruction.effect left) (instruction.effect right) := by
  have types := loaded?_types right.pool instruction left.placeholder right.placeholder
  simp only [effect, opcode, samePool]
  cases first : instruction.loaded? right.pool left.placeholder with
  | none =>
      cases second : instruction.loaded? right.pool right.placeholder with
      | none => exact replace_similar unread 0 rfl
      | some loaded => simp [first, second] at types
  | some loaded =>
      cases second : instruction.loaded? right.pool right.placeholder with
      | none => simp [first, second] at types
      | some otherLoaded => exact replace_similar unread 0 (by simpa [first, second] using types)

/-- Names and placeholder do not change what an instruction does to the layout. -/
theorem effect_similar (samePool : left.pool = right.pool) (same : values → left = right)
    (instruction : Instruction) :
    Effect.Similar values (instruction.effect left) (instruction.effect right) := by
  by_cases unread : values
  · rw [same unread]
    exact .refl _ _
  · -- Only these four look at the pool for a type; the others differ in texts at most.
    cases opcode : instruction.opcode
    case loadConstant form => exact loadConstant_similar unread samePool opcode
    case invoke kind =>
      simp only [effect, opcode]
      exact callEffect_similar unread samePool kind instruction
    case getStatic =>
      simp only [effect, opcode]
      exact replace_similar unread 0 (fieldValue_type samePool instruction)
    case getField =>
      simp only [effect, opcode]
      exact replace_similar unread 1 (fieldValue_type samePool instruction)
    all_goals
      simp only [effect, opcode]
      first
        | exact .combine _ _ fun given => absurd given unread
        | exact replace_similar unread 0 rfl
        | exact .refl _ _

end Instruction

/-- Interpretation takes related states to related states, or underflows on both. -/
theorem interpret_alike {values : Prop} {related : Entry → Entry → Prop} {left right : Environment}
    {first second : StackState} (congruence : Entry.Congruence values related)
    (samePool : left.pool = right.pool) (same : values → left = right) (instruction : Instruction)
    (states : StackState.Related related first second) :
    Alike (StackState.Related related) (interpret left instruction first)
      (interpret right instruction second) :=
  (instruction.effect_similar samePool same).apply congruence instruction.offset states

namespace Entry

/-- Whether an entry is as large as its type says. -/
def Sized (entry : Entry) : Prop := entry.sizeInBytes = entry.valueType.sizeInBytes

/-- Entries of the same type and size. -/
def SameLayout (left right : Entry) : Prop :=
  left.valueType = right.valueType ∧ left.sizeInBytes = right.sizeInBytes

/-- Entries of the same size that signatures show alike. -/
def SameShown (left right : Entry) : Prop :=
  left.shown = right.shown ∧ left.sizeInBytes = right.sizeInBytes

theorem congruence_sameLayout : Congruence False SameLayout where
  width_eq entries := congrArg (· / 4) entries.2
  value_eq _ given := given.elim
  make _ _ _ _ _ := ⟨rfl, rfl⟩

theorem congruence_sameShown : Congruence True SameShown where
  width_eq entries := congrArg (· / 4) entries.2
  value_eq entries _ := congrArg Prod.snd entries.1
  make _ _ _ _ texts := ⟨by simp [shown, make, texts trivial], rfl⟩

theorem congruence_sized : Congruence True fun left right => left = right ∧ left.Sized where
  width_eq entries := congrArg width entries.1
  value_eq entries _ := congrArg value entries.1
  make _ _ _ _ texts := ⟨by rw [texts trivial], rfl⟩

end Entry

namespace StackState

/-- Whether all entries are as large as their types say. -/
def WellSized (state : StackState) : Prop := ∀ entry ∈ state.toList, entry.Sized

theorem Related.wellSized {left right : StackState}
    (related : Related (fun left right => left = right ∧ left.Sized) left right) :
    left.WellSized := by
  induction related with
  | empty => simp [WellSized]
  | push _ tops ih =>
      intro entry member
      simp only [toList_push, List.mem_append, List.mem_singleton] at member
      rcases member with below | rfl
      · exact ih entry below
      · exact tops.2

theorem wellSized_of_interpret {state result : StackState} {environment : Environment}
    {instruction : Instruction} (sized : state.WellSized)
    (interpreted : interpret environment instruction state = .ok result) : result.WellSized := by
  have related : Related (fun left right => left = right ∧ left.Sized) state state :=
    .of_map_eq id (fun entry member _ _ same => ⟨same, sized entry member⟩) rfl
  have alike : Alike (Related fun left right => left = right ∧ left.Sized)
      (interpret environment instruction state) (interpret environment instruction state) :=
    interpret_alike Entry.congruence_sized rfl (fun _ => rfl) instruction related
  rw [interpreted] at alike
  obtain ⟨_, _, results⟩ := alike.exists_ok
  exact results.wellSized

variable {left right : StackState}

theorem sameLayout_of_types (leftSized : left.WellSized) (rightSized : right.WellSized)
    (same : left.types = right.types) : Related Entry.SameLayout left right := by
  refine .of_map_eq Entry.valueType ?_ same
  intro leftEntry leftMember rightEntry rightMember sameType
  refine ⟨sameType, ?_⟩
  rw [leftSized leftEntry leftMember, rightSized rightEntry rightMember, sameType]

theorem sameShown_of_shown (leftSized : left.WellSized) (rightSized : right.WellSized)
    (same : left.shown = right.shown) : Related Entry.SameShown left right := by
  refine .of_map_eq Entry.shown ?_ same
  intro leftEntry leftMember rightEntry rightMember sameShown
  refine ⟨sameShown, ?_⟩
  rw [leftSized leftEntry leftMember, rightSized rightEntry rightMember]
  exact congrArg (ValueType.sizeInBytes ∘ Prod.fst) sameShown

theorem Related.types_eq (states : Related Entry.SameLayout left right) :
    left.types = right.types :=
  states.map_eq Entry.valueType fun _ _ entries => entries.1

theorem Related.shown_eq (states : Related Entry.SameShown left right) :
    left.shown = right.shown :=
  states.map_eq Entry.shown fun _ _ entries => entries.1

theorem Related.sizeInWords_eq (states : Related Entry.SameLayout left right) :
    left.sizeInWords = right.sizeInWords := by
  rw [StackState.sizeInWords_eq, StackState.sizeInWords_eq]
  induction states with
  | empty => rfl
  | push _ tops ih =>
      have widths := Entry.congruence_sameLayout.width_eq tops
      simp [OffsetVector.widthSum_append, ih, widths]

theorem types_eq_of_shown_eq (same : left.shown = right.shown) : left.types = right.types := by
  have types := congrArg (List.map Prod.fst) same
  simp only [shown, List.map_map] at types
  exact types

end StackState

end StackFlow
