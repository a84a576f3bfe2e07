import Mathlib.Data.List.DropRight
import StackFlow.Proofs.Effect.Congruence

/-!
# What an effect takes and pushes

An effect looks at the top of a stack only: it takes some entries from there and pushes others in
their place, which `Effect.Acts` lists, and all that lies below stays. A throw is the exception, for
it also takes what lies below the thrown entry. `Effect.apply_eq_ok_iff` says that an effect does
this and nothing else, so a fact about interpretation is a case analysis on a few entries. The first
of these facts is locality: what an instruction does does not depend on the entries below those that
it takes.
-/

namespace StackFlow

namespace StackState

variable {state rest : StackState}

theorem pop_eq_ok_iff {top : Entry} : state.pop = .ok (top, rest) ↔ state = rest.push top := by
  induction state using push_induction with
  | empty =>
      refine iff_of_false (fun popped => by cases popped) fun pushed => ?_
      have contents := congrArg toList pushed
      simp at contents
  | push below last _ =>
      rw [pop_push, Except.ok.injEq, Prod.mk.injEq]
      constructor
      · rintro ⟨rfl, rfl⟩
        rfl
      · intro same
        have popped := congrArg pop same
        simpa using popped

theorem popOnto_eq_ok_iff {taken result : List Entry} {count : Nat} :
    state.popOnto taken count = .ok (result, rest) ↔
      ∃ popped, popped.length = count ∧ state.toList = rest.toList ++ popped ∧
        result = popped ++ taken := by
  induction count generalizing state taken with
  | zero =>
      simp only [popOnto, Except.ok.injEq, Prod.mk.injEq, List.length_eq_zero_iff, exists_eq_left,
        List.append_nil, List.nil_append]
      constructor
      · rintro ⟨rfl, rfl⟩
        exact ⟨rfl, rfl⟩
      · rintro ⟨same, rfl⟩
        exact ⟨rfl, eq_of_toList_eq same⟩
  | succ count ih =>
      induction state using push_induction with
      | empty =>
          refine iff_of_false (fun popped => by cases popped) ?_
          rintro ⟨popped, enough, contents, _⟩
          have none : popped = [] := (List.append_eq_nil_iff.1 contents.symm).2
          simp [none] at enough
      | push below top _ =>
          simp only [popOnto, pop_push, ih]
          constructor
          · rintro ⟨popped, enough, contents, rfl⟩
            exact ⟨popped ++ [top], by simp [enough], by simp [contents], by simp⟩
          · rintro ⟨popped, enough, contents, rfl⟩
            induction popped using List.reverseRecOn with
            | nil => cases enough
            | append_singleton popped last _ =>
                rw [toList_push, ← List.append_assoc] at contents
                obtain ⟨belowContents, isLast⟩ := List.append_inj' contents rfl
                cases isLast
                exact ⟨popped, by simpa using enough, belowContents, by simp⟩

theorem popMany_eq_ok_iff {taken : List Entry} {count : Nat} :
    state.popMany count = .ok (taken, rest) ↔
      taken.length = count ∧ state.toList = rest.toList ++ taken := by
  simp only [popMany, popOnto_eq_ok_iff, List.append_nil]
  constructor
  · rintro ⟨popped, enough, contents, rfl⟩
    exact ⟨enough, contents⟩
  · rintro ⟨enough, contents⟩
    exact ⟨taken, enough, contents, rfl⟩

theorem length_eq (state : StackState) : state.length = state.toList.length :=
  state.entries.length_eq

@[simp]
theorem toList_pushMany (state : StackState) (entries : List Entry) :
    (state.pushMany entries).toList = state.toList ++ entries := by
  induction entries generalizing state with
  | nil => simp [pushMany]
  | cons entry entries ih => simpa [pushMany] using ih (state.push entry)

end StackState

theorem bind_eq_ok_iff {α β : Type} {outcome : Except StackError α}
    {next : α → Except StackError β} {result : β} :
    (outcome >>= next) = .ok result ↔ ∃ value, outcome = .ok value ∧ next value = .ok result := by
  cases outcome <;> simp [bind, Except.bind]

namespace Effect

open StackState

/-- What the effect of an instruction takes from the top of a stack and what it puts in its place,
both bottom to top. -/
inductive Acts (offset : Nat) : Effect → List Entry → List Entry → Prop where
  | drop (taken : List Entry) : Acts offset (.replace taken.length none) taken []
  | replace (taken : List Entry) (type : ValueType) (text : String) :
      Acts offset (.replace taken.length (some (type, text))) taken
        [.make (some offset) type text]
  | combine (taken : List Entry) (type : ValueType) (text : List String → String) :
      Acts offset (.combine taken.length type text) taken
        [.make (some offset) type (text (taken.map Entry.value))]
  | retype (top : Entry) (type : ValueType) :
      Acts offset (.retype type) [top] [top.retyped (some offset) type]
  | dropWide {top : Entry} (wide : width top ≠ 1) : Acts offset .dropTwoWords [top] []
  | dropPair {top : Entry} (below : Entry) (narrow : width top = 1) :
      Acts offset .dropTwoWords [below, top] []
  | duplicate (below : List Entry) (top : Entry) :
      Acts offset (.duplicate below.length) (below ++ [top]) (top :: below ++ [top])
  | swap (below top : Entry) : Acts offset .swap [below, top] [top, below]

/-- What the effect of an instruction does to a whole stack. -/
inductive Rewrites (offset : Nat) (effect : Effect) : List Entry → List Entry → Prop where
  /-- All that lies below what is taken stays. -/
  | atTop (rest : List Entry) {taken pushed : List Entry} (acts : Acts offset effect taken pushed) :
      Rewrites offset effect (rest ++ taken) (rest ++ pushed)
  /-- Nothing stays below a thrown entry. -/
  | alone (keepsTop : effect = .keepTop) (below : List Entry) (top : Entry) :
      Rewrites offset effect (below ++ [top]) [top]

variable {effect : Effect} {offset : Nat} {state result : StackState}

theorem rewrites_of_apply (applied : effect.apply offset state = .ok result) :
    effect.Rewrites offset state.toList result.toList := by
  cases effect with
  | replace count made =>
      rcases bind_eq_ok_iff.1 applied with ⟨⟨taken, rest⟩, popped, pushed⟩
      rcases popMany_eq_ok_iff.1 popped with ⟨rfl, contents⟩
      rw [contents]
      cases made with
      | none =>
          cases pushed
          simpa using Rewrites.atTop _ (.drop taken)
      | some made =>
          cases pushed
          rw [toList_push]
          exact .atTop _ (.replace taken made.1 made.2)
  | combine count type text =>
      rcases bind_eq_ok_iff.1 applied with ⟨⟨taken, rest⟩, popped, pushed⟩
      rcases popMany_eq_ok_iff.1 popped with ⟨rfl, contents⟩
      cases pushed
      rw [contents, toList_push]
      exact .atTop _ (.combine taken type text)
  | retype type =>
      rcases bind_eq_ok_iff.1 applied with ⟨⟨top, rest⟩, popped, pushed⟩
      cases pop_eq_ok_iff.1 popped
      cases pushed
      rw [toList_push, toList_push]
      exact .atTop _ (.retype top type)
  | dropTwoWords =>
      rcases bind_eq_ok_iff.1 applied with ⟨⟨top, rest⟩, popped, dropped⟩
      cases pop_eq_ok_iff.1 popped
      dsimp only at dropped
      split at dropped
      · next narrow =>
        rcases bind_eq_ok_iff.1 dropped with ⟨⟨below, last⟩, belowPopped, finished⟩
        cases pop_eq_ok_iff.1 belowPopped
        cases finished
        simpa using Rewrites.atTop _ (.dropPair below narrow)
      · next wide =>
        cases dropped
        simpa using Rewrites.atTop _ (.dropWide wide)
  | duplicate depth =>
      rcases bind_eq_ok_iff.1 applied with ⟨⟨top, rest⟩, popped, copied⟩
      cases pop_eq_ok_iff.1 popped
      rcases bind_eq_ok_iff.1 copied with ⟨⟨below, last⟩, belowPopped, pushed⟩
      rcases popMany_eq_ok_iff.1 belowPopped with ⟨rfl, contents⟩
      cases pushed
      rw [toList_push, contents, toList_pushMany, List.append_assoc]
      exact .atTop _ (.duplicate below top)
  | swap =>
      rcases bind_eq_ok_iff.1 applied with ⟨⟨top, rest⟩, popped, swapped⟩
      cases pop_eq_ok_iff.1 popped
      rcases bind_eq_ok_iff.1 swapped with ⟨⟨below, last⟩, belowPopped, pushed⟩
      cases pop_eq_ok_iff.1 belowPopped
      cases pushed
      simpa using Rewrites.atTop _ (.swap below top)
  | keepTop =>
      rcases bind_eq_ok_iff.1 applied with ⟨⟨top, rest⟩, popped, cleared⟩
      cases pop_eq_ok_iff.1 popped
      cases cleared
      rw [toList_push]
      exact .alone rfl rest.toList top

theorem ofList_append (rest entries : List Entry) :
    ofList (rest ++ entries) = (ofList rest).pushMany entries :=
  eq_of_toList_eq (by simp)

theorem popMany_ofList (rest entries : List Entry) :
    (ofList (rest ++ entries)).popMany entries.length = .ok (entries, .ofList rest) :=
  popMany_eq_ok_iff.2 ⟨rfl, by simp⟩

theorem apply_of_acts {taken pushed : List Entry} (acts : Acts offset effect taken pushed)
    (rest : List Entry) :
    effect.apply offset (.ofList (rest ++ taken)) = .ok (.ofList (rest ++ pushed)) := by
  cases acts with
  | drop =>
      refine bind_eq_ok_iff.2 ⟨_, popMany_ofList rest taken, ?_⟩
      rw [List.append_nil]
      rfl
  | replace _ type text =>
      refine bind_eq_ok_iff.2 ⟨_, popMany_ofList rest taken, ?_⟩
      rw [ofList_append]
      rfl
  | combine _ type text =>
      refine bind_eq_ok_iff.2 ⟨_, popMany_ofList rest taken, ?_⟩
      rw [ofList_append]
      rfl
  | retype top type =>
      rw [ofList_append, ofList_append]
      rfl
  | @dropWide top wide =>
      rw [ofList_append, ofList_append]
      refine bind_eq_ok_iff.2 ⟨(top, ofList rest), rfl, ?_⟩
      exact if_neg wide
  | @dropPair top below narrow =>
      rw [ofList_append, ofList_append]
      refine bind_eq_ok_iff.2 ⟨(top, (ofList rest).push below), rfl, ?_⟩
      exact if_pos narrow
  | duplicate below top =>
      rw [← List.append_assoc, ofList_append (rest ++ below),
        ofList_append rest (top :: below ++ [top])]
      refine bind_eq_ok_iff.2 ⟨(top, ofList (rest ++ below)), rfl, ?_⟩
      exact bind_eq_ok_iff.2 ⟨_, popMany_ofList rest below, rfl⟩
  | swap below top =>
      rw [ofList_append, ofList_append]
      rfl

/-- An effect does what it lists, and fails exactly if there is too little to take. -/
theorem apply_eq_ok_iff :
    effect.apply offset state = .ok result ↔
      effect.Rewrites offset state.toList result.toList := by
  refine ⟨rewrites_of_apply, ?_⟩
  generalize before : state.toList = entries
  generalize after : result.toList = results
  intro rewrites
  rw [← ofList_toList state, ← ofList_toList result, before, after]
  cases rewrites with
  | atTop rest acts => exact apply_of_acts acts rest
  | alone keepsTop below top =>
      subst keepsTop
      rw [ofList_append]
      exact congrArg Except.ok (eq_of_toList_eq rfl)

/-- The entry that a replacement pushes, if it pushes one. -/
def made (offset : Nat) (product : Option (ValueType × String)) : Option Entry :=
  product.map fun (type, text) => .make (some offset) type text

/-- A replacement succeeds if there are enough entries, and takes the topmost ones. -/
theorem apply_replace_eq_ok_iff {product : Option (ValueType × String)} {count : Nat} :
    (replace count product).apply offset state = .ok result ↔
      count ≤ state.length ∧
        result.toList = state.toList.rdrop count ++ (made offset product).toList := by
  rw [apply_eq_ok_iff, length_eq]
  generalize state.toList = entries
  generalize result.toList = results
  constructor
  · intro rewrites
    cases rewrites with
    | atTop rest acts => cases acts <;> simp [List.rdrop, made]
    | alone keepsTop => cases keepsTop
  · rintro ⟨enough, rfl⟩
    obtain ⟨rest, taken, rfl, rfl⟩ :
        ∃ rest taken, entries = rest ++ taken ∧ taken.length = count := by
      refine ⟨entries.rdrop count, entries.rtake count, (List.take_append_drop ..).symm, ?_⟩
      simp only [List.rtake, List.length_drop]
      omega
    have kept : (rest ++ taken).rdrop taken.length = rest := by simp [List.rdrop]
    rw [kept]
    cases product with
    | none => exact .atTop rest (.drop taken)
    | some product => exact .atTop rest (.replace taken product.1 product.2)

theorem apply_replace_eq_error_iff {product : Option (ValueType × String)} {count : Nat} :
    (∃ cause, (replace count product).apply offset state = .error cause) ↔
      state.length < count := by
  cases outcome : (replace count product).apply offset state with
  | error cause =>
      refine iff_of_true ⟨cause, rfl⟩ ?_
      by_contra enough
      have succeeds : (replace count product).apply offset state = .ok
          (.ofList (state.toList.rdrop count ++ (made offset product).toList)) :=
        apply_replace_eq_ok_iff.2 ⟨Nat.le_of_not_lt enough, toList_ofList _⟩
      rw [outcome] at succeeds
      cases succeeds
  | ok result =>
      have enough := (apply_replace_eq_ok_iff.1 outcome).1
      simpa using enough

end Effect

/-! ### Where entries come from -/

theorem Effect.Acts.mem_pushed {effect : Effect} {offset : Nat} {taken pushed : List Entry}
    (acts : Acts offset effect taken pushed) {entry : Entry} (member : entry ∈ pushed) :
    entry ∈ taken ∨ ∃ type text, entry = .make (some offset) type text := by
  cases acts with
  | drop => cases member
  | replace _ type text => exact .inr ⟨type, text, List.mem_singleton.1 member⟩
  | combine _ type text => exact .inr ⟨type, _, List.mem_singleton.1 member⟩
  | retype top type => exact .inr ⟨type, top.value, List.mem_singleton.1 member⟩
  | dropWide => cases member
  | dropPair => cases member
  | duplicate below top =>
      left
      simpa [or_comm] using member
  | swap below top =>
      left
      simpa [or_comm] using member

/-- An entry after an instruction was there before, or the instruction made it. -/
theorem mem_of_interpret {environment : Environment} {instruction : Instruction}
    {state result : StackState} (interpreted : interpret environment instruction state = .ok result)
    {entry : Entry} (member : entry ∈ result.toList) :
    entry ∈ state.toList ∨ ∃ type text, entry = .make (some instruction.offset) type text := by
  have rewrites := Effect.apply_eq_ok_iff.1 interpreted
  generalize state.toList = entries at rewrites ⊢
  generalize result.toList = results at rewrites member
  cases rewrites with
  | atTop rest acts =>
      rcases List.mem_append.1 member with kept | isPushed
      · exact .inl (List.mem_append_left _ kept)
      · exact (acts.mem_pushed isPushed).imp_left (List.mem_append_right _)
  | alone keepsTop below top => exact .inl (List.mem_append_right _ member)

/-! ### Locality -/

namespace Effect

variable {effect : Effect} {offset : Nat} {before after : List Entry}

theorem Rewrites.onTopOf (rewrites : effect.Rewrites offset before after) (base : List Entry)
    (isLocal : effect ≠ .keepTop) : effect.Rewrites offset (base ++ before) (base ++ after) := by
  cases rewrites with
  | atTop rest acts =>
      rw [← List.append_assoc, ← List.append_assoc]
      exact .atTop (base ++ rest) acts
  | alone keepsTop => exact absurd keepsTop isLocal

theorem Rewrites.thrown (rewrites : effect.Rewrites offset before after) (base : List Entry)
    (throws : effect = .keepTop) : effect.Rewrites offset (base ++ before) after := by
  cases rewrites with
  | atTop rest acts =>
      subst throws
      cases acts
  | alone keepsTop below top =>
      rw [← List.append_assoc]
      exact .alone keepsTop (base ++ below) top

end Effect

theorem Instruction.effect_eq_keepTop_iff (environment : Environment) (instruction : Instruction) :
    instruction.effect environment = .keepTop ↔ instruction.opcode = .throw := by
  cases opcode : instruction.opcode
  case loadConstant =>
    simp only [effect, opcode]
    split <;> simp [Effect.push]
  case invoke =>
    simp only [effect, opcode, callEffect]
    split <;> simp
  all_goals simp [effect, opcode, Effect.push, Effect.drop, Effect.nothing]

/-- A stack with further entries below it. -/
def StackState.onTopOf (state : StackState) (base : List Entry) : StackState :=
  .ofList (base ++ state.toList)

theorem StackState.sizeInWords_onTopOf (state : StackState) (base : List Entry) :
    (state.onTopOf base).sizeInWords = (ofList base).sizeInWords + state.sizeInWords := by
  simp only [sizeInWords_eq, onTopOf, toList_ofList, OffsetVector.widthSum_append]

section Locality

variable {environment : Environment} {instruction : Instruction} {top result : StackState}

theorem interpret_onTopOf (succeeds : interpret environment instruction top = .ok result)
    (base : List Entry) :
    interpret environment instruction (top.onTopOf base) =
      .ok (if instruction.opcode = .throw then result else result.onTopOf base) := by
  have rewrites := Effect.apply_eq_ok_iff.1 succeeds
  apply Effect.apply_eq_ok_iff.2
  rw [StackState.onTopOf, StackState.toList_ofList]
  split
  · next throws =>
    exact rewrites.thrown base ((instruction.effect_eq_keepTop_iff environment).2 throws)
  · next staysLocal =>
    rw [StackState.onTopOf, StackState.toList_ofList]
    exact rewrites.onTopOf base (mt (instruction.effect_eq_keepTop_iff environment).1 staysLocal)

end Locality

/-- Interpretation is local. Where an instruction succeeds on a stack, it succeeds on that stack on
top of any further entries; these stay as they are below the result and count with their words,
unless the instruction throws, which leaves the result alone. So where it fails on a stack it fails
on every upper part of it, and it fails only for lack of entries. -/
theorem interpret_locality (environment : Environment) (instruction : Instruction)
    (base : List Entry) (top : StackState) :
    (∀ result, interpret environment instruction top = .ok result →
      (instruction.opcode = .throw →
        interpret environment instruction (top.onTopOf base) = .ok result) ∧
      (instruction.opcode ≠ .throw → ∃ whole,
        interpret environment instruction (top.onTopOf base) = .ok whole ∧
          whole.toList = base ++ result.toList ∧
          whole.sizeInWords = (StackState.ofList base).sizeInWords + result.sizeInWords)) ∧
    (∀ cause, interpret environment instruction (top.onTopOf base) = .error cause →
      interpret environment instruction top = .error cause) ∧
    ∀ state cause, interpret environment instruction state = .error cause →
      cause = .emptyStack := by
  refine ⟨?_, ?_, fun _ cause _ => by cases cause; rfl⟩
  · intro result succeeds
    have onTop := interpret_onTopOf succeeds base
    refine ⟨fun throws => ?_, fun staysLocal => ⟨result.onTopOf base, ?_, ?_, ?_⟩⟩
    · rwa [if_pos throws] at onTop
    · rwa [if_neg staysLocal] at onTop
    · exact StackState.toList_ofList _
    · exact result.sizeInWords_onTopOf base
  · intro cause fails
    cases outcome : interpret environment instruction top with
    | error other => cases cause; cases other; rfl
    | ok result =>
        rw [interpret_onTopOf outcome base] at fails
        cases fails

/-- A call of a method whose index is missing takes its receiver and nothing below it. -/
theorem interpret_locality_unresolvedCall :
    ∃ whole, interpret ⟨.empty, { table := [] }, "?"⟩ { offset := 7, opcode := .invoke .virtual }
        (StackState.onTopOf (.ofList [.make none .reference "r"]) [.make (some 2) .double "d"]) =
          .ok whole ∧
      whole.toList = [.make (some 2) .double "d", .make (some 7) .unknown "?"] ∧
      whole.sizeInWords = 3 := by
  have succeeds : interpret ⟨.empty, { table := [] }, "?"⟩
      { offset := 7, opcode := .invoke .virtual } (.ofList [.make none .reference "r"]) =
        .ok (.ofList [.make (some 7) .unknown "?"]) := rfl
  exact ((interpret_locality _ _ [.make (some 2) .double "d"] _).1 _ succeeds).2 (by decide)

end StackFlow
