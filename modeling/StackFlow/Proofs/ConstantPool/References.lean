import Mathlib.Tactic.Common
import StackFlow.ConstantPool
import StackFlow.Proofs.OffsetVector

/-!
# References into a constant pool

A pool only grows, so an index that resolves goes on resolving to the same thing. That an index
resolves to what was asked for is less plain: a member refers to a class and to a name with a
descriptor, these refer to texts, and each of them may be new, shared with an earlier call, or past
the last index. In the last case it is referred to by zero, and stays so for all later calls. But
then no index is left, so whatever would refer to it has index zero as well.

Each call adds some constants on the way and one at last, which is what `PoolCall.prepare` takes
apart. `PoolCall.Prepared` says that the last constant refers to the right things, and all facts
about calls follow from it in the same way.
-/

namespace StackFlow

/-- A call that asks a pool for an index. -/
inductive PoolCall where
  | push (constant : Constant)
  | internText (text : String)
  | internClass (className : String)
  | addString (text : String)
  | addNameAndType (name descriptor : String)
  | addFieldRef (owner name descriptor : String)
  | addMethodRef (owner name descriptor : String) (isInterface : Bool)
  | addCallSite (bootstrap : Nat) (name descriptor : String)
deriving DecidableEq

namespace PoolCall

/-- The index that a call gives, and the pool after it. -/
def perform : PoolCall → ConstantPool → ConstantIndex × ConstantPool
  | .push constant, pool => pool.push constant
  | .internText text, pool => pool.internText text
  | .internClass className, pool => pool.internClass className
  | .addString text, pool => pool.addString text
  | .addNameAndType name descriptor, pool => pool.addNameAndType name descriptor
  | .addFieldRef owner name descriptor, pool => pool.addFieldRef owner name descriptor
  | .addMethodRef owner name descriptor isInterface, pool =>
    pool.addMethodRef owner name descriptor isInterface
  | .addCallSite bootstrap name descriptor, pool => pool.addCallSite bootstrap name descriptor

/-- Whether a call gives the same index whenever it is made. -/
def isShared : PoolCall → Bool
  | .internText _ | .internClass _ => true
  | _ => false

/-- Says that an index of a pool resolves to what a call was given. -/
def Resolves (call : PoolCall) (pool : ConstantPool) (index : ConstantIndex) : Prop :=
  match call with
  | .push constant => pool.get? index = some constant
  | .internText text => pool.text? index = some text
  | .internClass className => pool.className? index = some className
  | .addString text =>
    ∃ inner, pool.get? index = some (.string inner) ∧ pool.text? inner = some text
  | .addNameAndType name descriptor => pool.nameAndType? index = some (name, descriptor)
  | .addFieldRef owner name descriptor | .addMethodRef owner name descriptor _ =>
    pool.memberRef? index = some ⟨owner, name, descriptor⟩
  | .addCallSite _ name descriptor => pool.callSite? index = some (name, descriptor)

/-- The constant that a call adds at last, and the pool to which it adds it. -/
def prepare : PoolCall → ConstantPool → Constant × ConstantPool
  | .push constant, pool => (constant, pool)
  | .internText text, pool => (.utf8 text, pool)
  | .internClass className, pool =>
    let (name, pool) := pool.internText className
    (.classRef name, pool)
  | .addString text, pool =>
    let (text, pool) := pool.internText text
    (.string text, pool)
  | .addNameAndType name descriptor, pool =>
    let (name, pool) := pool.internText name
    let (descriptor, pool) := pool.internText descriptor
    (.nameAndType name descriptor, pool)
  | .addFieldRef owner name descriptor, pool =>
    let (owner, pool) := pool.internClass owner
    let (nameAndType, pool) := pool.addNameAndType name descriptor
    (.fieldRef owner nameAndType, pool)
  | .addMethodRef owner name descriptor isInterface, pool =>
    let (owner, pool) := pool.internClass owner
    let (nameAndType, pool) := pool.addNameAndType name descriptor
    (.methodRef owner nameAndType isInterface, pool)
  | .addCallSite bootstrap name descriptor, pool =>
    let (nameAndType, pool) := pool.addNameAndType name descriptor
    (.invokeDynamic bootstrap nameAndType, pool)

end PoolCall

theorem width_constant_pos (constant : Constant) : 0 < width constant := by
  cases constant <;> exact Nat.succ_pos _

namespace ConstantPool

/-- The index that a pool shares with further calls of the same kind. -/
def shared? (pool : ConstantPool) : PoolCall → Option ConstantIndex
  | .internText text => pool.texts.lookup text
  | .internClass className => pool.classes.lookup className
  | _ => none

/-- Keeps an index for further calls of the same kind. -/
def share (pool : ConstantPool) (call : PoolCall) (index : ConstantIndex) : ConstantPool :=
  match call with
  | .internText text => { pool with texts := (text, index) :: pool.texts }
  | .internClass className => { pool with classes := (className, index) :: pool.classes }
  | _ => pool

/-- Adds a constant and keeps its index for further calls of the same kind. -/
def pushShared (pool : ConstantPool) (call : PoolCall) (constant : Constant) :
    ConstantIndex × ConstantPool :=
  ((pool.push constant).1, (pool.push constant).2.share call (pool.push constant).1)

/-- Whether no index is left. -/
def Full (pool : ConstantPool) : Prop := lastConstantIndex < pool.constants.next

/-! ### What resolves -/

section Resolving

variable {pool : ConstantPool} {index : ConstantIndex} {text owner name descriptor : String}
  {constant : Constant}

theorem get?_eq_some_iff : pool.get? index = some constant ↔
    ∃ position, pool.constants.get? index = some (position, constant) := by
  simp [get?]

theorem lt_next_of_get? (found : pool.get? index = some constant) :
    index < pool.constants.next := by
  rcases get?_eq_some_iff.1 found with ⟨_, foundSlot⟩
  have bounds := OffsetVector.bounds_of_get? foundSlot
  exact Nat.lt_of_lt_of_le (Nat.lt_add_of_pos_right (width_constant_pos constant)) bounds.2

theorem text?_eq_some_iff : pool.text? index = some text ↔
    pool.get? index = some (.utf8 text) := by
  unfold text?
  split <;> simp_all

theorem className?_eq_some_iff : pool.className? index = some text ↔
    ∃ inner, pool.get? index = some (.classRef inner) ∧ pool.text? inner = some text := by
  unfold className?
  split <;> simp_all

theorem nameAndType?_eq_some_iff : pool.nameAndType? index = some (name, descriptor) ↔
    ∃ first second, pool.get? index = some (.nameAndType first second) ∧
      pool.text? first = some name ∧ pool.text? second = some descriptor := by
  unfold nameAndType?
  split <;> simp_all [Option.bind_eq_some_iff, and_comm]

theorem memberRef?_eq_some_iff : pool.memberRef? index = some ⟨owner, name, descriptor⟩ ↔
    ∃ first second, (pool.get? index = some (.fieldRef first second) ∨
        ∃ isInterface, pool.get? index = some (.methodRef first second isInterface)) ∧
      pool.className? first = some owner ∧
      pool.nameAndType? second = some (name, descriptor) := by
  unfold memberRef?
  split <;> simp_all [Option.bind_eq_some_iff, and_comm]

theorem callSite?_eq_some_iff : pool.callSite? index = some (name, descriptor) ↔
    ∃ bootstrap inner, pool.get? index = some (.invokeDynamic bootstrap inner) ∧
      pool.nameAndType? inner = some (name, descriptor) := by
  unfold callSite?
  split <;> simp_all

end Resolving

/-! ### How pools grow -/

/-- Says that the later pool has all that the earlier one has, and that every index it shares
besides is new. -/
structure Grows (earlier later : ConstantPool) : Prop where
  next_le : earlier.constants.next ≤ later.constants.next
  get?_eq {index : ConstantIndex} {constant : Constant} :
    earlier.get? index = some constant → later.get? index = some constant
  shared {call : PoolCall} {index : ConstantIndex} :
    earlier.shared? call = some index → later.shared? call = some index
  shared_or_le {call : PoolCall} {index : ConstantIndex} :
    later.shared? call = some index → index ≠ 0 →
      earlier.shared? call = some index ∨ earlier.constants.next ≤ index

namespace Grows

variable {earlier middle later : ConstantPool} {index : ConstantIndex}

theorem refl (pool : ConstantPool) : pool.Grows pool :=
  ⟨Nat.le_refl _, id, id, fun found _ => Or.inl found⟩

theorem trans (first : earlier.Grows middle) (second : middle.Grows later) :
    earlier.Grows later where
  next_le := Nat.le_trans first.next_le second.next_le
  get?_eq found := second.get?_eq (first.get?_eq found)
  shared found := second.shared (first.shared found)
  shared_or_le found nonzero := by
    rcases second.shared_or_le found nonzero with foundBefore | isNew
    · exact first.shared_or_le foundBefore nonzero
    · exact Or.inr (Nat.le_trans first.next_le isNew)

theorem full (grows : earlier.Grows later) (full : earlier.Full) : later.Full :=
  Nat.lt_of_lt_of_le full grows.next_le

theorem text? (grows : earlier.Grows later) {text : String}
    (found : earlier.text? index = some text) : later.text? index = some text := by
  rw [text?_eq_some_iff] at found ⊢
  exact grows.get?_eq found

theorem className? (grows : earlier.Grows later) {className : String}
    (found : earlier.className? index = some className) :
    later.className? index = some className := by
  rw [className?_eq_some_iff] at found ⊢
  rcases found with ⟨inner, foundClass, foundText⟩
  exact ⟨inner, grows.get?_eq foundClass, grows.text? foundText⟩

theorem nameAndType? (grows : earlier.Grows later) {name descriptor : String}
    (found : earlier.nameAndType? index = some (name, descriptor)) :
    later.nameAndType? index = some (name, descriptor) := by
  rw [nameAndType?_eq_some_iff] at found ⊢
  rcases found with ⟨first, second, foundPair, foundName, foundDescriptor⟩
  exact ⟨first, second, grows.get?_eq foundPair, grows.text? foundName,
    grows.text? foundDescriptor⟩

theorem memberRef? (grows : earlier.Grows later) {owner name descriptor : String}
    (found : earlier.memberRef? index = some ⟨owner, name, descriptor⟩) :
    later.memberRef? index = some ⟨owner, name, descriptor⟩ := by
  rw [memberRef?_eq_some_iff] at found ⊢
  rcases found with ⟨first, second, foundMember, foundOwner, foundPair⟩
  refine ⟨first, second, ?_, grows.className? foundOwner, grows.nameAndType? foundPair⟩
  rcases foundMember with foundField | ⟨isInterface, foundMethod⟩
  · exact Or.inl (grows.get?_eq foundField)
  · exact Or.inr ⟨isInterface, grows.get?_eq foundMethod⟩

theorem callSite? (grows : earlier.Grows later) {name descriptor : String}
    (found : earlier.callSite? index = some (name, descriptor)) :
    later.callSite? index = some (name, descriptor) := by
  rw [callSite?_eq_some_iff] at found ⊢
  rcases found with ⟨bootstrap, inner, foundSite, foundPair⟩
  exact ⟨bootstrap, inner, grows.get?_eq foundSite, grows.nameAndType? foundPair⟩

theorem resolves (grows : earlier.Grows later) {call : PoolCall}
    (resolves : call.Resolves earlier index) : call.Resolves later index := by
  cases call with
  | push => exact grows.get?_eq resolves
  | internText => exact grows.text? resolves
  | internClass => exact grows.className? resolves
  | addString =>
      rcases resolves with ⟨inner, foundString, foundText⟩
      exact ⟨inner, grows.get?_eq foundString, grows.text? foundText⟩
  | addNameAndType => exact grows.nameAndType? resolves
  | addFieldRef | addMethodRef => exact grows.memberRef? resolves
  | addCallSite => exact grows.callSite? resolves

end Grows

end ConstantPool

namespace PoolCall

open ConstantPool

variable {pool : ConstantPool} {call other : PoolCall} {index : ConstantIndex}

theorem Resolves.exists_get? (resolves : call.Resolves pool index) :
    ∃ constant, pool.get? index = some constant := by
  cases call with
  | push => exact ⟨_, resolves⟩
  | internText => exact ⟨_, text?_eq_some_iff.1 resolves⟩
  | internClass =>
      rcases className?_eq_some_iff.1 resolves with ⟨_, found, _⟩
      exact ⟨_, found⟩
  | addString =>
      rcases resolves with ⟨_, found, _⟩
      exact ⟨_, found⟩
  | addNameAndType =>
      rcases nameAndType?_eq_some_iff.1 resolves with ⟨_, _, found, _⟩
      exact ⟨_, found⟩
  | addFieldRef | addMethodRef =>
      rcases memberRef?_eq_some_iff.1 resolves with ⟨_, _, found | ⟨_, found⟩, _⟩
      · exact ⟨_, found⟩
      · exact ⟨_, found⟩
  | addCallSite =>
      rcases callSite?_eq_some_iff.1 resolves with ⟨_, _, found, _⟩
      exact ⟨_, found⟩

theorem Resolves.lt_next (resolves : call.Resolves pool index) :
    index < pool.constants.next := by
  rcases resolves.exists_get? with ⟨constant, found⟩
  exact lt_next_of_get? found

/-- An index stands for one text or for one class. -/
theorem Resolves.unique (isShared : call.isShared = true) (otherShared : other.isShared = true)
    (resolves : call.Resolves pool index) (otherResolves : other.Resolves pool index) :
    other = call := by
  cases call with
  | internText =>
      cases other with
      | internText =>
          rw [Option.some.inj (otherResolves.symm.trans resolves)]
      | internClass =>
          rcases className?_eq_some_iff.1 otherResolves with ⟨_, found, _⟩
          cases found.symm.trans (text?_eq_some_iff.1 resolves)
      | _ => cases otherShared
  | internClass =>
      cases other with
      | internClass =>
          rw [Option.some.inj (otherResolves.symm.trans resolves)]
      | internText =>
          rcases className?_eq_some_iff.1 resolves with ⟨_, found, _⟩
          cases found.symm.trans (text?_eq_some_iff.1 otherResolves)
      | _ => cases otherShared
  | _ => cases isShared

/-- Says that an index of a pool may be the answer to a call: it resolves to what the call was
given, or it is zero because no index is left. -/
def Answers (call : PoolCall) (pool : ConstantPool) (index : ConstantIndex) : Prop :=
  index = 0 ∧ pool.Full ∨ call.Resolves pool index

theorem Answers.grow {later : ConstantPool} (answers : call.Answers pool index)
    (grows : pool.Grows later) : call.Answers later index :=
  answers.imp (And.imp_right grows.full) grows.resolves

theorem Answers.resolves (answers : call.Answers pool index) (nonzero : index ≠ 0) :
    call.Resolves pool index :=
  answers.resolve_left fun zero => nonzero zero.1

/-- Where an index is left, none was refused before. -/
theorem Answers.resolves_of_not_full (answers : call.Answers pool index) (room : ¬pool.Full) :
    call.Resolves pool index :=
  answers.resolve_left fun zero => room zero.2

end PoolCall

namespace ConstantPool

/-- Says that a pool starts at index one and that what it shares is right. -/
structure Sound (pool : ConstantPool) : Prop where
  start_eq : pool.constants.start = 1
  answers {call : PoolCall} {index : ConstantIndex} :
    pool.shared? call = some index → call.Answers pool index

theorem sound_empty : empty.Sound := by
  refine ⟨rfl, ?_⟩
  intro call index found
  cases call <;> cases found

variable {pool : ConstantPool} {call other : PoolCall} {index : ConstantIndex}

theorem Sound.get?_zero (sound : pool.Sound) : pool.get? 0 = none := by
  cases found : pool.get? 0 with
  | none => rfl
  | some constant =>
      rcases get?_eq_some_iff.1 found with ⟨_, foundSlot⟩
      have bounds := OffsetVector.bounds_of_get? foundSlot
      rw [sound.start_eq] at bounds
      omega

@[simp]
theorem constants_share (pool : ConstantPool) (call : PoolCall) (index : ConstantIndex) :
    (pool.share call index).constants = pool.constants := by
  cases call <;> rfl

@[simp]
theorem get?_share (pool : ConstantPool) (call : PoolCall) (index position : ConstantIndex) :
    (pool.share call index).get? position = pool.get? position := by
  simp [get?]

theorem shared?_share (pool : ConstantPool) (call other : PoolCall) (index : ConstantIndex) :
    (pool.share call index).shared? other =
      if call.isShared = true ∧ other = call then some index else pool.shared? other := by
  cases call with
  | internText text =>
      cases other with
      | internText otherText =>
          by_cases same : otherText = text
          · simp [share, shared?, PoolCall.isShared, same]
          · simp [share, shared?, List.lookup_cons, beq_false_of_ne same, same]
      | _ => simp [share, shared?]
  | internClass className =>
      cases other with
      | internClass otherName =>
          by_cases same : otherName = className
          · simp [share, shared?, PoolCall.isShared, same]
          · simp [share, shared?, List.lookup_cons, beq_false_of_ne same, same]
      | _ => simp [share, shared?]
  | _ => simp [share, PoolCall.isShared]

theorem get?_pushShared (pool : ConstantPool) (call : PoolCall) (constant : Constant)
    (index : ConstantIndex) :
    (pool.pushShared call constant).2.get? index =
      if pool.constants.next = index then some constant else pool.get? index := by
  simp only [pushShared, get?_share]
  simp only [get?, push, OffsetVector.get?_push]
  split <;> rfl

theorem shared?_pushShared (pool : ConstantPool) (call other : PoolCall) (constant : Constant) :
    (pool.pushShared call constant).2.shared? other =
      if call.isShared = true ∧ other = call then some (pool.pushShared call constant).1
      else pool.shared? other := by
  have kept : (pool.push constant).2.shared? other = pool.shared? other := by
    cases other <;> rfl
  simp only [pushShared, shared?_share, kept]

theorem pushShared_of_full (full : pool.Full) (call : PoolCall) (constant : Constant) :
    (pool.pushShared call constant).1 = 0 :=
  if_neg (Nat.not_le_of_lt full)

theorem pushShared_of_not_full (room : ¬pool.Full) (call : PoolCall) (constant : Constant) :
    (pool.pushShared call constant).1 = pool.constants.next :=
  if_pos (Nat.le_of_not_lt room)

/-- Adding a constant and sharing its index loses nothing, unless an index was shared already. -/
theorem grows_pushShared (absent : pool.shared? call = none) (constant : Constant) :
    pool.Grows (pool.pushShared call constant).2 where
  next_le := by
    rw [pushShared, constants_share]
    exact Nat.le_add_right _ _
  get?_eq found := by
    rw [get?_pushShared, if_neg (Nat.ne_of_gt (lt_next_of_get? found)), found]
  shared {other _} found := by
    have ne : other ≠ call := by
      rintro rfl
      cases absent.symm.trans found
    rw [shared?_pushShared, if_neg fun same => ne same.2, found]
  shared_or_le found nonzero := by
    rw [shared?_pushShared] at found
    split at found
    · right
      cases found
      by_cases full : pool.Full
      · exact absurd (pushShared_of_full full call constant) nonzero
      · exact Nat.le_of_eq (pushShared_of_not_full full call constant).symm
    · exact Or.inl found

end ConstantPool

/-! ### What calls do -/

namespace PoolCall

open ConstantPool

variable {pool : ConstantPool} {call : PoolCall} {index : ConstantIndex}

theorem perform_of_shared (found : pool.shared? call = some index) :
    call.perform pool = (index, pool) := by
  cases call with
  | internText =>
      simp only [shared?] at found
      simp only [perform, ConstantPool.internText, found]
  | internClass =>
      simp only [shared?] at found
      simp only [perform, ConstantPool.internClass, found]
  | _ => cases found

theorem perform_of_not_shared (absent : pool.shared? call = none) :
    call.perform pool = (call.prepare pool).2.pushShared call (call.prepare pool).1 := by
  cases call with
  | internText =>
      simp only [shared?] at absent
      simp only [perform, ConstantPool.internText, absent]
      rfl
  | internClass =>
      simp only [shared?] at absent
      simp only [perform, ConstantPool.internClass, absent]
      rfl
  | _ => rfl

/-- Says that the last constant of a call, once it has an index, resolves to what the call was
given. -/
structure Prepared (call : PoolCall) (pool : ConstantPool) : Prop where
  sound : (call.prepare pool).2.Sound
  grows : pool.Grows (call.prepare pool).2
  absent : pool.shared? call = none → (call.prepare pool).2.shared? call = none
  resolves {after : ConstantPool} {index : ConstantIndex} :
    ¬(call.prepare pool).2.Full → (call.prepare pool).2.Grows after →
      after.get? index = some (call.prepare pool).1 → call.Resolves after index

/-- Says that a call keeps a pool sound and gives an answer. -/
structure Performed (call : PoolCall) (pool : ConstantPool) : Prop where
  sound : (call.perform pool).2.Sound
  grows : pool.Grows (call.perform pool).2
  answers : call.Answers (call.perform pool).2 (call.perform pool).1

theorem Prepared.performed (sound : pool.Sound) (prepared : call.Prepared pool) :
    call.Performed pool := by
  cases found : pool.shared? call with
  | some index =>
      have performs := perform_of_shared found
      constructor <;> rw [performs]
      · exact sound
      · exact Grows.refl pool
      · exact sound.answers found
  | none =>
      have performs := perform_of_not_shared found
      have grows := grows_pushShared (prepared.absent found) (call.prepare pool).1
      have answers : call.Answers (call.perform pool).2 (call.perform pool).1 := by
        rw [performs]
        by_cases full : (call.prepare pool).2.Full
        · exact Or.inl ⟨pushShared_of_full full _ _, grows.full full⟩
        · refine Or.inr (prepared.resolves full grows ?_)
          rw [get?_pushShared, if_pos (pushShared_of_not_full full _ _).symm]
      rw [← performs] at grows
      refine ⟨⟨?_, ?_⟩, prepared.grows.trans grows, answers⟩
      · rw [performs, pushShared, constants_share]
        exact prepared.sound.start_eq
      · intro other index foundOther
        rw [performs, shared?_pushShared, ← performs] at foundOther
        split at foundOther
        · next same =>
          cases foundOther
          rw [same.2]
          exact answers
        · exact (prepared.sound.answers foundOther).grow grows

section Preparing

variable (sound : pool.Sound)

include sound

theorem prepared_push (constant : Constant) : (push constant).Prepared pool where
  sound := sound
  grows := Grows.refl pool
  absent _ := rfl
  resolves _ _ found := found

theorem prepared_internText (text : String) : (internText text).Prepared pool where
  sound := sound
  grows := Grows.refl pool
  absent := id
  resolves _ _ found := text?_eq_some_iff.2 found

theorem performed_internText (text : String) : (internText text).Performed pool :=
  (prepared_internText sound text).performed sound

theorem prepared_internClass (className : String) : (internClass className).Prepared pool := by
  have text := performed_internText sound className
  refine ⟨text.sound, text.grows, ?_, ?_⟩
  · intro absent
    have kept : (pool.internText className).2.classes = pool.classes := by
      unfold ConstantPool.internText
      split <;> rfl
    simpa only [shared?, prepare, kept] using absent
  · intro after index room grows found
    exact className?_eq_some_iff.2
      ⟨_, found, grows.text? (text.answers.resolves_of_not_full room)⟩

theorem performed_internClass (className : String) : (internClass className).Performed pool :=
  (prepared_internClass sound className).performed sound

theorem prepared_addString (text : String) : (addString text).Prepared pool := by
  have performed := performed_internText sound text
  refine ⟨performed.sound, performed.grows, fun _ => rfl, ?_⟩
  intro after index room grows found
  exact ⟨_, found, grows.text? (performed.answers.resolves_of_not_full room)⟩

theorem prepared_addNameAndType (name descriptor : String) :
    (addNameAndType name descriptor).Prepared pool := by
  have first := performed_internText sound name
  have second := performed_internText first.sound descriptor
  refine ⟨second.sound, first.grows.trans second.grows, fun _ => rfl, ?_⟩
  intro after index room grows found
  have foundName := (first.answers.grow second.grows).resolves_of_not_full room
  have foundDescriptor := second.answers.resolves_of_not_full room
  exact nameAndType?_eq_some_iff.2
    ⟨_, _, found, grows.text? foundName, grows.text? foundDescriptor⟩

theorem performed_addNameAndType (name descriptor : String) :
    (addNameAndType name descriptor).Performed pool :=
  (prepared_addNameAndType sound name descriptor).performed sound

/-- References to fields and to methods are prepared alike. -/
theorem prepared_member (owner name descriptor : String) {ownerRef : ConstantIndex × ConstantPool}
    (isClass : ownerRef = pool.internClass owner) {pair : ConstantIndex × ConstantPool}
    (isPair : pair = ownerRef.2.addNameAndType name descriptor) :
    pair.2.Sound ∧ pool.Grows pair.2 ∧
      ∀ {after : ConstantPool} {index : ConstantIndex}, ¬pair.2.Full → pair.2.Grows after →
        (after.get? index = some (.fieldRef ownerRef.1 pair.1) ∨
          ∃ isInterface, after.get? index = some (.methodRef ownerRef.1 pair.1 isInterface)) →
        after.memberRef? index = some ⟨owner, name, descriptor⟩ := by
  subst isClass isPair
  have first := performed_internClass sound owner
  have second := performed_addNameAndType first.sound name descriptor
  refine ⟨second.sound, first.grows.trans second.grows, ?_⟩
  intro after index room grows found
  have foundOwner := (first.answers.grow second.grows).resolves_of_not_full room
  have foundPair := second.answers.resolves_of_not_full room
  exact memberRef?_eq_some_iff.2
    ⟨_, _, found, grows.className? foundOwner, grows.nameAndType? foundPair⟩

theorem prepared_addFieldRef (owner name descriptor : String) :
    (addFieldRef owner name descriptor).Prepared pool := by
  rcases prepared_member sound owner name descriptor rfl rfl with ⟨isSound, grows, resolves⟩
  exact ⟨isSound, grows, fun _ => rfl, fun room later found => resolves room later (.inl found)⟩

theorem prepared_addMethodRef (owner name descriptor : String) (isInterface : Bool) :
    (addMethodRef owner name descriptor isInterface).Prepared pool := by
  rcases prepared_member sound owner name descriptor rfl rfl with ⟨isSound, grows, resolves⟩
  exact ⟨isSound, grows, fun _ => rfl,
    fun room later found => resolves room later (.inr ⟨isInterface, found⟩)⟩

theorem prepared_addCallSite (bootstrap : Nat) (name descriptor : String) :
    (addCallSite bootstrap name descriptor).Prepared pool := by
  have performed := performed_addNameAndType sound name descriptor
  refine ⟨performed.sound, performed.grows, fun _ => rfl, ?_⟩
  intro after index room grows found
  exact callSite?_eq_some_iff.2
    ⟨_, _, found, grows.nameAndType? (performed.answers.resolves_of_not_full room)⟩

theorem prepared (call : PoolCall) : call.Prepared pool := by
  cases call with
  | push constant => exact prepared_push sound constant
  | internText text => exact prepared_internText sound text
  | internClass className => exact prepared_internClass sound className
  | addString text => exact prepared_addString sound text
  | addNameAndType name descriptor => exact prepared_addNameAndType sound name descriptor
  | addFieldRef owner name descriptor => exact prepared_addFieldRef sound owner name descriptor
  | addMethodRef owner name descriptor isInterface =>
      exact prepared_addMethodRef sound owner name descriptor isInterface
  | addCallSite bootstrap name descriptor =>
      exact prepared_addCallSite sound bootstrap name descriptor

theorem performed (call : PoolCall) : call.Performed pool :=
  (prepared sound call).performed sound

/-- A call that nothing is shared with gives an index that no call has given before, and shares it
with calls of the same kind only. -/
theorem fresh_perform (absent : pool.shared? call = none)
    (nonzero : (call.perform pool).1 ≠ 0) :
    pool.constants.next ≤ (call.perform pool).1 ∧
      ∀ other, (call.perform pool).2.shared? other = some (call.perform pool).1 →
        other = call ∧ call.isShared = true := by
  have prepared := prepared sound call
  have performs := perform_of_not_shared absent
  have room : ¬(call.prepare pool).2.Full := by
    intro full
    rw [performs] at nonzero
    exact nonzero (pushShared_of_full full _ _)
  have isNext : (call.perform pool).1 = (call.prepare pool).2.constants.next := by
    rw [performs]
    exact pushShared_of_not_full room _ _
  refine ⟨?_, ?_⟩
  · rw [isNext]
    exact prepared.grows.next_le
  · intro other found
    rw [performs, shared?_pushShared, ← performs] at found
    split at found
    · next same => exact ⟨same.2, same.1⟩
    · -- What was shared before has an index that was given before.
      have resolves := (prepared.sound.answers found).resolves nonzero
      rw [isNext] at resolves
      exact absurd resolves.lt_next (Nat.lt_irrefl _)

end Preparing

theorem shared?_perform (isShared : call.isShared = true) :
    (call.perform pool).2.shared? call = some (call.perform pool).1 := by
  cases found : pool.shared? call with
  | some index => rw [perform_of_shared found, found]
  | none =>
      rw [perform_of_not_shared found, shared?_pushShared, if_pos ⟨isShared, rfl⟩]

theorem isShared_of_shared? (found : pool.shared? call = some index) : call.isShared = true := by
  cases call with
  | internText | internClass => rfl
  | _ => cases found

end PoolCall

/-! ### Sequences of calls -/

namespace ConstantPool

open PoolCall

/-- The pool after some calls, one after the other. -/
def after (pool : ConstantPool) (calls : List PoolCall) : ConstantPool :=
  calls.foldl (fun pool call => (call.perform pool).2) pool

variable {pool : ConstantPool} {call other : PoolCall}

theorem after_append (pool : ConstantPool) (earlier : List PoolCall) (call : PoolCall)
    (later : List PoolCall) :
    pool.after (earlier ++ call :: later) =
      (call.perform (pool.after earlier)).2.after later := by
  simp only [after, List.foldl_append, List.foldl_cons]

theorem Sound.after (sound : pool.Sound) (calls : List PoolCall) :
    (pool.after calls).Sound ∧ pool.Grows (pool.after calls) := by
  induction calls generalizing pool with
  | nil => exact ⟨sound, Grows.refl pool⟩
  | cons call calls ih =>
      have performed := performed sound call
      rcases ih performed.sound with ⟨soundAfter, grows⟩
      exact ⟨soundAfter, performed.grows.trans grows⟩

/-- No index is given twice, but for a text or a class that is asked for again. -/
theorem Sound.eq_of_index_eq (sound : pool.Sound) (later : List PoolCall)
    (nonzero : (call.perform pool).1 ≠ 0)
    (same : (other.perform ((call.perform pool).2.after later)).1 = (call.perform pool).1) :
    other = call ∧ call.isShared = true := by
  have performed := performed sound call
  rcases performed.sound.after later with ⟨soundAfter, grows⟩
  have resolves := performed.answers.resolves nonzero
  cases found : ((call.perform pool).2.after later).shared? other with
  | none =>
      have isNew := (fresh_perform soundAfter found (same ▸ nonzero)).1
      rw [same] at isNew
      exact absurd resolves.lt_next (Nat.not_lt_of_le (Nat.le_trans grows.next_le isNew))
  | some index =>
      rw [perform_of_shared found] at same
      subst same
      rcases grows.shared_or_le found nonzero with foundBefore | isNew
      · cases foundFirst : pool.shared? call with
        | none => exact (fresh_perform sound foundFirst nonzero).2 other foundBefore
        | some _ =>
            have isShared := isShared_of_shared? foundFirst
            have otherResolves := (performed.sound.answers foundBefore).resolves nonzero
            exact ⟨Resolves.unique isShared (isShared_of_shared? foundBefore) resolves
              otherResolves, isShared⟩
      · exact absurd resolves.lt_next (Nat.not_lt_of_le isNew)

theorem get?_eq_none_inside {index : ConstantIndex} {constant : Constant}
    (found : pool.get? index = some constant) (wide : width constant = 2) :
    pool.get? (index + 1) = none := by
  rcases get?_eq_some_iff.1 found with ⟨_, foundSlot⟩
  have inside := OffsetVector.get?_eq_none_inside width_constant_pos foundSlot
    (Nat.lt_succ_self index) (wide ▸ Nat.lt_succ_self (index + 1))
  rw [get?, inside, Option.map_none]

/-- In a pool that is built by calls, zero and the second index of a wide constant never resolve,
and constants have indices of their own. For each of the calls, the index that it gave resolves to
what it was given, and no other call gives that index; zero is given only if no index is left. A
text or a class that is asked for again has the same index, and the pool stays as it is. -/
theorem references_resolve (calls : List PoolCall) :
    (empty.after calls).get? 0 = none ∧
      (∀ index value, (empty.after calls).get? index = some (.long value) →
        (empty.after calls).get? (index + 1) = none) ∧
      (∀ index bits, (empty.after calls).get? index = some (.double bits) →
        (empty.after calls).get? (index + 1) = none) ∧
      ((empty.after calls).constants.offsets.map Prod.fst).Pairwise (· < ·) ∧
      ∀ earlier call later, calls = earlier ++ call :: later →
        ((call.perform (empty.after earlier)).1 = 0 →
          (call.perform (empty.after earlier)).2.Full) ∧
        ((call.perform (empty.after earlier)).1 ≠ 0 →
          call.Resolves (empty.after calls) (call.perform (empty.after earlier)).1 ∧
          ∀ other : PoolCall, (other.perform (empty.after calls)).1 =
              (call.perform (empty.after earlier)).1 →
            other = call ∧ call.isShared = true) ∧
        (call.isShared = true →
          call.perform (empty.after calls) =
            ((call.perform (empty.after earlier)).1, empty.after calls)) := by
  refine ⟨(sound_empty.after calls).1.get?_zero, ?_, ?_,
    OffsetVector.pairwise_offsets width_constant_pos _, ?_⟩
  · intro index value found
    exact get?_eq_none_inside found rfl
  · intro index bits found
    exact get?_eq_none_inside found rfl
  · rintro earlier call later rfl
    have sound := (sound_empty.after earlier).1
    have performed := performed sound call
    have grows := (performed.sound.after later).2
    rw [after_append]
    refine ⟨?_, ?_, ?_⟩
    · intro zero
      rcases performed.answers with ⟨_, full⟩ | resolves
      · exact full
      · rcases (zero ▸ resolves).exists_get? with ⟨constant, found⟩
        cases performed.sound.get?_zero.symm.trans found
    · intro nonzero
      refine ⟨grows.resolves (performed.answers.resolves nonzero), ?_⟩
      intro other same
      exact sound.eq_of_index_eq later nonzero same
    · intro isShared
      exact perform_of_shared (grows.shared (shared?_perform isShared))

/-- Calls that ask for a field of a class that was asked for before, after a wide constant. -/
def fieldCalls : List PoolCall :=
  [.push (.long 7), .internClass "A", .addFieldRef "A" "x" "J"]

theorem references_resolve_fieldCalls :
    (empty.after fieldCalls).get? 2 = none ∧
      (empty.after fieldCalls).className? 4 = some "A" ∧
      (empty.after fieldCalls).memberRef? 8 = some ⟨"A", "x", "J"⟩ := by
  rcases references_resolve fieldCalls with ⟨_, wide, _, _, calls⟩
  refine ⟨wide 1 7 (by decide +kernel), ?_, ?_⟩
  · have index : ((PoolCall.internClass "A").perform (empty.after [.push (.long 7)])).1 = 4 := by
      decide +kernel
    have resolves := (calls [.push (.long 7)] (.internClass "A") [.addFieldRef "A" "x" "J"] rfl).2.1
    rw [index] at resolves
    exact (resolves (by decide)).1
  · have index : ((PoolCall.addFieldRef "A" "x" "J").perform
        (empty.after [.push (.long 7), .internClass "A"])).1 = 8 := by
      decide +kernel
    have resolves :=
      (calls [.push (.long 7), .internClass "A"] (.addFieldRef "A" "x" "J") [] rfl).2.1
    rw [index] at resolves
    exact (resolves (by decide)).1

end ConstantPool

end StackFlow
