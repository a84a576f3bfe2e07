import Mathlib.Data.List.Induction
import Mathlib.Data.List.Nodup
import Mathlib.Order.Bounds.Basic
import StackFlow.Locals

/-!
# Registered names of local variables

A name comes from the table of the method or was registered, and the table goes first. Where it has
no variable, a load takes the nearest name registered for its slot up to its offset, and a store one
that is registered at its offset. Registered names are kept in a list, in which no two are for the
same slot and offset (`LocalNames.Distinct`), so both look-ups depend on which names are in the list
and not on their order. Which names these are follows from the calls that register them: those that
no later call replaces (`RegisteredName.Last`).
-/

namespace StackFlow

/-- Where a name is registered: its slot and its offset. -/
def RegisteredName.place (entry : RegisteredName) : Nat × Nat := (entry.slot, entry.offset)

theorem RegisteredName.place_eq_iff {entry : RegisteredName} {slot offset : Nat} :
    entry.place = (slot, offset) ↔ entry.slot = slot ∧ entry.offset = offset :=
  Prod.mk.injEq _ _ _ _ ▸ Iff.rfl

namespace LocalNames

variable {names : LocalNames} {slot offset : Nat} {name : String} {entry : RegisteredName}

/-! ### Registration -/

/-- Says that no two names are registered for the same slot and offset. -/
def Distinct (names : LocalNames) : Prop := (names.registered.map RegisteredName.place).Nodup

theorem registered_register (names : LocalNames) (slot offset : Nat) (name : String) :
    (names.register slot offset name).registered =
      ⟨slot, offset, name⟩ :: names.registered.filter (·.place ≠ (slot, offset)) := by
  simp [register, RegisteredName.place, Bool.beq_eq_decide_eq]

theorem mem_register :
    entry ∈ (names.register slot offset name).registered ↔
      entry = ⟨slot, offset, name⟩ ∨ entry ∈ names.registered ∧ entry.place ≠ (slot, offset) := by
  simp [registered_register]

theorem Distinct.eq_of_place_eq (distinct : names.Distinct) {other : RegisteredName}
    (member : entry ∈ names.registered) (otherMember : other ∈ names.registered)
    (same : entry.place = other.place) : entry = other :=
  List.inj_on_of_nodup_map distinct member otherMember same

theorem Distinct.register (distinct : names.Distinct) (slot offset : Nat) (name : String) :
    (names.register slot offset name).Distinct := by
  rw [Distinct, registered_register, List.map_cons, List.nodup_cons]
  refine ⟨?_, distinct.sublist (List.filter_sublist.map _)⟩
  intro kept
  rcases List.mem_map.1 kept with ⟨entry, member, isPlace⟩
  have elsewhere := (List.mem_filter.1 member).2
  exact of_decide_eq_true elsewhere isPlace

/-! ### Look-ups -/

theorem registeredAt?_eq_none_iff : names.registeredAt? slot offset = none ↔
    ∀ entry ∈ names.registered, entry.place ≠ (slot, offset) := by
  simp [registeredAt?, RegisteredName.place]

theorem mem_of_registeredAt? (found : names.registeredAt? slot offset = some entry) :
    entry ∈ names.registered ∧ entry.place = (slot, offset) := by
  have matching := List.find?_some found
  simp only [Bool.and_eq_true, beq_iff_eq] at matching
  exact ⟨List.mem_of_find?_eq_some found, RegisteredName.place_eq_iff.2 matching⟩

theorem registeredAt?_eq_some_iff (distinct : names.Distinct) :
    names.registeredAt? slot offset = some entry ↔
      entry ∈ names.registered ∧ entry.place = (slot, offset) := by
  refine ⟨mem_of_registeredAt?, ?_⟩
  rintro ⟨member, isPlace⟩
  cases found : names.registeredAt? slot offset with
  | none => exact absurd isPlace (registeredAt?_eq_none_iff.1 found entry member)
  | some other =>
      rcases mem_of_registeredAt? found with ⟨otherMember, isOtherPlace⟩
      rw [distinct.eq_of_place_eq member otherMember (isPlace.trans isOtherPlace.symm)]

theorem exists_later (best : Option RegisteredName) (entry : RegisteredName) :
    ∃ kept, later best entry = some kept ∧ kept ∈ best.toList ++ [entry] ∧
      ∀ other ∈ best.toList ++ [entry], other.offset ≤ kept.offset := by
  cases best with
  | none => exact ⟨entry, rfl, by simp, by simp⟩
  | some current =>
      by_cases isLater : current.offset ≤ entry.offset
      · exact ⟨entry, by simp [later, isLater], by simp, by simp [isLater]⟩
      · exact ⟨current, by simp [later, isLater], by simp, by simp; omega⟩

theorem greatest_of_foldl_later {best : Option RegisteredName} {entries : List RegisteredName}
    (found : entries.foldl later best = some entry) :
    entry ∈ best.toList ++ entries ∧
      ∀ other ∈ best.toList ++ entries, other.offset ≤ entry.offset := by
  induction entries generalizing best with
  | nil =>
      cases found
      simp
  | cons first entries ih =>
      rcases exists_later best first with ⟨kept, isKept, keptMember, keptGreatest⟩
      rw [List.foldl_cons, isKept] at found
      rcases ih found with ⟨member, greatest⟩
      rw [List.append_cons]
      simp only [Option.toList_some, List.singleton_append, List.mem_cons,
        forall_eq_or_imp] at member greatest
      constructor
      · rcases member with rfl | member
        · exact List.mem_append_left _ keptMember
        · exact List.mem_append_right _ member
      · intro other otherMember
        rcases List.mem_append.1 otherMember with before | after
        · exact Nat.le_trans (keptGreatest other before) greatest.1
        · exact greatest.2 other after

theorem foldl_later_eq_none_iff {best : Option RegisteredName} {entries : List RegisteredName} :
    entries.foldl later best = none ↔ best = none ∧ entries = [] := by
  induction entries generalizing best with
  | nil => simp
  | cons first entries ih =>
      rcases exists_later best first with ⟨kept, isKept, _⟩
      simp [ih, isKept]

/-- Says that a name is registered for a slot at an offset up to the given one. -/
def UpTo (slot offset : Nat) (entry : RegisteredName) : Prop :=
  entry.slot = slot ∧ entry.offset ≤ offset

theorem registeredUpTo?_eq_none_iff : names.registeredUpTo? slot offset = none ↔
    ¬∃ entry ∈ names.registered, UpTo slot offset entry := by
  simp [registeredUpTo?, foldl_later_eq_none_iff, UpTo]

theorem greatest_of_registeredUpTo? (found : names.registeredUpTo? slot offset = some entry) :
    entry ∈ names.registered ∧ UpTo slot offset entry ∧
      ∀ other ∈ names.registered, UpTo slot offset other → other.offset ≤ entry.offset := by
  rcases greatest_of_foldl_later found with ⟨member, greatest⟩
  simp only [Option.toList_none, List.nil_append, List.mem_filter, Bool.and_eq_true, beq_iff_eq,
    decide_eq_true_eq] at member greatest
  exact ⟨member.1, member.2, fun other registered upTo => greatest other ⟨registered, upTo⟩⟩

theorem registeredUpTo?_eq_some_iff (distinct : names.Distinct) :
    names.registeredUpTo? slot offset = some entry ↔
      entry ∈ names.registered ∧ UpTo slot offset entry ∧
        ∀ other ∈ names.registered, UpTo slot offset other → other.offset ≤ entry.offset := by
  refine ⟨greatest_of_registeredUpTo?, ?_⟩
  rintro ⟨member, upTo, greatest⟩
  cases found : names.registeredUpTo? slot offset with
  | none => exact absurd ⟨entry, member, upTo⟩ (registeredUpTo?_eq_none_iff.1 found)
  | some other =>
      rcases greatest_of_registeredUpTo? found with ⟨otherMember, otherUpTo, otherGreatest⟩
      have sameOffset : entry.offset = other.offset :=
        Nat.le_antisymm (otherGreatest entry member upTo) (greatest other otherMember otherUpTo)
      have samePlace : entry.place = other.place :=
        Prod.ext (upTo.1.trans otherUpTo.1.symm) sameOffset
      rw [distinct.eq_of_place_eq member otherMember samePlace]

theorem loadName?_of_resolved {entry : LocalVariable}
    (resolved : names.table.resolve? slot offset = some entry) :
    names.loadName? slot offset = some entry.name := by
  simp [loadName?, resolved]

theorem storeName?_of_resolved {entry : LocalVariable}
    (resolved : names.table.resolveStore? slot offset = some entry) :
    names.storeName? slot offset = some entry.name := by
  simp [storeName?, resolved]

theorem loadName?_of_unresolved (unresolved : names.table.resolve? slot offset = none) :
    names.loadName? slot offset =
      (names.registeredUpTo? slot offset).map RegisteredName.name := by
  simp [loadName?, unresolved]

theorem storeName?_of_unresolved (unresolved : names.table.resolveStore? slot offset = none) :
    names.storeName? slot offset =
      (names.registeredAt? slot offset).map RegisteredName.name := by
  simp [storeName?, unresolved]

/-! ### What a registration changes -/

variable {newSlot start : Nat} {newName : String}

theorem registeredAt?_register_of_ne (distinct : names.Distinct)
    (elsewhere : (newSlot, start) ≠ (slot, offset)) :
    (names.register newSlot start newName).registeredAt? slot offset =
      names.registeredAt? slot offset := by
  apply Option.ext
  intro entry
  rw [registeredAt?_eq_some_iff (distinct.register ..), registeredAt?_eq_some_iff distinct,
    mem_register]
  constructor
  · rintro ⟨rfl | ⟨member, _⟩, isPlace⟩
    · exact absurd isPlace elsewhere
    · exact ⟨member, isPlace⟩
  · rintro ⟨member, isPlace⟩
    exact ⟨.inr ⟨member, isPlace ▸ elsewhere.symm⟩, isPlace⟩

/-- A registration out of reach changes nothing, and neither does one that comes before another that
is in reach. -/
theorem registeredUpTo?_register (distinct : names.Distinct)
    (hidden : newSlot = slot → start ≤ offset →
      ∃ entry ∈ names.registered, UpTo slot offset entry ∧ start < entry.offset) :
    (names.register newSlot start newName).registeredUpTo? slot offset =
      names.registeredUpTo? slot offset := by
  apply Option.ext
  intro entry
  rw [registeredUpTo?_eq_some_iff (distinct.register ..), registeredUpTo?_eq_some_iff distinct]
  constructor
  · rintro ⟨member, upTo, greatest⟩
    rcases mem_register.1 member with rfl | ⟨old, _⟩
    · -- The new name is not the nearest, since a later one is in reach.
      rcases hidden upTo.1 upTo.2 with ⟨other, otherMember, otherUpTo, isLater⟩
      have elsewhere : other.place ≠ (newSlot, start) := by
        simp only [ne_eq, RegisteredName.place_eq_iff]
        omega
      have notLater := greatest other (mem_register.2 (.inr ⟨otherMember, elsewhere⟩)) otherUpTo
      simp only at notLater
      omega
    · refine ⟨old, upTo, ?_⟩
      intro other otherMember otherUpTo
      by_cases replaced : other.place = (newSlot, start)
      · rw [RegisteredName.place_eq_iff] at replaced
        rw [replaced.2]
        exact greatest ⟨newSlot, start, newName⟩ (mem_register.2 (.inl rfl))
          ⟨replaced.1.symm.trans otherUpTo.1, replaced.2 ▸ otherUpTo.2⟩
      · exact greatest other (mem_register.2 (.inr ⟨otherMember, replaced⟩)) otherUpTo
  · rintro ⟨member, upTo, greatest⟩
    have isLater : newSlot = slot → start ≤ offset → start < entry.offset := by
      intro isSlot inReach
      rcases hidden isSlot inReach with ⟨other, otherMember, otherUpTo, isLater⟩
      exact Nat.lt_of_lt_of_le isLater (greatest other otherMember otherUpTo)
    refine ⟨mem_register.2 (.inr ⟨member, ?_⟩), upTo, ?_⟩
    · rw [ne_eq, RegisteredName.place_eq_iff]
      rintro ⟨isSlot, isStart⟩
      have := isLater (isSlot.symm.trans upTo.1) (isStart ▸ upTo.2)
      omega
    · intro other otherMember otherUpTo
      rcases mem_register.1 otherMember with rfl | ⟨old, _⟩
      · exact Nat.le_of_lt (isLater otherUpTo.1 otherUpTo.2)
      · exact greatest other old otherUpTo

theorem visible_of_loadName?_ne (distinct : names.Distinct)
    (changed : (names.register newSlot start newName).loadName? slot offset ≠
      names.loadName? slot offset) :
    newSlot = slot ∧ start ≤ offset ∧ names.table.resolve? slot offset = none ∧
      ¬∃ entry ∈ names.registered, UpTo slot offset entry ∧ start < entry.offset := by
  cases resolved : names.table.resolve? slot offset with
  | some entry =>
      have stays : (names.register newSlot start newName).table.resolve? slot offset =
          some entry := resolved
      rw [loadName?_of_resolved stays, loadName?_of_resolved resolved] at changed
      exact absurd rfl changed
  | none =>
      rw [loadName?_of_unresolved resolved] at changed
      have visible : ¬(newSlot = slot → start ≤ offset →
          ∃ entry ∈ names.registered, UpTo slot offset entry ∧ start < entry.offset) := by
        intro hidden
        apply changed
        rw [← registeredUpTo?_register distinct hidden]
        exact loadName?_of_unresolved resolved
      rw [Classical.not_imp, Classical.not_imp] at visible
      exact ⟨visible.1, visible.2.1, rfl, visible.2.2⟩

theorem place_of_storeName?_ne (distinct : names.Distinct)
    (changed : (names.register newSlot start newName).storeName? slot offset ≠
      names.storeName? slot offset) :
    (newSlot, start) = (slot, offset) ∧ names.table.resolveStore? slot offset = none := by
  cases resolved : names.table.resolveStore? slot offset with
  | some entry =>
      have stays : (names.register newSlot start newName).table.resolveStore? slot offset =
          some entry := resolved
      rw [storeName?_of_resolved stays, storeName?_of_resolved resolved] at changed
      exact absurd rfl changed
  | none =>
      refine ⟨?_, rfl⟩
      by_contra elsewhere
      apply changed
      rw [storeName?_of_unresolved resolved, ← registeredAt?_register_of_ne distinct elsewhere]
      exact storeName?_of_unresolved resolved

end LocalNames

/-! ### Calls that register names -/

namespace RegisteredName

/-- Says that a call to register a name is one of the given calls, and the last for its slot and
offset. -/
def Last (calls : List RegisteredName) (call : RegisteredName) : Prop :=
  ∃ earlier later, calls = earlier ++ call :: later ∧ ∀ other ∈ later, other.place ≠ call.place

variable {calls : List RegisteredName} {call newest : RegisteredName} {slot offset : Nat}

theorem last_append_singleton :
    Last (calls ++ [newest]) call ↔
      call = newest ∨ Last calls call ∧ call.place ≠ newest.place := by
  constructor
  · rintro ⟨earlier, later, isCalls, replaced⟩
    induction later using List.reverseRecOn with
    | nil => exact .inl (List.singleton_injective (List.append_inj' isCalls rfl).2).symm
    | append_singleton later last _ =>
        rw [← List.cons_append, ← List.append_assoc] at isCalls
        rcases List.append_inj' isCalls rfl with ⟨isEarlier, isLast⟩
        cases isLast
        refine .inr ⟨⟨earlier, later, isEarlier, ?_⟩, ?_⟩
        · intro other member
          exact replaced other (List.mem_append_left _ member)
        · exact (replaced newest (by simp)).symm
  · rintro (rfl | ⟨⟨earlier, later, rfl, replaced⟩, elsewhere⟩)
    · exact ⟨calls, [], rfl, by simp⟩
    · refine ⟨earlier, later ++ [newest], by simp, ?_⟩
      intro other member
      rcases List.mem_append.1 member with isLater | isNewest
      · exact replaced other isLater
      · rw [List.mem_singleton.1 isNewest]
        exact elsewhere.symm

theorem exists_last_iff :
    (∃ name, Last calls ⟨slot, offset, name⟩) ↔ ∃ call ∈ calls, call.place = (slot, offset) := by
  induction calls using List.reverseRecOn with
  | nil => simp [Last]
  | append_singleton calls newest ih =>
      simp only [last_append_singleton, List.mem_append, List.mem_singleton]
      constructor
      · rintro ⟨name, rfl | ⟨isLast, _⟩⟩
        · exact ⟨_, .inr rfl, rfl⟩
        · rcases ih.1 ⟨name, isLast⟩ with ⟨call, member, isPlace⟩
          exact ⟨call, .inl member, isPlace⟩
      · rintro ⟨call, member, isPlace⟩
        by_cases replaced : newest.place = (slot, offset)
        · rw [place_eq_iff] at replaced
          exact ⟨newest.name, .inl (by rw [← replaced.1, ← replaced.2])⟩
        · have earlier : call ∈ calls := by
            rcases member with member | rfl
            · exact member
            · exact absurd isPlace replaced
          rcases ih.2 ⟨call, earlier, isPlace⟩ with ⟨name, isLast⟩
          exact ⟨name, .inr ⟨isLast, Ne.symm replaced⟩⟩

end RegisteredName

namespace LocalNames

open RegisteredName

/-- The names after calls that register some. -/
def afterCalls (table : LocalTable) (calls : List RegisteredName) : LocalNames :=
  calls.foldl (fun names call => names.register call.slot call.offset call.name) { table }

theorem afterCalls_append_singleton (table : LocalTable) (calls : List RegisteredName)
    (call : RegisteredName) :
    afterCalls table (calls ++ [call]) =
      (afterCalls table calls).register call.slot call.offset call.name := by
  simp [afterCalls]

variable (table : LocalTable) (calls : List RegisteredName) {slot offset : Nat} {name : String}

theorem table_afterCalls : (afterCalls table calls).table = table := by
  induction calls using List.reverseRecOn with
  | nil => rfl
  | append_singleton calls call ih => rw [afterCalls_append_singleton, register, ih]

theorem distinct_afterCalls : (afterCalls table calls).Distinct := by
  induction calls using List.reverseRecOn with
  | nil => exact List.nodup_nil
  | append_singleton calls call ih =>
      rw [afterCalls_append_singleton]
      exact ih.register ..

/-- A name stays registered unless a later call replaces it. -/
theorem mem_registered_afterCalls {entry : RegisteredName} :
    entry ∈ (afterCalls table calls).registered ↔ Last calls entry := by
  induction calls using List.reverseRecOn with
  | nil => simp [afterCalls, Last]
  | append_singleton calls call ih =>
      rw [afterCalls_append_singleton, mem_register, last_append_singleton, ih]
      rfl

/-- Names are registered where calls register them. -/
theorem exists_registered_afterCalls (holds : Nat × Nat → Prop) :
    (∃ entry ∈ (afterCalls table calls).registered, holds entry.place) ↔
      ∃ call ∈ calls, holds call.place := by
  constructor
  · rintro ⟨entry, member, placeHolds⟩
    have isLast := (mem_registered_afterCalls table calls).1 member
    rcases exists_last_iff.1 ⟨entry.name, isLast⟩ with ⟨call, called, isPlace⟩
    exact ⟨call, called, isPlace ▸ placeHolds⟩
  · rintro ⟨call, called, placeHolds⟩
    rcases exists_last_iff.2 ⟨call, called, rfl⟩ with ⟨name, isLast⟩
    exact ⟨_, (mem_registered_afterCalls table calls).2 isLast, placeHolds⟩

theorem registeredAt?_afterCalls :
    ((afterCalls table calls).registeredAt? slot offset).map RegisteredName.name = some name ↔
      Last calls ⟨slot, offset, name⟩ := by
  simp only [Option.map_eq_some_iff, registeredAt?_eq_some_iff (distinct_afterCalls table calls),
    mem_registered_afterCalls, place_eq_iff]
  constructor
  · rintro ⟨entry, ⟨isLast, rfl, rfl⟩, rfl⟩
    exact isLast
  · intro isLast
    exact ⟨_, ⟨isLast, rfl, rfl⟩, rfl⟩

/-- The offsets up to the given one at which calls register names for a slot. -/
def offsetsUpTo (calls : List RegisteredName) (slot offset : Nat) : Set Nat :=
  {start | start ≤ offset ∧ ∃ call ∈ calls, call.place = (slot, start)}

theorem registeredUpTo?_afterCalls :
    ((afterCalls table calls).registeredUpTo? slot offset).map RegisteredName.name = some name ↔
      ∃ start, IsGreatest (offsetsUpTo calls slot offset) start ∧
        Last calls ⟨slot, start, name⟩ := by
  have registered (start : Nat) := exists_registered_afterCalls table calls (· = (slot, start))
  simp only [Option.map_eq_some_iff, registeredUpTo?_eq_some_iff (distinct_afterCalls table calls)]
  constructor
  · rintro ⟨entry, ⟨member, upTo, greatest⟩, rfl⟩
    rcases upTo with ⟨rfl, inReach⟩
    refine ⟨entry.offset, ⟨⟨inReach, (registered _).1 ⟨entry, member, rfl⟩⟩, ?_⟩, ?_⟩
    · rintro start ⟨startInReach, called⟩
      rcases (registered _).2 called with ⟨other, otherMember, isPlace⟩
      rw [place_eq_iff] at isPlace
      rw [← isPlace.2]
      exact greatest other otherMember ⟨isPlace.1, isPlace.2 ▸ startInReach⟩
    · exact (mem_registered_afterCalls table calls).1 member
  · rintro ⟨start, ⟨⟨inReach, _⟩, greatest⟩, isLast⟩
    refine ⟨⟨slot, start, name⟩, ⟨?_, ⟨rfl, inReach⟩, ?_⟩, rfl⟩
    · exact (mem_registered_afterCalls table calls).2 isLast
    · rintro other otherMember ⟨rfl, otherInReach⟩
      exact greatest ⟨otherInReach, (registered _).1 ⟨other, otherMember, rfl⟩⟩

/-- Registered names only fill the gaps of the table. Where the table has a variable, loads and
stores take its name, whatever was registered. Elsewhere a load takes the last name registered at
the greatest offset up to its own at which its slot has one, and a store the last name registered at
its own offset. So a further registration can only change the name of a load of its slot from its
offset on, up to the next offset with a registered name, and that of a store at its offset. -/
theorem registered_fill_gaps (table : LocalTable) (calls : List RegisteredName)
    (slot offset : Nat) :
    (∀ entry, table.resolve? slot offset = some entry →
      (afterCalls table calls).loadName? slot offset = some entry.name ∧
        (afterCalls table calls).storeName? slot offset = some entry.name) ∧
    (table.resolve? slot offset = none →
      (∀ name, (afterCalls table calls).loadName? slot offset = some name ↔
        ∃ start, IsGreatest (offsetsUpTo calls slot offset) start ∧
          Last calls ⟨slot, start, name⟩) ∧
      ((afterCalls table calls).loadName? slot offset = none ↔
        ∀ call ∈ calls, call.slot = slot → offset < call.offset)) ∧
    (table.resolveStore? slot offset = none →
      (∀ name, (afterCalls table calls).storeName? slot offset = some name ↔
        Last calls ⟨slot, offset, name⟩) ∧
      ((afterCalls table calls).storeName? slot offset = none ↔
        ∀ call ∈ calls, call.place ≠ (slot, offset))) ∧
    ∀ newest : RegisteredName,
      ((afterCalls table (calls ++ [newest])).loadName? slot offset ≠
          (afterCalls table calls).loadName? slot offset →
        newest.slot = slot ∧ newest.offset ≤ offset ∧ table.resolve? slot offset = none ∧
          ∀ call ∈ calls, call.slot = slot →
            ¬(newest.offset < call.offset ∧ call.offset ≤ offset)) ∧
      ((afterCalls table (calls ++ [newest])).storeName? slot offset ≠
          (afterCalls table calls).storeName? slot offset →
        newest.place = (slot, offset) ∧ table.resolveStore? slot offset = none) := by
  have isTable := table_afterCalls table calls
  have distinct := distinct_afterCalls table calls
  have places := exists_registered_afterCalls table calls
  refine ⟨?_, ?_, ?_, ?_⟩
  · intro entry resolved
    have resolvedStore : table.resolveStore? slot offset = some entry := by
      simp [LocalTable.resolveStore?, resolved]
    rw [← isTable] at resolved resolvedStore
    exact ⟨loadName?_of_resolved resolved, storeName?_of_resolved resolvedStore⟩
  · intro unresolved
    rw [← isTable] at unresolved
    rw [loadName?_of_unresolved unresolved]
    refine ⟨fun name => registeredUpTo?_afterCalls table calls, ?_⟩
    rw [Option.map_eq_none_iff, registeredUpTo?_eq_none_iff]
    refine (not_congr (places fun place => place.1 = slot ∧ place.2 ≤ offset)).trans ?_
    simp [RegisteredName.place]
  · intro unresolved
    rw [← isTable] at unresolved
    rw [storeName?_of_unresolved unresolved]
    refine ⟨fun name => registeredAt?_afterCalls table calls, ?_⟩
    rw [Option.map_eq_none_iff, registeredAt?_eq_none_iff]
    simpa using not_congr (places (· = (slot, offset)))
  · intro newest
    rw [afterCalls_append_singleton]
    constructor
    · intro changed
      rcases visible_of_loadName?_ne distinct changed with ⟨isSlot, inReach, unresolved, visible⟩
      refine ⟨isSlot, inReach, isTable ▸ unresolved, ?_⟩
      rintro call called rfl ⟨isLater, callInReach⟩
      apply visible
      exact (places fun place => (place.1 = call.slot ∧ place.2 ≤ offset) ∧
        newest.offset < place.2).2 ⟨call, called, ⟨rfl, callInReach⟩, isLater⟩
    · intro changed
      rw [← isTable]
      exact place_of_storeName?_ne distinct changed

/-- A table that leaves gaps between its variables. -/
def gappedTable : LocalTable :=
  [⟨0, 0, 20, "this", "LFoo;"⟩, ⟨1, 3, 10, "count", "I"⟩, ⟨1, 14, 6, "name", "Ljava/lang/String;"⟩]

/-- Calls that register names inside and outside of its gaps, one of them anew. -/
def gapCalls : List RegisteredName :=
  [⟨1, 1, "early"⟩, ⟨1, 13, "gap"⟩, ⟨0, 2, "shadowed"⟩, ⟨1, 13, "again"⟩, ⟨1, 30, "late"⟩]

theorem registered_fill_gaps_gapCalls :
    (afterCalls gappedTable gapCalls).loadName? 0 2 = some "this" ∧
      gappedTable.resolve? 1 25 = none ∧
      (afterCalls gappedTable gapCalls).loadName? 1 25 = some "again" ∧
      (∃ start, IsGreatest (offsetsUpTo gapCalls 1 25) start ∧ Last gapCalls ⟨1, start, "again"⟩) ∧
      (afterCalls gappedTable gapCalls).storeName? 1 25 = none ∧
      ∀ call ∈ gapCalls, call.slot = 1 → ¬(20 < call.offset ∧ call.offset ≤ 25) := by
  have resolved : gappedTable.resolve? 0 2 = some ⟨0, 0, 20, "this", "LFoo;"⟩ := by decide
  have loaded : (afterCalls gappedTable gapCalls).loadName? 1 25 = some "again" := by decide
  have changed : (afterCalls gappedTable (gapCalls ++ [⟨1, 20, "new"⟩])).loadName? 1 25 ≠
      (afterCalls gappedTable gapCalls).loadName? 1 25 := by decide
  rcases registered_fill_gaps gappedTable gapCalls 0 2 with ⟨named, _⟩
  rcases registered_fill_gaps gappedTable gapCalls 1 25 with ⟨_, unnamed, stored, frame⟩
  exact ⟨(named _ resolved).1, by decide, loaded, ((unnamed (by decide)).1 _).1 loaded,
    (stored (by decide)).2.2 (by decide), ((frame _).1 changed).2.2.2⟩

end LocalNames

end StackFlow
