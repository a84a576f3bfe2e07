/-!
# Offset vectors

An offset vector holds elements of different widths. The offset of an element is the start of the
vector plus the widths of the elements before it, so an element wider than one occupies offsets at
which nothing can be found. Operand stacks are measured this way in words, and constant pools are
indexed this way.

Slots are kept newest first together with their offsets. That the offsets are the ones described
above is part of the type (`LaidOut`), so a vector is determined by its start and its elements.
-/

namespace StackFlow

universe u

/-- Elements that have a width. -/
class HasWidth (α : Type u) where
  width : α → Nat

export HasWidth (width)

/-- `LaidOut start slots next` says that `slots`, newest first, are laid out from `start` on without
gaps, and that the next element will go to offset `next`. -/
inductive LaidOut {α : Type u} [HasWidth α] (start : Nat) : List (Nat × α) → Nat → Prop where
  | nil : LaidOut start [] start
  | cons {slots : List (Nat × α)} {next : Nat} (element : α) :
      LaidOut start slots next → LaidOut start ((next, element) :: slots) (next + width element)

/-- A vector of elements found by the widths before them. -/
structure OffsetVector (α : Type u) [HasWidth α] where
  /-- The offset of the first element. -/
  start : Nat
  /-- The elements with their offsets, newest first. -/
  slots : List (Nat × α)
  /-- The offset of the next element to be added. -/
  next : Nat
  laidOut : LaidOut start slots next

namespace OffsetVector

variable {α : Type u} [HasWidth α]

/-- The vector without elements whose first element will go to offset `start`. -/
def startingAt (start : Nat) : OffsetVector α := ⟨start, [], start, .nil⟩

/-- The vector without elements at offset zero. -/
def empty : OffsetVector α := startingAt 0

instance : Inhabited (OffsetVector α) := ⟨empty⟩

/-- Vectors are compared by their elements and the offsets of these, not by where they start. -/
instance [BEq α] : BEq (OffsetVector α) := ⟨fun left right => left.slots == right.slots⟩

/-- The number of elements. -/
def length (vec : OffsetVector α) : Nat := vec.slots.length

/-- Whether there is no element. -/
def isEmpty (vec : OffsetVector α) : Bool := vec.slots.isEmpty

/-- The sum of the widths of all elements. -/
def totalWidth (vec : OffsetVector α) : Nat := vec.next - vec.start

/-- The elements, oldest first. -/
def toList (vec : OffsetVector α) : List α := (vec.slots.map Prod.snd).reverse

/-- The elements with their offsets, oldest first. -/
def offsets (vec : OffsetVector α) : List (Nat × α) := vec.slots.reverse

/-- Adds an element and gives the offset that it goes to. -/
def push (vec : OffsetVector α) (element : α) : Nat × OffsetVector α :=
  (vec.next,
    ⟨vec.start, (vec.next, element) :: vec.slots, vec.next + width element,
      .cons element vec.laidOut⟩)

theorem laidOut_tail {start next : Nat} {slot : Nat × α} {slots : List (Nat × α)}
    (laidOut : LaidOut start (slot :: slots) next) : LaidOut start slots slot.1 := by
  cases laidOut with
  | cons _ rest => exact rest

/-- Removes the newest element and gives it with its offset and its index. -/
def pop? (vec : OffsetVector α) : Option (Nat × Nat × α × OffsetVector α) :=
  match vec with
  | ⟨_, [], _, _⟩ => none
  | ⟨start, slot :: slots, _, laidOut⟩ =>
    some (slot.1, slots.length, slot.2, ⟨start, slots, slot.1, laidOut_tail laidOut⟩)

/-- The newest element. -/
def last? (vec : OffsetVector α) : Option α := vec.slots.head?.map Prod.snd

/-- Removes all elements. -/
def clear (vec : OffsetVector α) : OffsetVector α := startingAt vec.start

/-- Adds elements in order. -/
def extend (vec : OffsetVector α) (elements : List α) : OffsetVector α :=
  elements.foldl (fun vec element => (vec.push element).2) vec

/-- The vector of the given elements at offset zero. -/
def ofList (elements : List α) : OffsetVector α := empty.extend elements

/-- Finds an offset among slots, newest first, and gives the element with the number of elements
before it. -/
def findSlot? (offset : Nat) : List (Nat × α) → Option (Nat × α)
  | [] => none
  | slot :: slots =>
    if slot.1 = offset then some (slots.length, slot.2) else findSlot? offset slots

/-- The element at an offset, with its index. -/
def get? (vec : OffsetVector α) (offset : Nat) : Option (Nat × α) := findSlot? offset vec.slots

/-- The elements with their offsets and indices, oldest first. -/
def enumerate (vec : OffsetVector α) : List (Nat × Nat × α) :=
  vec.offsets.mapIdx fun index slot => (slot.1, index, slot.2)

/-- The elements with their offsets and indices, taken in turn from the front and from the back. -/
def fromBothEnds (vec : OffsetVector α) : List (Nat × Nat × α) :=
  let elements := vec.enumerate
  ((elements.zip elements.reverse).flatMap fun (front, back) => [front, back]).take vec.length

/-- The vector as text, each element after its offset. -/
def render (text : α → String) (vec : OffsetVector α) : String :=
  "[" ++ ", ".intercalate (vec.offsets.map fun slot => s!"#{slot.1} = {text slot.2}") ++ "]"

/-- The sum of the widths of some elements. -/
def widthSum (elements : List α) : Nat :=
  elements.foldr (fun element total => width element + total) 0

@[simp]
theorem widthSum_nil : widthSum ([] : List α) = 0 := rfl

@[simp]
theorem widthSum_cons (element : α) (elements : List α) :
    widthSum (element :: elements) = width element + widthSum elements := rfl

theorem widthSum_append (left right : List α) :
    widthSum (left ++ right) = widthSum left + widthSum right := by
  induction left with
  | nil => simp
  | cons element left ih =>
    simp only [List.cons_append, widthSum_cons, ih]
    omega

@[simp]
theorem toList_startingAt (start : Nat) : (startingAt start : OffsetVector α).toList = [] := rfl

@[simp]
theorem toList_push (vec : OffsetVector α) (element : α) :
    (vec.push element).2.toList = vec.toList ++ [element] := by
  simp [toList, push]

@[simp]
theorem start_push (vec : OffsetVector α) (element : α) :
    (vec.push element).2.start = vec.start := rfl

@[simp]
theorem next_push (vec : OffsetVector α) (element : α) :
    (vec.push element).2.next = vec.next + width element := rfl

@[simp]
theorem pop?_push (vec : OffsetVector α) (element : α) :
    (vec.push element).2.pop? = some (vec.next, vec.length, element, vec) := rfl

theorem start_of_pop? {vec rest : OffsetVector α} {offset index : Nat} {element : α}
    (popped : vec.pop? = some (offset, index, element, rest)) : rest.start = vec.start := by
  obtain ⟨start, slots, next, laidOut⟩ := vec
  cases slots with
  | nil => simp [pop?] at popped
  | cons slot slots =>
    simp only [pop?, Option.some.injEq, Prod.mk.injEq] at popped
    rw [← popped.2.2.2]

@[simp]
theorem toList_clear (vec : OffsetVector α) : vec.clear.toList = [] := rfl

@[simp]
theorem toList_extend (vec : OffsetVector α) (elements : List α) :
    (vec.extend elements).toList = vec.toList ++ elements := by
  induction elements generalizing vec with
  | nil => simp [extend]
  | cons element elements ih =>
    have rest := ih (vec.push element).2
    simpa [extend] using rest

@[simp]
theorem start_extend (vec : OffsetVector α) (elements : List α) :
    (vec.extend elements).start = vec.start := by
  induction elements generalizing vec with
  | nil => rfl
  | cons element elements ih => exact ih (vec.push element).2

@[simp]
theorem toList_ofList (elements : List α) :
    (ofList elements : OffsetVector α).toList = elements := by
  simp [ofList, empty]

theorem length_eq (vec : OffsetVector α) : vec.length = vec.toList.length := by
  simp [length, toList]

theorem next_eq_of_laidOut {start next : Nat} {slots : List (Nat × α)}
    (laidOut : LaidOut start slots next) :
    next = start + widthSum (slots.map Prod.snd).reverse := by
  induction laidOut with
  | nil => simp
  | cons element _ ih =>
    simp only [List.map_cons, List.reverse_cons, widthSum_append, widthSum_cons, widthSum_nil]
    omega

/-- The next element goes right after all others. -/
theorem next_eq (vec : OffsetVector α) : vec.next = vec.start + widthSum vec.toList :=
  next_eq_of_laidOut vec.laidOut

/-- Slots that are laid out from the same start are determined by their elements. -/
theorem laidOut_unique {start leftNext rightNext : Nat} {left right : List (Nat × α)}
    (leftLaidOut : LaidOut start left leftNext) (rightLaidOut : LaidOut start right rightNext)
    (same : left.map Prod.snd = right.map Prod.snd) : left = right ∧ leftNext = rightNext := by
  induction leftLaidOut generalizing right rightNext with
  | nil =>
    cases rightLaidOut with
    | nil => exact ⟨rfl, rfl⟩
    | cons => simp at same
  | cons element _ ih =>
    cases rightLaidOut with
    | nil => simp at same
    | cons other rest =>
      simp only [List.map_cons, List.cons.injEq] at same
      obtain ⟨rfl, sameRest⟩ := same
      obtain ⟨rfl, rfl⟩ := ih rest sameRest
      exact ⟨rfl, rfl⟩

/-- A vector is determined by its start and its elements. -/
theorem eq_of_toList_eq {left right : OffsetVector α} (sameStart : left.start = right.start)
    (same : left.toList = right.toList) : left = right := by
  obtain ⟨start, leftSlots, leftNext, leftLaidOut⟩ := left
  obtain ⟨_, rightSlots, rightNext, rightLaidOut⟩ := right
  cases sameStart
  obtain ⟨rfl, rfl⟩ := laidOut_unique leftLaidOut rightLaidOut (List.reverse_inj.1 same)
  rfl

theorem totalWidth_eq (vec : OffsetVector α) : vec.totalWidth = widthSum vec.toList := by
  have next := vec.next_eq
  unfold totalWidth
  omega

end OffsetVector

end StackFlow
