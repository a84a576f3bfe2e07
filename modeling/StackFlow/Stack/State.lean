import StackFlow.Error
import StackFlow.Stack.Entry

/-!
# States of the operand stack

A state holds the entries of the stack from bottom to top, laid out from offset zero on, so that the
offset of the next entry is the size of the stack in words. States are told apart by their
signature, which lists types and values and leaves out which instruction produced them.
-/

namespace StackFlow

/-- A state of the operand stack. -/
structure StackState where
  entries : OffsetVector Entry := .empty
  startsAtZero : entries.start = 0 := by rfl

namespace StackState

/-- The empty stack. -/
def empty : StackState := {}

instance : Inhabited StackState := ⟨empty⟩

/-- States are compared by their entries, producers and sizes included. -/
instance : BEq StackState := ⟨fun left right => left.entries == right.entries⟩

/-- The stack of the given entries, bottom to top. -/
def ofList (entries : List Entry) : StackState :=
  ⟨.ofList entries, OffsetVector.start_extend .empty entries⟩

/-- The entries, bottom to top. -/
def toList (state : StackState) : List Entry := state.entries.toList

/-- Puts an entry on top. -/
def push (state : StackState) (entry : Entry) : StackState :=
  ⟨(state.entries.push entry).2, state.startsAtZero⟩

/-- Takes the entry on top. -/
def pop (state : StackState) : Except StackError (Entry × StackState) :=
  match popped : state.entries.pop? with
  | none => .error .emptyStack
  | some (_, _, entry, rest) =>
    .ok (entry, ⟨rest, (OffsetVector.start_of_pop? popped).trans state.startsAtZero⟩)

/-- Takes a number of entries from the top and gives them bottom to top, in front of those in
`taken`. -/
def popOnto (state : StackState) (taken : List Entry) :
    Nat → Except StackError (List Entry × StackState)
  | 0 => .ok (taken, state)
  | count + 1 =>
    match state.pop with
    | .error error => .error error
    | .ok (entry, rest) => rest.popOnto (entry :: taken) count

/-- Takes a number of entries from the top and gives them bottom to top. -/
def popMany (state : StackState) (count : Nat) : Except StackError (List Entry × StackState) :=
  state.popOnto [] count

/-- Puts entries on top, the last of them topmost. -/
def pushMany (state : StackState) (entries : List Entry) : StackState :=
  entries.foldl push state

/-- The entry on top. -/
def peek? (state : StackState) : Option Entry := state.entries.last?

/-- Takes all entries. -/
def clear (state : StackState) : StackState := ⟨state.entries.clear, state.startsAtZero⟩

/-- The number of entries. -/
def length (state : StackState) : Nat := state.entries.length

/-- Whether the stack is empty. -/
def isEmpty (state : StackState) : Bool := state.entries.isEmpty

/-- The size of the stack in words. -/
def sizeInWords (state : StackState) : Nat := state.entries.totalWidth

/-- The types of the entries, bottom to top. -/
def types (state : StackState) : List ValueType := state.toList.map Entry.valueType

/-- The types and values of the entries, bottom to top, given which characters can be shown. -/
def signatureWith (printable : Char → Bool) (state : StackState) : String :=
  "[" ++ ", ".intercalate (state.toList.map (Entry.renderWith printable)) ++ "]"

/-- The signature of a state. Two states count as the same exactly when their signatures are
equal. -/
def signature (state : StackState) : String := state.signatureWith Text.isPrintable

/-- The state as it is shown when it stands alone. -/
def render (state : StackState) : String := s!"StackState({state.signature})"

@[simp]
theorem toList_empty : empty.toList = [] := rfl

@[simp]
theorem toList_push (state : StackState) (entry : Entry) :
    (state.push entry).toList = state.toList ++ [entry] :=
  OffsetVector.toList_push state.entries entry

@[simp]
theorem toList_ofList (entries : List Entry) : (ofList entries).toList = entries :=
  OffsetVector.toList_ofList entries

/-- A state is determined by its entries. -/
theorem eq_of_toList_eq {left right : StackState} (same : left.toList = right.toList) :
    left = right := by
  obtain ⟨leftEntries, leftStart⟩ := left
  obtain ⟨rightEntries, rightStart⟩ := right
  cases OffsetVector.eq_of_toList_eq (leftStart.trans rightStart.symm) same
  rfl

@[simp]
theorem ofList_toList (state : StackState) : ofList state.toList = state :=
  eq_of_toList_eq (toList_ofList state.toList)

@[simp]
theorem pop_empty : empty.pop = .error .emptyStack := rfl

@[simp]
theorem pop_push (state : StackState) (entry : Entry) :
    (state.push entry).pop = .ok (entry, state) := rfl

/-- The size of a stack is the sum of the widths of its entries. -/
theorem sizeInWords_eq (state : StackState) :
    state.sizeInWords = OffsetVector.widthSum state.toList :=
  state.entries.totalWidth_eq

end StackState

end StackFlow
