/-!
# Names of local variables

A method may come with a table that says which slot holds which variable over which range of the
code. The analysis registers names of its own for slots that the table leaves unnamed. A registered
name is valid for the store at its offset and for the loads of its slot from there on, up to the
next registered name; it never hides a variable of the table.
-/

namespace StackFlow

/-- A variable of the table of local variables. -/
structure LocalVariable where
  slot : Nat
  /-- The first offset at which the variable has a value. -/
  start : Nat
  /-- The length of the code from `start` on in which it has one. -/
  length : Nat
  name : String
  descriptor : String
deriving Repr, DecidableEq

/-- The greatest code offset; ranges of variables end there at the latest. -/
def lastOffset : Nat := 0xffffffff

/-- The length of the longest store instruction, in bytes. -/
def longestStore : Nat := 4

namespace LocalVariable

/-- Whether the variable has a value at an offset. -/
def covers (entry : LocalVariable) (offset : Nat) : Bool :=
  entry.start ≤ offset && offset < min (entry.start + entry.length) lastOffset

/-- Whether the variable gets its value from a store at an offset, its range starting right after.
The sum is an offset and wraps around, so no range starts after a store in the last bytes. -/
def startsAfterStore (entry : LocalVariable) (offset : Nat) : Bool :=
  offset < entry.start && entry.start ≤ (offset + longestStore) % (lastOffset + 1)

end LocalVariable

/-- The table of local variables of a method. -/
abbrev LocalTable := List LocalVariable

namespace LocalTable

/-- The variable that a slot holds at an offset. -/
def resolve? (table : LocalTable) (slot offset : Nat) : Option LocalVariable :=
  table.find? fun entry => entry.slot == slot && entry.covers offset

/-- The variable that a store at an offset writes: the one that the slot holds there, or one whose
range starts right after the store. -/
def resolveStore? (table : LocalTable) (slot offset : Nat) : Option LocalVariable :=
  (table.resolve? slot offset).or
    (table.find? fun entry => entry.slot == slot && entry.startsAfterStore offset)

end LocalTable

/-- A name registered for a slot from an offset on. -/
structure RegisteredName where
  slot : Nat
  offset : Nat
  name : String
deriving Repr, DecidableEq

/-- The names of local variables that an analysis sees. -/
structure LocalNames where
  table : LocalTable
  /-- The registered names, at most one for each slot and offset. -/
  registered : List RegisteredName := []
deriving Repr, DecidableEq

namespace LocalNames

/-- Registers a name, which replaces an earlier one for the same slot and offset. -/
def register (names : LocalNames) (slot offset : Nat) (name : String) : LocalNames :=
  { names with
    registered := ⟨slot, offset, name⟩ ::
      names.registered.filter fun entry => !(entry.slot == slot && entry.offset == offset) }

/-- Of two registered names the one at the later offset. -/
def later (best : Option RegisteredName) (entry : RegisteredName) : Option RegisteredName :=
  match best with
  | none => some entry
  | some current => if current.offset ≤ entry.offset then some entry else some current

/-- The name registered for a slot at the greatest offset up to the given one. -/
def registeredUpTo? (names : LocalNames) (slot offset : Nat) : Option RegisteredName :=
  (names.registered.filter fun entry => entry.slot == slot && entry.offset ≤ offset).foldl later
    none

/-- The name registered for a slot at exactly the given offset. -/
def registeredAt? (names : LocalNames) (slot offset : Nat) : Option RegisteredName :=
  names.registered.find? fun entry => entry.slot == slot && entry.offset == offset

/-- The name of the variable that a load at an offset reads. -/
def loadName? (names : LocalNames) (slot offset : Nat) : Option String :=
  ((names.table.resolve? slot offset).map LocalVariable.name).or
    ((names.registeredUpTo? slot offset).map RegisteredName.name)

/-- The name of the variable that a store at an offset writes. -/
def storeName? (names : LocalNames) (slot offset : Nat) : Option String :=
  ((names.table.resolveStore? slot offset).map LocalVariable.name).or
    ((names.registeredAt? slot offset).map RegisteredName.name)

/-- The number of registered names. -/
def registeredCount (names : LocalNames) : Nat := names.registered.length

end LocalNames

end StackFlow
