import StackFlow.Stack.State

/-!
# Stack effects

What an instruction does to the operand stack, once its operands are resolved. The whole instruction
set needs seven effects. Each of them first takes entries from the top and then pushes, so an effect
fails only by taking from an empty stack.
-/

namespace StackFlow

/-- An effect on the operand stack. -/
inductive Effect where
  /-- Takes entries and pushes at most one, whose value does not depend on them. -/
  | replace (count : Nat) (result : Option (ValueType × String))
  /-- Takes entries and pushes one, whose value is made from theirs, bottom to top. -/
  | combine (count : Nat) (type : ValueType) (text : List String → String)
  /-- Gives the top entry another type. -/
  | retype (type : ValueType)
  /-- Takes an entry of two words, or two entries if the top one has one word. -/
  | dropTwoWords
  /-- Copies the top entry below the given number of further entries. -/
  | duplicate (depth : Nat)
  /-- Exchanges the two top entries. -/
  | swap
  /-- Takes all entries but the top one. -/
  | keepTop

namespace Effect

/-- Leaves the stack alone. -/
def nothing : Effect := .replace 0 none

/-- Takes a number of entries. -/
def drop (count : Nat) : Effect := .replace count none

/-- Pushes a value. -/
def push (type : ValueType) (text : String) : Effect := .replace 0 (some (type, text))

/-- Applies the effect of the instruction at an offset to a state. -/
def apply (effect : Effect) (offset : Nat) (state : StackState) : Except StackError StackState :=
  match effect with
  | .replace count result => do
    let (_, rest) ← state.popMany count
    match result with
    | none => return rest
    | some (type, text) => return rest.push (.make (some offset) type text)
  | .combine count type text => do
    let (taken, rest) ← state.popMany count
    return rest.push (.make (some offset) type (text (taken.map Entry.value)))
  | .retype type => do
    let (top, rest) ← state.pop
    return rest.push (top.retyped (some offset) type)
  | .dropTwoWords => do
    let (top, rest) ← state.pop
    if width top = 1 then
      let (_, rest) ← rest.pop
      return rest
    else return rest
  | .duplicate depth => do
    let (top, rest) ← state.pop
    let (below, rest) ← rest.popMany depth
    return rest.pushMany (top :: below ++ [top])
  | .swap => do
    let (top, rest) ← state.pop
    let (below, rest) ← rest.pop
    return (rest.push top).push below
  | .keepTop => do
    let (top, rest) ← state.pop
    return rest.clear.push top

end Effect

end StackFlow
