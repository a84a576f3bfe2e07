/-!
# Settings

What a caller can choose: the stack size to check against, the sections of the report, the text for
what cannot be resolved, and whether handlers name the local variables they store exceptions into.
-/

namespace StackFlow

/-- The sections of a report. -/
inductive SectionKind where
  | size | types | content | loops | summary
deriving Repr, DecidableEq

namespace SectionKind

/-- All sections, in the order in which a report shows them. -/
def all : List SectionKind := [.size, .types, .content, .loops, .summary]

/-- The bit by which a section is chosen. -/
def bit : SectionKind → UInt8
  | .size => 0x01 | .types => 0x02 | .content => 0x04 | .loops => 0x08 | .summary => 0x10

/-- The name of a section among others. -/
def name : SectionKind → String
  | .size => "SIZE" | .types => "TYPES" | .content => "CONTENT" | .loops => "LOOPS"
  | .summary => "SUMMARY"

end SectionKind

/-- A choice of sections, one bit for each. -/
structure SectionSet where
  bits : UInt8
deriving Repr, DecidableEq

namespace SectionSet

/-- All sections. -/
def all : SectionSet := ⟨0x1f⟩

/-- The sections of some bits; bits of no section are dropped. -/
def truncate (bits : UInt8) : SectionSet := ⟨bits &&& all.bits⟩

/-- The sections of some bits, if each bit is a section's. -/
def ofBits? (bits : UInt8) : Option SectionSet :=
  if truncate bits = ⟨bits⟩ then some ⟨bits⟩ else none

/-- Whether a section is chosen. -/
def contains (set : SectionSet) (kind : SectionKind) : Bool := set.bits &&& kind.bit == kind.bit

/-- Whether all sections are chosen. -/
def isAll (set : SectionSet) : Bool := set == all

/-- Whether no section is chosen. -/
def isEmpty (set : SectionSet) : Bool := set.bits == 0

/-- The names of the chosen sections. -/
def render (set : SectionSet) : String :=
  if set.isEmpty then "(empty)"
  else " | ".intercalate ((SectionKind.all.filter set.contains).map SectionKind.name)

end SectionSet

/-- The choices of a caller. -/
structure Settings where
  /-- The stack size to check against, in place of the one that the method declares. -/
  maxStack : Option Nat := none
  reports : SectionSet := .all
  /-- The text that stands for whatever cannot be resolved. -/
  placeholder : String := "?"
  /-- Whether local variables that handlers store exceptions into are named. -/
  registerHandlerLocals : Bool := true
deriving Repr, DecidableEq

/-- The stack size to check a method against, given the one that it declares. -/
def Settings.maxStackFor (settings : Settings) (declared : Nat) : Nat :=
  settings.maxStack.getD declared

end StackFlow
