import ShellBridge.Domain.Direction
import ShellBridge.Domain.Label

/-!
Domain names in any script.

A name is mapped to its usual characters and composed, and its labels are checked one by one.  If a
label is written from the right, each label has to keep to one direction.
-/

namespace ShellBridge.Domain

/-- The name with its usual characters. -/
def mapped? (cs : List Char) : Option (List Char) := do
  let name := compose (← cs.mapM mapChar?).flatten
  if name.any isForbidden then none else some name

/-- Whether the labels of a name go together. -/
def haveDirections (labels : List (List Char)) : Bool :=
  let directions := labels.map (·.map Direction.ofChar)
  !directions.any (·.any Direction.isFromRight) || directions.all keepsDirection

/-- The name that a text denotes, with its labels in their own scripts. -/
def parse (cs : List Char) : Option (List Char) := do
  let labels ← (Text.splitChars '.' (← mapped? cs)).mapM readLabel?
  if haveDirections labels then some (['.'].intercalate labels) else none

end ShellBridge.Domain
