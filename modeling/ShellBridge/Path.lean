import ShellBridge.Text.Blank

/-!
Paths of elements.  Separators at the ends of a path do not count; those inside nest elements.
-/

namespace ShellBridge.Path

def separator : Char := '/'

/-- The path without separators at its ends. -/
def normalize (path : String) : String :=
  .ofList (Text.stripChars (· = separator) path.toList)

end ShellBridge.Path
