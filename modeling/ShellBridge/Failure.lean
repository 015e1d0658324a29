/-!
Failures of a program: what it was about, and what stood in the way.
-/

namespace ShellBridge

structure Failure where
  context : String
  cause : Option String
  deriving DecidableEq, Repr

namespace Failure

/-- On one line. -/
def message (failure : Failure) : String :=
  match failure.cause with
  | some cause => s!"{failure.context}: {cause}"
  | none => failure.context

/-- As a program reports it before it ends. -/
def report (failure : Failure) : String :=
  match failure.cause with
  | some cause => s!"Error: {failure.context}\n\nCaused by:\n    {cause}\n"
  | none => s!"Error: {failure.context}\n"

end Failure

end ShellBridge
