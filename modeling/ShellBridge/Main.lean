import ShellBridge.CommandLine

/-!
The program: the command line on the files of the machine.
-/

namespace ShellBridge

/-- The words of the system for what went wrong with a file, and their number. -/
def systemWords : IO.Error → String
  | .noFileOrDirectory _ code details | .inappropriateType _ code details
  | .permissionDenied _ code details | .invalidArgument _ code details
  | .resourceExhausted _ code details | .otherError code details
  | .unsatisfiedConstraints code details | .hardwareFault code details =>
      s!"{details} (os error {code})"
  | fault => toString fault

/-- The file that a command reads, read before it runs. -/
def readAhead (arguments : List String) : IO CommandLine.FileReader := do
  match arguments with
  | "frame-check" :: file :: _ =>
      try
        let handle ← IO.FS.Handle.mk file .read
        let content ← handle.readBinToEnd
        return fun _ => .ok content.toList
      catch fault => return fun _ => .error (systemWords fault)
  | _ => return fun _ => .ok []

end ShellBridge

def main (arguments : List String) : IO UInt32 := do
  let read ← ShellBridge.readAhead arguments
  let outcome := ShellBridge.CommandLine.run read arguments
  IO.print outcome.output
  IO.eprint outcome.errors
  return outcome.status.toUInt32
