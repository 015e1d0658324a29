/-!
How a broker may turn down the request for a session.
-/

namespace ShellBridge

inductive HandshakeFault where
  /-- There is no way to the broker. -/
  | unreachable
  /-- Nobody listens at the address. -/
  | refused
  /-- The broker answered with a return code other than zero. -/
  | returned (code : Nat)
  /-- The broker closed the connection. -/
  | closed
  /-- The broker answered with something else. -/
  | unexpected
  /-- The broker did not answer. -/
  | unanswered
  deriving DecidableEq, Repr

namespace HandshakeFault

/-- The names of the return codes, from one on. -/
def codeNames : List String :=
  ["RefusedProtocolVersion", "BadClientId", "ServiceUnavailable", "BadUserNamePassword",
    "NotAuthorized"]

def codeMessage : Nat → String
  | 0 => "I/O: Invalid Connect return code: 0"
  | code + 1 =>
      match codeNames[code]? with
      | some name => s!"Connection refused, return code: `{name}`"
      | none => s!"I/O: Invalid Connect return code: {code + 1}"

def message : HandshakeFault → String
  | unreachable => "I/O: Network is unreachable (os error 101)"
  | refused => "I/O: Connection refused (os error 111)"
  | returned code => codeMessage code
  | closed => "I/O: connection closed by peer"
  | unexpected => "Expected ConnAck packet, received: PingResp"
  | unanswered => "Network timeout"

end HandshakeFault

end ShellBridge
