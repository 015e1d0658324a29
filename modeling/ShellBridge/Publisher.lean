import ShellBridge.Text.Utf8

/-!
Publications, and the way out for them.
-/

namespace ShellBridge

/-- How often a publication is delivered. -/
inductive QoS where
  | atMostOnce
  | atLeastOnce
  | exactlyOnce
  deriving DecidableEq, Repr

def QoS.level : QoS → Nat
  | atMostOnce => 0
  | atLeastOnce => 1
  | exactlyOnce => 2

structure Publication where
  topic : String
  payload : Bytes
  qos : QoS
  retain : Bool
  deriving DecidableEq

inductive PublishError where
  | notConnected
  | transport (reason : String)
  | serialize (reason : String)
  deriving DecidableEq, Repr

def PublishError.message : PublishError → String
  | notConnected => "not connected"
  | transport reason => s!"publish error: {reason}"
  | serialize reason => s!"serialize error: {reason}"

/-- Hands a publication to the transport, whose states are of type `σ`. -/
abbrev Publisher (σ : Type) : Type :=
  Publication → StateM σ (Except PublishError Unit)

/-- How events and messages are published: at least once, and not retained. -/
def Publication.atLeastOnce (topic : String) (payload : Bytes) : Publication :=
  ⟨topic, payload, .atLeastOnce, false⟩

end ShellBridge
