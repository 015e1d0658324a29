import ShellBridge.Handshake
import ShellBridge.Packet

/-!
Scripted brokers: how they answer the request for a session, and what they send within one.
-/

namespace ShellBridge

inductive BrokerScript where
  /-- Grants sessions and confirms everything. -/
  | confirming
  /-- Grants sessions and says nothing else. -/
  | mute
  /-- Does not listen. -/
  | absent
  /-- Answers with a return code; zero grants the session. -/
  | returning (code : Nat)
  /-- Never answers. -/
  | silent
  /-- Closes the connection. -/
  | closing
  /-- Answers with a packet of another kind. -/
  | confused
  deriving DecidableEq, Repr

namespace BrokerScript

/-- The answer to the request for a session, if there is one. -/
def verdict? : BrokerScript → Option (Except HandshakeFault Unit)
  | confirming | mute => some (.ok ())
  | absent => some (.error .refused)
  | returning code => some (if code = 0 then .ok () else .error (.returned code))
  | silent => none
  | closing => some (.error .closed)
  | confused => some (.error .unexpected)

/-- The confirmation of a packet of the client. -/
def confirmation? : ClientPacket → Option BrokerPacket
  | .publish (some id) publication =>
      match publication.qos with
      | .atMostOnce => none
      | .atLeastOnce => some (.acknowledged id)
      | .exactlyOnce => some (.received id)
  | .subscribe id _ _ => some (.subscribed id)
  | .release id => some (.completed id)
  | .ping => some .pong
  | .publish none _ | .connect .. | .acknowledge _ | .receive _ | .disconnect => none

/-- What the broker sends in answer to packets of the client. -/
def answers (script : BrokerScript) (packets : List ClientPacket) : List BrokerPacket :=
  match script with
  | confirming => packets.filterMap confirmation?
  | mute | absent | returning _ | silent | closing | confused => []

end BrokerScript

structure Broker where
  port : Nat
  script : BrokerScript
  /-- How many connections it accepted. -/
  accepted : Nat
  /-- What it received and nobody has looked at. -/
  received : List ClientPacket
  /-- The number of its connection: a new one takes the place of the former. -/
  connection : Option Nat
  deriving DecidableEq

namespace Broker

def new (port : Nat) (script : BrokerScript) : Broker :=
  ⟨port, script, 0, [], none⟩

/-- The number of what a scripted broker publishes. -/
def publicationId : Nat := 7

end Broker

end ShellBridge
