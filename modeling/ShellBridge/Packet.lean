import ShellBridge.Publisher

/-!
The packets of a session, as far as they can be told apart.
-/

namespace ShellBridge

/-- What a client sends. -/
inductive ClientPacket where
  /-- Asks for a session; the keep-alive time is in seconds. -/
  | connect (clientId : String) (user password : Option String) (keepAlive : Nat)
  /-- A publication that is not confirmed has no number. -/
  | publish (id : Option Nat) (publication : Publication)
  | subscribe (id : Nat) (topic : String) (qos : QoS)
  /-- Confirms a publication that is delivered at least once. -/
  | acknowledge (id : Nat)
  /-- Confirms a publication that is delivered exactly once. -/
  | receive (id : Nat)
  | release (id : Nat)
  | ping
  | disconnect
  deriving DecidableEq

/-- What a broker sends within a session. -/
inductive BrokerPacket where
  | publish (id : Nat) (publication : Publication)
  | subscribed (id : Nat)
  | acknowledged (id : Nat)
  | received (id : Nat)
  | completed (id : Nat)
  | pong
  deriving DecidableEq

namespace Publication

/-- Topic and payload, with the length of the topic. -/
def bodyLength (publication : Publication) : Nat :=
  2 + publication.topic.utf8ByteSize + publication.payload.length

/-- How long a publication is as the broker counts it: with its number, if it has one. -/
def remainingLength (publication : Publication) : Nat :=
  publication.bodyLength + if publication.qos = .atMostOnce then 0 else 2

/-- How many bytes it takes to write a length. -/
def lengthBytes (n : Nat) : Nat :=
  if n < 0x80 then 1 else if n < 0x4000 then 2 else if n < 0x200000 then 3 else 4

/-- How long the packet of a publication is as the client counts it: without its number. -/
def packetLength (publication : Publication) : Nat :=
  1 + lengthBytes publication.bodyLength + publication.bodyLength

/-- Whether the topic is the name of one topic, and no pattern. -/
def hasPlainTopic (publication : Publication) : Bool :=
  publication.topic.all fun c => c ≠ '+' && c ≠ '#'

end Publication

end ShellBridge
