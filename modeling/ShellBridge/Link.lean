import ShellBridge.Packet
import ShellBridge.Session

/-!
The client's end of a connection.

Requests wait in a queue until the transport runs; then they go out in order.  Subscriptions and
confirmed publications take numbers from 1 to 100, round and round.  While as many publications wait
for a confirmation as there are numbers, or while the next number is still in use, no request goes
out.
-/

namespace ShellBridge

inductive LinkFault where
  | closedByPeer
  | oversized (length : Nat)
  | inboundOversized (length : Nat)
  | unansweredPing
  /-- A publication waited too long for its number. -/
  | numberInUse
  deriving DecidableEq, Repr

namespace Link

def queueCapacity : Nat := 100
def maxId : Nat := 100
def maxPacketLength : Nat := 10240

/-- Why a request is not taken. -/
def refusal : String := "Failed to send mqtt requests to eventloop"

end Link

def LinkFault.message : LinkFault → String
  | closedByPeer =>
      "Mqtt state: Io error: Custom \x7b kind: ConnectionAborted, "
        ++ "error: \"connection closed by peer\" \x7d"
  | oversized length =>
      s!"Mqtt state: Cannot send packet of size '{length}'. It's greater than the broker's "
        ++ s!"maximum packet size of: '{Link.maxPacketLength}'"
  | inboundOversized length =>
      "Mqtt state: Mqtt serialization/deserialization error: "
        ++ s!"payload size limit exceeded: {length}"
  | unansweredPing => "Mqtt state: Last pingreq isn't acked"
  | numberInUse => "Mqtt state: Timeout while waiting to resolve collision"

structure Link where
  queue : List Request
  /-- The number that was given last; zero if the next one is the first. -/
  lastId : Nat
  /-- The numbers of the publications that wait for a confirmation. -/
  unconfirmed : List Nat
  /-- Whether a publication waits for its number. -/
  held : Bool
  keepAlive : Duration
  /-- When the next ping is due. -/
  pingAt : Nat
  pingUnanswered : Bool
  /-- How many pings were due while a publication waited for its number. -/
  heldPings : Nat
  deriving DecidableEq

namespace Link

/-- A link that is established at a given time. -/
def new (keepAlive : Duration) (now : Nat) : Link :=
  ⟨[], 0, [], false, keepAlive, now + keepAlive.millis, false, 0⟩

def takes : Request → Bool
  | .publish publication => publication.hasPlainTopic
  | .subscribe _ | .disconnect => true

/-- Queues a request. -/
def push (link : Link) (request : Request) : Except String Link :=
  if takes request ∧ link.queue.length < queueCapacity then
    .ok { link with queue := link.queue ++ [request] }
  else .error refusal

def nextId (link : Link) : Nat := link.lastId + 1

/-- The link after the next number was given. -/
def useId (link : Link) : Link :=
  { link with lastId := if link.nextId = maxId then 0 else link.nextId }

/-- Whether no request goes out. -/
def isStalled (link : Link) : Bool :=
  link.held || maxId ≤ link.unconfirmed.length

/-- The packet of a publication, unless it is too long. -/
def publishPacket (id : Option Nat) (publication : Publication) : Except LinkFault ClientPacket :=
  if maxPacketLength < publication.packetLength then .error (.oversized publication.packetLength)
  else .ok (.publish id publication)

/-- Sends a request; a publication whose number is in use is held. -/
def send (link : Link) : Request → Except LinkFault (Link × Option ClientPacket)
  | .publish publication =>
      if publication.qos = .atMostOnce then do
        .ok (link, some (← publishPacket none publication))
      else if link.unconfirmed.contains link.nextId then
        .ok ({ link.useId with held := true }, none)
      else do
        let packet ← publishPacket (some link.nextId) publication
        .ok ({ link.useId with unconfirmed := link.unconfirmed ++ [link.nextId] }, some packet)
  | .subscribe topic => .ok (link.useId, some (.subscribe link.nextId topic .atLeastOnce))
  | .disconnect => .ok (link, some .disconnect)

/-- How a connection ends on this side. -/
inductive Ending where
  | closed
  | failed (fault : LinkFault)
  deriving DecidableEq

def Ending.report : Ending → Report
  | closed => .closed
  | failed fault => .failed fault.message

structure Transmission where
  link : Link
  packets : List ClientPacket
  ending : Option Ending

/-- Sends requests as long as the link is not stalled.  Nothing goes out behind a request to
disconnect or behind a fault. -/
def transmitAll (link : Link) : List Request → Transmission
  | [] => ⟨{ link with queue := [] }, [], none⟩
  | request :: rest =>
      if link.isStalled then ⟨{ link with queue := request :: rest }, [], none⟩
      else
        match link.send request with
        | .error fault => ⟨{ link with queue := [] }, [], some (.failed fault)⟩
        | .ok (link, packet) =>
            if request = .disconnect then
              ⟨{ link with queue := [] }, packet.toList, some .closed⟩
            else
              let later := transmitAll link rest
              { later with packets := packet.toList ++ later.packets }

/-- Sends what is queued. -/
def transmit (link : Link) : Transmission :=
  link.transmitAll link.queue

/-- What a packet from the broker leads to: answers to it, and a report. -/
structure Reaction where
  link : Link
  packets : List ClientPacket
  report : Option Report

/-- The confirmation of a publication that arrived. -/
def confirmation (id : Nat) : QoS → List ClientPacket
  | .atMostOnce => []
  | .atLeastOnce => [.acknowledge id]
  | .exactlyOnce => [.receive id]

def confirm (link : Link) (id : Nat) : Link :=
  { link with unconfirmed := link.unconfirmed.erase id }

def receive (link : Link) : BrokerPacket → Except LinkFault Reaction
  | .publish id publication =>
      if maxPacketLength < publication.remainingLength then
        .error (.inboundOversized publication.remainingLength)
      else
        .ok ⟨link, confirmation id publication.qos,
          some (.arrived publication.topic publication.payload)⟩
  | .subscribed _ => .ok ⟨link, [], none⟩
  | .acknowledged id => .ok ⟨link.confirm id, [], some (.acknowledged id)⟩
  | .received id => .ok ⟨link, [.release id], none⟩
  | .completed id => .ok ⟨link.confirm id, [], none⟩
  | .pong => .ok ⟨{ link with pingUnanswered := false }, [], none⟩

/-- Whether pings are sent at all. -/
def pings (link : Link) : Bool :=
  link.keepAlive.millis ≠ 0

/-- Sends the ping that is due, if the last one was answered. -/
def ping (link : Link) : Except LinkFault Link :=
  let heldPings := if link.held then link.heldPings + 1 else link.heldPings
  if 2 ≤ heldPings then .error .numberInUse
  else if link.pingUnanswered then .error .unansweredPing
  else
    .ok { link with
      pingAt := link.pingAt + link.keepAlive.millis
      pingUnanswered := true
      heldPings := heldPings }

end Link

end ShellBridge
