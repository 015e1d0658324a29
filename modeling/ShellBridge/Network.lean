import ShellBridge.Broker
import ShellBridge.Link

/-!
Connections with scripted brokers, under one clock.

Brokers and connections are referred to by their numbers.  Time passes only while everything waits,
so answers take no time.
-/

namespace ShellBridge

/-- What is under way from a broker to a client. -/
inductive Inbound where
  | packet (packet : BrokerPacket)
  | closed
  deriving DecidableEq

/-- The session that a connection carries: its owner and its generation. -/
structure Carried where
  owner : Nat
  generation : Nat
  deriving DecidableEq, Repr

structure Connection where
  broker : Nat
  /-- None while the session is not established. -/
  carried : Option Carried
  link : Link
  inbound : List Inbound
  /-- Whether the client's end is open. -/
  isOpen : Bool
  deriving DecidableEq

namespace Connection

/-- What happened on a connection. -/
structure Trace where
  connection : Connection
  sent : List ClientPacket
  reports : List Report

def Trace.after (trace : Trace) (sent : List ClientPacket) (report : Option Report) : Trace :=
  { trace with sent := sent ++ trace.sent, reports := report.toList ++ trace.reports }

/-- The connection after the client's end was closed. -/
def close (connection : Connection) : Connection :=
  { connection with inbound := [], isOpen := false }

/-- Runs a connection for as many packets of the broker as are allowed: first all requests go out
that can, then one packet of the broker is taken. -/
def runFor (script : BrokerScript) : Nat → Connection → Trace
  | 0, connection => ⟨connection, [], []⟩
  | steps + 1, connection =>
      let transmission := connection.link.transmit
      let connection := { connection with link := transmission.link }
      match transmission.ending with
      | some ending => ⟨connection.close, transmission.packets, [ending.report]⟩
      | none =>
          let answers (packets : List ClientPacket) : List Inbound :=
            (script.answers packets).map .packet
          let failed (fault : LinkFault) : Trace :=
            ⟨connection.close, [], [(Link.Ending.failed fault).report]⟩
          let later : Trace :=
            match connection.inbound ++ answers transmission.packets with
            | [] => ⟨{ connection with inbound := [] }, [], []⟩
            | .closed :: _ => failed .closedByPeer
            | .packet packet :: rest =>
                match connection.link.receive packet with
                | .error fault => failed fault
                | .ok reaction =>
                    let connection := { connection with
                      link := reaction.link
                      inbound := rest ++ answers reaction.packets }
                    (runFor script steps connection).after reaction.packets reaction.report
          later.after transmission.packets none

/-- How many packets of a broker can follow: a request is answered at most twice, and so is
what is under way. -/
def budget (connection : Connection) : Nat :=
  2 * (connection.link.queue.length + connection.inbound.length) + 1

/-- Runs a connection until both ends wait. -/
def run (script : BrokerScript) (connection : Connection) : Trace :=
  connection.runFor script connection.budget

/-- Sends the ping that is due. -/
def ping (connection : Connection) : Trace :=
  match connection.link.ping with
  | .ok link => ⟨{ connection with link := link }, [.ping], []⟩
  | .error fault => ⟨connection.close, [], [(Link.Ending.failed fault).report]⟩

/-- When a ping is due. -/
def pingAt? (connection : Connection) : Option Nat :=
  if connection.isOpen && connection.carried.isSome && connection.link.pings then
    some connection.link.pingAt
  else none

end Connection

structure Network where
  /-- Whether there is any way to the brokers. -/
  reachable : Bool
  /-- The time, in milliseconds. -/
  now : Nat
  brokers : List Broker
  connections : List Connection
  deriving DecidableEq

namespace Network

/-- A report, with the session that it is about. -/
abbrev Reports : Type := List (Carried × Report)

def new (reachable : Bool) (brokers : List Broker) : Network :=
  ⟨reachable, 0, brokers, []⟩

def script (network : Network) (broker : Nat) : BrokerScript :=
  ((network.brokers[broker]?).map (·.script)).getD .absent

def setConnection (network : Network) (number : Nat) (connection : Connection) : Network :=
  { network with connections := network.connections.set number connection }

def changeConnection (network : Network) (number : Nat) (change : Connection → Connection) :
    Network :=
  { network with connections := network.connections.modify number change }

def changeBroker (network : Network) (number : Nat) (change : Broker → Broker) : Network :=
  { network with brokers := network.brokers.modify number change }

/-- Puts something under way to the client of a broker, if it has one. -/
def sendFrom (network : Network) (broker : Nat) (item : Inbound) : Network :=
  match (network.brokers[broker]?).bind (·.connection) with
  | none => network
  | some number =>
      network.changeConnection number fun connection =>
        if connection.isOpen then { connection with inbound := connection.inbound ++ [item] }
        else connection

/-- What a broker publishes to its client. -/
def publishFrom (network : Network) (broker : Nat) (publication : Publication) : Network :=
  network.sendFrom broker (.packet (.publish Broker.publicationId publication))

/-- The broker closes its connection. -/
def dropFrom (network : Network) (broker : Nat) : Network :=
  network.sendFrom broker .closed

def receiveAt (network : Network) (broker : Nat) (packets : List ClientPacket) : Network :=
  network.changeBroker broker fun b => { b with received := b.received ++ packets }

/-- Forgets what the brokers received. -/
def clearReceived (network : Network) : Network :=
  { network with brokers := network.brokers.map fun b => { b with received := [] } }

/-! ## Opening and closing connections -/

/-- A text, unless it is empty. -/
def nonempty (text : String) : Option String :=
  if text = "" then none else some text

/-- The request for a session. -/
def connectPacket (options : SessionOptions) : ClientPacket :=
  .connect options.clientId
    (options.credentials.bind (nonempty ·.user))
    (options.credentials.bind (nonempty ·.password))
    (options.keepAlive.seconds % 0x10000)

/-- Opens a connection with the broker at an address and asks for a session.  The broker closes the
connection that it had. -/
def dial (network : Network) (address : Address) (options : SessionOptions) :
    Network × Except HandshakeFault Nat :=
  if !network.reachable then (network, .error .unreachable)
  else
    match network.brokers.findIdx? (fun b => b.port = address.port && b.script ≠ .absent) with
    | none => (network, .error .refused)
    | some broker =>
        let number := network.connections.length
        let network := network.dropFrom broker
        let network := network.changeBroker broker fun b =>
          { b with accepted := b.accepted + 1, connection := some number }
        let connection : Connection := ⟨broker, none, .new options.keepAlive network.now, [], true⟩
        let network := { network with connections := network.connections ++ [connection] }
        (network.receiveAt broker [connectPacket options], .ok number)

/-- The answer to the request for a session, if there will be one. -/
def verdict? (network : Network) (number : Nat) : Option (Except HandshakeFault Unit) :=
  match network.connections[number]? with
  | none => some (.error .closed)
  | some connection =>
      match (network.script connection.broker).verdict? with
      | some verdict => some verdict
      | none => if connection.inbound.contains .closed then some (.error .closed) else none

/-- Lets an open connection carry a session, from now on. -/
def carry (network : Network) (number : Nat) (carried : Carried) : Network :=
  network.changeConnection number fun connection =>
    { connection with
      carried := some carried
      link := .new connection.link.keepAlive network.now }

def close (network : Network) (number : Nat) : Network :=
  network.changeConnection number Connection.close

/-! ## Letting the transport run -/

/-- Puts in place what happened on a connection. -/
def record (network : Network) (number : Nat) (trace : Connection.Trace) : Network × Reports :=
  let network := network.setConnection number trace.connection
  let network := network.receiveAt trace.connection.broker trace.sent
  (network, (trace.connection.carried.map fun c => trace.reports.map (c, ·)).getD [])

/-- Runs the connection of a number. -/
def settleOne (network : Network) (number : Nat) : Network × Reports :=
  match network.connections[number]? with
  | none => (network, [])
  | some connection =>
      if connection.isOpen && connection.carried.isSome then
        network.record number (connection.run (network.script connection.broker))
      else (network, [])

def settleAll (network : Network) : List Nat → Network × Reports
  | [] => (network, [])
  | number :: rest =>
      let (network, first) := network.settleOne number
      let (network, later) := network.settleAll rest
      (network, first ++ later)

/-- Runs all connections until everything waits. -/
def settle (network : Network) : Network × Reports :=
  network.settleAll (List.range network.connections.length)

/-- Sends the ping of a connection and brings in its answer. -/
def pingOne (network : Network) (number : Nat) : Network × Reports :=
  match network.connections[number]? with
  | none => (network, [])
  | some connection =>
      let trace := connection.ping
      let answers := (network.script connection.broker).answers trace.sent
      let inbound := trace.connection.inbound ++ answers.map .packet
      let (network, first) :=
        network.record number { trace with
          connection := { trace.connection with inbound := inbound } }
      let (network, later) := network.settleOne number
      (network, first ++ later)

/-- The next ping until a given time: its time and its connection. -/
def nextPing? (network : Network) (limit : Nat) : Option (Nat × Nat) :=
  let due := network.connections.zipIdx.filterMap fun (connection, number) =>
    (connection.pingAt?.filter (· ≤ limit)).map (·, number)
  due.foldl (fun best ping =>
    match best with
    | none => some ping
    | some former => if ping.1 < former.1 then some ping else best) none

/-- Lets time pass until a given time, for at most so many pings. -/
def advanceFor (limit : Nat) : Nat → Network → Network × Reports
  | 0, network => ({ network with now := limit }, [])
  | pings + 1, network =>
      match network.nextPing? limit with
      | none => ({ network with now := limit }, [])
      | some (time, number) =>
          let (network, first) := { network with now := time }.pingOne number
          let (network, later) := advanceFor limit pings network
          (network, first ++ later)

/-- How many pings there can be in so many milliseconds: one in each of them on every connection,
and one more. -/
def pingBudget (network : Network) (millis : Nat) : Nat :=
  network.connections.length * (millis + 1)

/-- Runs everything, and lets so many milliseconds pass. -/
def wait (network : Network) (millis : Nat) : Network × Reports :=
  let (network, first) := network.settle
  let (network, later) :=
    advanceFor (network.now + millis) (network.pingBudget millis) network
  (network, first ++ later)

end Network

end ShellBridge
