import ShellBridge.Bridge
import ShellBridge.Network

/-!
Owners of sessions over one network.

Owners are referred to by their numbers.  What they ask of their sessions goes to the connections
that carry these; what the connections report goes to the owners, whose handlers are told.
-/

namespace ShellBridge

structure Exchange (η : Type) where
  network : Network
  owners : List (SessionOwner η)
  /-- What handlers were told and nobody has looked at. -/
  told : List (η × Notice)
  deriving DecidableEq

/-- The transport of the sessions of an owner: the queues of the connections that carry them. -/
def Network.transport (owner : Nat) : Transport Network := fun generation request network =>
  let carries (connection : Connection) : Bool :=
    connection.isOpen && connection.carried = some ⟨owner, generation⟩
  match network.connections.zipIdx.find? (fun (connection, _) => carries connection) with
  | none => (.error Link.refusal, network)
  | some (connection, number) =>
      match connection.link.push request with
      | .ok link => (.ok (), network.setConnection number { connection with link := link })
      | .error reason => (.error reason, network)

namespace Exchange

variable {η : Type}

def new (network : Network) : Exchange η :=
  ⟨network, [], []⟩

/-- Adds an owner without a session; its number is the former count. -/
def addOwner (exchange : Exchange η) (handler : η) : Exchange η :=
  { exchange with owners := exchange.owners ++ [.new handler] }

def owner? (exchange : Exchange η) (number : Nat) : Option (SessionOwner η) :=
  exchange.owners[number]?

def setOwner (exchange : Exchange η) (number : Nat) (owner : SessionOwner η) : Exchange η :=
  { exchange with owners := exchange.owners.set number owner }

/-- Installs the handler of an owner. -/
def setHandler (exchange : Exchange η) (number : Nat) (handler : η) : Exchange η :=
  { exchange with owners := exchange.owners.modify number (·.setHandler handler) }

/-- Forgets what handlers were told and what brokers received. -/
def clear (exchange : Exchange η) : Exchange η :=
  { exchange with network := exchange.network.clearReceived, told := [] }

/-! ## Letting the transport run -/

/-- Takes a report to the owner of the session that it is about. -/
def deliver (exchange : Exchange η) (carried : Carried) (report : Report) : Exchange η :=
  match exchange.owner? carried.owner with
  | none => exchange
  | some owner =>
      let (owner, told) := owner.report carried.generation report
      let exchange := exchange.setOwner carried.owner owner
      { exchange with told := exchange.told ++ told.toList }

def deliverAll (exchange : Exchange η) (reports : Network.Reports) : Exchange η :=
  reports.foldl (fun exchange (carried, report) => exchange.deliver carried report) exchange

/-- What a broker publishes to its client. -/
def publishFrom (exchange : Exchange η) (broker : Nat) (publication : Publication) : Exchange η :=
  { exchange with network := exchange.network.publishFrom broker publication }

/-- A broker closes its connection. -/
def dropFrom (exchange : Exchange η) (broker : Nat) : Exchange η :=
  { exchange with network := exchange.network.dropFrom broker }

/-- Changes the network, and takes its reports to the owners. -/
def onNetwork (exchange : Exchange η) (change : Network → Network × Network.Reports) :
    Exchange η :=
  let (network, reports) := change exchange.network
  { exchange with network := network }.deliverAll reports

/-- Lets the transport run until everything waits. -/
def settle (exchange : Exchange η) : Exchange η :=
  exchange.onNetwork Network.settle

/-- Lets the transport run, and so many milliseconds pass. -/
def wait (exchange : Exchange η) (millis : Nat) : Exchange η :=
  exchange.onNetwork (·.wait millis)

/-! ## Attempts to connect -/

/-- An attempt of an owner that waits for the answer of a broker. -/
structure Pending where
  owner : Nat
  attempt : Nat
  connection : Nat
  timeout : Duration
  deriving DecidableEq

inductive Dialing where
  | alreadyConnected
  | pending (pending : Pending)
  deriving DecidableEq

/-- Begins an attempt: reserves the place for the session and asks the broker for it. -/
def dial (number : Nat) (options : SessionOptions) :
    StateM (Exchange η) (Except SessionError Dialing) := fun exchange =>
  match exchange.owner? number with
  | none => (.error .notConnected, exchange)
  | some owner =>
      match owner.begin options with
      | (_, .error fault) => (.error fault, exchange)
      | (_, .ok .alreadyConnected) => (.ok .alreadyConnected, exchange)
      | (reserved, .ok (.attempt attempt)) =>
          let abandoned := exchange.setOwner number (reserved.abandon attempt)
          match Address.parse options.broker with
          | .error refusal => (.error (.address refusal), abandoned)
          | .ok address =>
              match exchange.network.dial address options with
              | (network, .error fault) =>
                  (.error (.handshake fault), { abandoned with network := network })
              | (network, .ok connection) =>
                  (.ok (.pending ⟨number, attempt, connection, options.connectTimeout⟩),
                    { exchange.setOwner number reserved with network := network })

/-- How an attempt ended. -/
inductive Conclusion where
  | connected
  | failed (fault : SessionError)
  /-- It was given up. -/
  | cancelled
  deriving DecidableEq

/-- Ends an attempt without a session. -/
def abandon (exchange : Exchange η) (pending : Pending) : Exchange η :=
  let exchange := { exchange with network := exchange.network.close pending.connection }
  match exchange.owner? pending.owner with
  | none => exchange
  | some owner => exchange.setOwner pending.owner (owner.abandon pending.attempt)

/-- Ends an attempt with a session. -/
def establish (exchange : Exchange η) (pending : Pending) : Exchange η :=
  match (exchange.owner? pending.owner).map (·.establish pending.attempt) with
  | some (owner, some generation) =>
      { exchange.setOwner pending.owner owner with
        network := exchange.network.carry pending.connection ⟨pending.owner, generation⟩ }
  | some (_, none) | none => exchange

/-- After how many milliseconds a client gives up on a broker that does not answer. -/
def answerLimit : Nat := 5000

/-- When an attempt is answered, and how. -/
def answer (network : Network) (pending : Pending) : Nat × Except HandshakeFault Unit :=
  match network.verdict? pending.connection with
  | some verdict => (0, verdict)
  | none => (answerLimit, .error .unanswered)

/-- Waits for the end of an attempt, which may be given up after so many milliseconds.  A limit of
zero does not wait for any answer. -/
def conclude (pending : Pending) (patience : Option Nat) : StateM (Exchange η) Conclusion :=
  fun exchange =>
    let (time, verdict) := answer exchange.network pending
    let timeout := pending.timeout.millis
    let limit := min timeout (patience.getD timeout)
    if time ≤ limit ∧ 0 < limit then
      let exchange := exchange.wait time
      match verdict with
      | .ok () => (.connected, exchange.establish pending)
      | .error fault => (.failed (.handshake fault), exchange.abandon pending)
    else
      let exchange := (exchange.wait limit).abandon pending
      if limit < timeout then (.cancelled, exchange)
      else (.failed (.timeout pending.timeout), exchange)

/-- Connects: an attempt from its beginning to its end. -/
def connect (number : Nat) (options : SessionOptions) :
    StateM (Exchange η) (Except SessionError Unit) := do
  match ← dial number options with
  | .error fault => return .error fault
  | .ok .alreadyConnected => return .ok ()
  | .ok (.pending pending) =>
      match ← conclude pending none with
      | .connected => return .ok ()
      | .failed fault => return .error fault
      | .cancelled => return .error (.timeout options.connectTimeout)

/-! ## Sessions -/

/-- Lets an owner ask something of its session. -/
def ask {α : Type} (number : Nat) (absent : α)
    (action : SessionOwner η → StateM Network (SessionOwner η × α)) : StateM (Exchange η) α :=
  fun exchange =>
    match exchange.owner? number with
    | none => (absent, exchange)
    | some owner =>
        let ((owner, result), network) := action owner exchange.network
        (result, { exchange.setOwner number owner with network := network })

def subscribe (number : Nat) (topic : String) :
    StateM (Exchange η) (Except SessionError Unit) :=
  ask number (.error .notConnected) fun owner => owner.subscribe (Network.transport number) topic

/-- Opens a bus on the session of an owner. -/
def openBus (number : Nat) (bus : Databus) : StateM (Exchange η) (Except SessionError Databus) :=
  ask number (.error .notConnected) fun owner => owner.openBus (Network.transport number) bus

/-- Opens a bus on a session of its own: gives the bus and the owner of its session. -/
def initBus (handler : η) (options : SessionOptions) (bus : Databus) :
    StateM (Exchange η) (Except SessionError (Nat × Databus)) := do
  let number := (← get).owners.length
  modify (·.addOwner handler)
  match ← connect number options with
  | .error fault => return .error fault
  | .ok () => return (← openBus number bus).map (number, ·)

def publish (number : Nat) : Publisher (Exchange η) := fun publication =>
  ask number (.error .notConnected) fun owner => do
    return (owner, ← owner.publish (Network.transport number) publication)

def disconnect (number : Nat) : StateM (Exchange η) Unit :=
  ask number () fun owner => do
    return (← owner.disconnect (Network.transport number), ())

/-- What a bridge needs, from the session of an owner. -/
def uplink (number : Nat) : Uplink (Exchange η) where
  connect := connect number
  subscribe := subscribe number
  publish := publish number
  disconnect := disconnect number

end Exchange

end ShellBridge
