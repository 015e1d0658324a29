import ShellBridge.Address
import ShellBridge.Databus
import ShellBridge.Handshake
import ShellBridge.Session.Options

/-!
Sessions with brokers.

An owner has one place for a session.

```text
vacant --begin--> reserved --establish--> occupied --disconnect, loss--> vacant
                  reserved --abandon, disconnect--> vacant
```

An attempt to connect reserves the place and ends later, when the broker has answered or the attempt
is given up.  Whatever else happens in between, an attempt that succeeds takes the place, and one
that fails frees it if it is reserved.

Every session gets the next generation.  A delivery task stands beside each session until its
connection ends, and passes on what the transport reports.  The task of a session that is no longer
in place may live on; its loss is not told.
-/

namespace ShellBridge

inductive SessionError where
  | address (refusal : Address.Refusal)
  | handshake (fault : HandshakeFault)
  | timeout (limit : Duration)
  | alreadyConnected (broker clientId : String)
  | inProgress
  | notConnected
  | alreadySubscribed (topic : String)
  | subscription (reason : String)
  deriving DecidableEq, Repr

def SessionError.message : SessionError → String
  | address refusal => refusal.message
  | handshake fault => s!"connection error: {fault.message}"
  | timeout limit => s!"connection timed out after {limit.text}"
  | alreadyConnected broker clientId => s!"already connected to {broker} as {clientId}"
  | inProgress => "connection attempt already in progress"
  | notConnected => "not connected"
  | alreadySubscribed topic => s!"already subscribed to {topic}"
  | subscription reason => s!"subscription error: {reason}"

structure Session where
  options : SessionOptions
  /-- The topic of inbound messages. -/
  subscription : Option String
  /-- Which session of its owner this is, counted without a bound; the wrap of a counter of 64 bits
  after 2^64 sessions is left out. -/
  generation : Nat
  deriving DecidableEq

inductive Slot where
  | vacant
  | reserved
  | occupied (session : Session)
  deriving DecidableEq

def Slot.session? : Slot → Option Session
  | occupied session => some session
  | vacant | reserved => none

/-- What a session asks of its transport. -/
inductive Request where
  | publish (publication : Publication)
  | subscribe (topic : String)
  | disconnect
  deriving DecidableEq

/-- Takes requests of the session of a generation, or gives the reason why it does not. -/
abbrev Transport (σ : Type) : Type :=
  Nat → Request → StateM σ (Except String Unit)

/-- What a transport reports to the delivery task of a session. -/
inductive Report where
  | arrived (topic : String) (payload : Bytes)
  | acknowledged (packet : Nat)
  /-- The request to disconnect went out. -/
  | closed
  | failed (cause : String)
  deriving DecidableEq

/-- An attempt to connect that has not ended. -/
structure Attempt where
  number : Nat
  options : SessionOptions
  deriving DecidableEq

/-- The delivery task of a session whose connection has not ended. -/
structure Delivery where
  generation : Nat
  broker : String
  deriving DecidableEq

/-- The owner of one session.  Its handler, of type `η`, is told what happens. -/
structure SessionOwner (η : Type) where
  slot : Slot
  handler : η
  /-- How many sessions were established; the wrap after 2^64 of them is left out here too. -/
  generations : Nat
  /-- How many attempts were begun. -/
  begun : Nat
  attempts : List Attempt
  deliveries : List Delivery
  deriving DecidableEq

namespace SessionOwner

variable {η σ : Type}

def new (handler : η) : SessionOwner η :=
  ⟨.vacant, handler, 0, 0, [], []⟩

def session? (owner : SessionOwner η) : Option Session :=
  owner.slot.session?

def isConnected (owner : SessionOwner η) : Bool :=
  owner.session?.isSome

/-- The address of the broker of the session. -/
def broker? (owner : SessionOwner η) : Option String :=
  owner.session?.map (·.options.broker)

/-- The topic of inbound messages of the session. -/
def subscription? (owner : SessionOwner η) : Option String :=
  owner.session?.bind (·.subscription)

def setHandler (owner : SessionOwner η) (handler : η) : SessionOwner η :=
  { owner with handler := handler }

inductive Begun where
  /-- There is a session with these options. -/
  | alreadyConnected
  /-- An attempt was begun. -/
  | attempt (number : Nat)
  deriving DecidableEq, Repr

/-- Begins an attempt to connect, if there is neither a session nor an attempt. -/
def begin (owner : SessionOwner η) (options : SessionOptions) :
    SessionOwner η × Except SessionError Begun :=
  match owner.slot with
  | .occupied session =>
      if session.options = options then (owner, .ok .alreadyConnected)
      else (owner, .error (.alreadyConnected session.options.broker session.options.clientId))
  | .reserved => (owner, .error .inProgress)
  | .vacant =>
      let number := owner.begun + 1
      ({ owner with
          slot := .reserved
          begun := number
          attempts := owner.attempts ++ [⟨number, options⟩] },
        .ok (.attempt number))

def attempt? (owner : SessionOwner η) (number : Nat) : Option Attempt :=
  owner.attempts.find? (·.number = number)

def endAttempt (owner : SessionOwner η) (number : Nat) : SessionOwner η :=
  { owner with attempts := owner.attempts.filter (·.number ≠ number) }

/-- Ends an attempt with a session in place; gives its generation. -/
def establish (owner : SessionOwner η) (number : Nat) : SessionOwner η × Option Nat :=
  match owner.attempt? number with
  | none => (owner, none)
  | some attempt =>
      let generation := owner.generations + 1
      ({ owner.endAttempt number with
          slot := .occupied ⟨attempt.options, none, generation⟩
          generations := generation
          deliveries := owner.deliveries ++ [⟨generation, attempt.options.broker⟩] },
        some generation)

/-- Ends an attempt without a session: it failed, took too long or was given up. -/
def abandon (owner : SessionOwner η) (number : Nat) : SessionOwner η :=
  match owner.attempt? number with
  | none => owner
  | some _ =>
      let owner := owner.endAttempt number
      if owner.slot = .reserved then { owner with slot := .vacant } else owner

variable (transport : Transport σ)

/-- Subscribes to the topic of inbound messages.  A session has one such topic; asking for it again
changes nothing. -/
def subscribe (owner : SessionOwner η) (topic : String) :
    StateM σ (SessionOwner η × Except SessionError Unit) :=
  match owner.slot with
  | .occupied session =>
      match session.subscription with
      | some existing =>
          if existing = topic then return (owner, .ok ())
          else return (owner, .error (.alreadySubscribed existing))
      | none => do
          match ← transport session.generation (.subscribe topic) with
          | .ok () =>
              return ({ owner with slot := .occupied { session with subscription := some topic } },
                .ok ())
          | .error reason => return (owner, .error (.subscription reason))
  | .vacant | .reserved => return (owner, .error .notConnected)

/-- Opens a bus on the session: subscribes to its inbox. -/
def openBus (owner : SessionOwner η) (bus : Databus) :
    StateM σ (SessionOwner η × Except SessionError Databus) := do
  let (owner, result) ← owner.subscribe transport bus.inbox
  return (owner, result.map fun () => bus)

def publish (owner : SessionOwner η) : Publisher σ := fun publication =>
  match owner.slot with
  | .occupied session => do
      match ← transport session.generation (.publish publication) with
      | .ok () => return .ok ()
      | .error reason => return .error (.transport reason)
  | .vacant | .reserved => return .error .notConnected

/-- Frees the place, and ends the session if there is one.  A request to disconnect that the
transport does not take is lost. -/
def disconnect (owner : SessionOwner η) : StateM σ (SessionOwner η) := do
  if let .occupied session := owner.slot then
    let _ ← transport session.generation .disconnect
  return { owner with slot := .vacant }

def delivery? (owner : SessionOwner η) (generation : Nat) : Option Delivery :=
  owner.deliveries.find? (·.generation = generation)

def endDelivery (owner : SessionOwner η) (generation : Nat) : SessionOwner η :=
  { owner with deliveries := owner.deliveries.filter (·.generation ≠ generation) }

/-- Takes a report to the delivery task of a generation.  The result tells what the handler that is
now installed is told. -/
def report (owner : SessionOwner η) (generation : Nat) (report : Report) :
    SessionOwner η × Option (η × Notice) :=
  match owner.delivery? generation with
  | none => (owner, none)
  | some delivery =>
      match report with
      | .arrived topic payload => (owner, some (owner.handler, .arrived topic payload))
      | .acknowledged packet => (owner, some (owner.handler, .delivered packet))
      | .closed => (owner.endDelivery generation, none)
      | .failed cause =>
          let ended := owner.endDelivery generation
          if owner.session?.any (·.generation = generation) then
            ({ ended with slot := .vacant }, some (owner.handler, .lost delivery.broker cause))
          else (ended, none)

end SessionOwner

end ShellBridge
