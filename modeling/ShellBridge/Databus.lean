import ShellBridge.Message
import ShellBridge.Publisher

/-!
The bus for I4.0 messages.

Messages go out on one topic and come in on another.  A message whose frame lacks a mandatory field
does not go out, and what comes in is dropped unless it reads as a message with a valid frame.
-/

namespace ShellBridge

structure Databus where
  inbox : String
  outbox : String
  deriving DecidableEq, Repr

namespace Databus

/-- The topics that are used where none are configured. -/
def standard : Databus := ⟨"i40/inbox", "i40/outbox"⟩

variable {α σ : Type}

/-- What is published for a message, if its frame is valid. -/
def publication? (bus : Databus) (codec : ElementCodec α) (message : Message α) :
    Option Publication :=
  match message.encode codec with
  | .ok payload => some (.atLeastOnce bus.outbox payload)
  | .error _ => none

/-- Publishes a message; tells whether the transport took it. -/
def publish (out : Publisher σ) (bus : Databus) (codec : ElementCodec α) (message : Message α) :
    StateM σ Bool :=
  match bus.publication? codec message with
  | some publication => return (← out publication).isOk
  | none => return false

end Databus

/-- What a session tells its handler. -/
inductive Notice where
  | arrived (topic : String) (payload : Bytes)
  | delivered (packet : Nat)
  | lost (broker cause : String)
  deriving DecidableEq

/-- The valid message that arrived, with its topic. -/
def Notice.message? {α : Type} (codec : ElementCodec α) : Notice → Option (String × Message α)
  | arrived topic payload => (Message.decode codec payload).toOption.map (topic, ·)
  | delivered _ | lost _ _ => none

end ShellBridge
