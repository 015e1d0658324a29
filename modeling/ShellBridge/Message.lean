import ShellBridge.Element
import ShellBridge.Frame

/-!
I4.0 messages: a frame and a list of interaction elements.

The elements of one message are of one type: objects of any kind, or snapshots of submodel
elements.
-/

namespace ShellBridge

open Json

/-- How the interaction elements of a message are written and read. -/
structure ElementCodec (α : Type) where
  toJson : α → Json
  format : Format α

namespace ElementCodec

/-- Objects with any members. -/
def generic : ElementCodec Members where
  toJson members := .object members.val
  format := .members

def submodelElement : ElementCodec Element where
  toJson := Element.toJson
  format := Element.format

end ElementCodec

structure Message (α : Type) where
  frame : Frame
  elements : List α
  deriving DecidableEq

namespace Message

variable {α : Type}

def toJson (codec : ElementCodec α) (message : Message α) : Json :=
  .object [("frame", message.frame.toJson),
    ("interactionElements", .array (message.elements.map codec.toJson))]

inductive Field where
  | frame
  | elements
  deriving DecidableEq

def record (codec : ElementCodec α) : Record Field (Message α) where
  title := "struct I40Message"
  fields := [.frame, .elements]
  key
    | .frame => "frame"
    | .elements => "interactionElements"
  Ty
    | .frame => Frame
    | .elements => List α
  format
    | .frame => Frame.format
    | .elements => .list codec.format
  absent
    | .frame => none
    | .elements => some []
  build get := do .ok ⟨← get .frame, ← get .elements⟩

/-- The bytes of a message with a valid frame. -/
def encode (codec : ElementCodec α) (message : Message α) : Except FrameFault Bytes := do
  message.frame.validate
  .ok (message.toJson codec).bytes

/-- Reads a message without asking whether its frame is valid. -/
def parse (codec : ElementCodec α) (text : Bytes) : Except Json.Refusal (Message α) :=
  (record codec).toFormat.parse text

/-- Reads a message and accepts it if its frame is valid. -/
def decode (codec : ElementCodec α) (text : Bytes) : Except FrameFault (Message α) := do
  let message ← (parse codec text).mapError .malformed
  message.frame.validate
  .ok message

end Message

end ShellBridge
