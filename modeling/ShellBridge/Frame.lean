import ShellBridge.Json.Format

/-!
Frames of I4.0 messages: who sends to whom, in which conversation, under which protocol.

Type, conversation, message number and protocol are mandatory.  A frame that lacks one is neither
written nor accepted.
-/

namespace ShellBridge

open Json

structure Identification where
  id : String
  idType : String
  deriving DecidableEq

structure Role where
  name : String
  deriving DecidableEq

structure Participant where
  identification : Identification
  role : Role
  deriving DecidableEq

structure ProtocolKey where
  type : String
  idType : String
  value : String
  deriving DecidableEq

/-- The semantic protocol of a conversation. -/
structure Protocol where
  keys : List ProtocolKey
  deriving DecidableEq

structure Frame where
  type : String
  sender : Option Participant
  receiver : Option Participant
  conversation : String
  messageId : Value
  inReplyTo : Option String
  replyBy : Option String
  protocol : Protocol
  deriving DecidableEq

namespace Identification

def toJson (identification : Identification) : Json :=
  .object [("id", .string identification.id), ("idType", .string identification.idType)]

inductive Field where
  | id
  | idType
  deriving DecidableEq

def record : Record Field Identification where
  title := "struct ParticipantIdentification"
  fields := [.id, .idType]
  key
    | .id => "id"
    | .idType => "idType"
  Ty _ := String
  format _ := .text
  absent _ := none
  build get := do .ok ⟨← get .id, ← get .idType⟩

end Identification

namespace Role

def toJson (role : Role) : Json :=
  .object [("name", .string role.name)]

inductive Field where
  | name
  deriving DecidableEq

def record : Record Field Role where
  title := "struct ParticipantRole"
  fields := [.name]
  key _ := "name"
  Ty _ := String
  format _ := .text
  absent _ := none
  build get := do .ok ⟨← get .name⟩

end Role

namespace Participant

def new (id idType role : String) : Participant :=
  ⟨⟨id, idType⟩, ⟨role⟩⟩

def toJson (participant : Participant) : Json :=
  .object [("identification", participant.identification.toJson),
    ("role", participant.role.toJson)]

inductive Field where
  | identification
  | role
  deriving DecidableEq

def record : Record Field Participant where
  title := "struct Participant"
  fields := [.identification, .role]
  key
    | .identification => "identification"
    | .role => "role"
  Ty
    | .identification => Identification
    | .role => Role
  format
    | .identification => Identification.record.toFormat
    | .role => Role.record.toFormat
  absent
    | .identification | .role => none
  build get := do .ok ⟨← get .identification, ← get .role⟩

def format : Format Participant := record.toFormat

end Participant

namespace ProtocolKey

def toJson (key : ProtocolKey) : Json :=
  .object [("type", .string key.type), ("idType", .string key.idType),
    ("value", .string key.value)]

inductive Field where
  | type
  | idType
  | value
  deriving DecidableEq

def record : Record Field ProtocolKey where
  title := "struct SemanticProtocolKey"
  fields := [.type, .idType, .value]
  key
    | .type => "type"
    | .idType => "idType"
    | .value => "value"
  Ty _ := String
  format _ := .text
  absent _ := none
  build get := do .ok ⟨← get .type, ← get .idType, ← get .value⟩

def format : Format ProtocolKey := record.toFormat

end ProtocolKey

namespace Protocol

/-- The protocol of one global reference. -/
def global (idType value : String) : Protocol :=
  ⟨[⟨"GLOBAL_REFERENCE", idType, value⟩]⟩

def toJson (protocol : Protocol) : Json :=
  .object [("keys", .array (protocol.keys.map ProtocolKey.toJson))]

inductive Field where
  | keys
  deriving DecidableEq

def record : Record Field Protocol where
  title := "struct SemanticProtocol"
  fields := [.keys]
  key _ := "keys"
  Ty _ := List ProtocolKey
  format _ := .list ProtocolKey.format
  absent _ := none
  build get := do .ok ⟨← get .keys⟩

def format : Format Protocol := record.toFormat

end Protocol

/-- The fields that every frame must set. -/
inductive MandatoryField where
  | type
  | conversation
  | messageId
  | protocol
  deriving DecidableEq, Repr

def MandatoryField.key : MandatoryField → String
  | type => "type"
  | conversation => "conversationId"
  | messageId => "messageId"
  | protocol => "semanticProtocol"

inductive FrameFault where
  | missing (field : MandatoryField)
  | malformed (refusal : Json.Refusal)
  deriving DecidableEq

def FrameFault.message : FrameFault → String
  | missing field => s!"missing mandatory field: {field.key}"
  | malformed refusal => s!"malformed frame: {refusal.message}"

namespace Frame

/-- Whether a message number counts as not set. -/
def isUnset (messageId : Value) : Bool :=
  match messageId.val with
  | .null => true
  | .string s => s == ""
  | _ => false

/-- The first mandatory field that is not set. -/
def missing? (frame : Frame) : Option MandatoryField :=
  if frame.type = "" then some .type
  else if frame.conversation = "" then some .conversation
  else if isUnset frame.messageId then some .messageId
  else if frame.protocol.keys = [] then some .protocol
  else none

def validate (frame : Frame) : Except FrameFault Unit :=
  match frame.missing? with
  | some field => .error (.missing field)
  | none => .ok ()

def optionalMember {α : Type} (key : String) (toJson : α → Json) : Option α → List (String × Json)
  | some x => [(key, toJson x)]
  | none => []

def toJson (frame : Frame) : Json :=
  .object ([("type", .string frame.type)]
    ++ optionalMember "sender" Participant.toJson frame.sender
    ++ optionalMember "receiver" Participant.toJson frame.receiver
    ++ [("conversationId", .string frame.conversation), ("messageId", frame.messageId.val)]
    ++ optionalMember "inReplyTo" Json.string frame.inReplyTo
    ++ optionalMember "replyBy" Json.string frame.replyBy
    ++ [("semanticProtocol", frame.protocol.toJson)])

inductive Field where
  | type
  | sender
  | receiver
  | conversation
  | messageId
  | inReplyTo
  | replyBy
  | protocol
  deriving DecidableEq

def record : Record Field Frame where
  title := "struct MessageFrame"
  fields := [.type, .sender, .receiver, .conversation, .messageId, .inReplyTo, .replyBy, .protocol]
  key
    | .type => "type"
    | .sender => "sender"
    | .receiver => "receiver"
    | .conversation => "conversationId"
    | .messageId => "messageId"
    | .inReplyTo => "inReplyTo"
    | .replyBy => "replyBy"
    | .protocol => "semanticProtocol"
  Ty
    | .type | .conversation => String
    | .sender | .receiver => Option Participant
    | .messageId => Value
    | .inReplyTo | .replyBy => Option String
    | .protocol => Protocol
  format
    | .type | .conversation => .text
    | .sender | .receiver => .optional Participant.format
    | .messageId => .value
    | .inReplyTo | .replyBy => .optional .text
    | .protocol => Protocol.format
  absent
    | .type | .conversation | .messageId | .protocol => none
    | .sender | .receiver | .inReplyTo | .replyBy => some none
  build get := do
    let type ← get .type
    let sender ← get .sender
    let receiver ← get .receiver
    let conversation ← get .conversation
    let messageId ← get .messageId
    let inReplyTo ← get .inReplyTo
    let replyBy ← get .replyBy
    let protocol ← get .protocol
    .ok ⟨type, sender, receiver, conversation, messageId, inReplyTo, replyBy, protocol⟩

def format : Format Frame := record.toFormat

/-- The bytes of a valid frame. -/
def encode (frame : Frame) : Except FrameFault Bytes := do
  frame.validate
  .ok frame.toJson.bytes

/-- Reads a frame and accepts it if it is valid. -/
def decode (text : Bytes) : Except FrameFault Frame := do
  let frame ← (format.parse text).mapError .malformed
  frame.validate
  .ok frame

/-- A frame under construction. -/
structure Draft where
  type : Option String
  sender : Option Participant
  receiver : Option Participant
  conversation : Option String
  messageId : Option Value
  inReplyTo : Option String
  replyBy : Option String
  protocol : Option Protocol
  deriving DecidableEq

namespace Draft

def empty : Draft := ⟨none, none, none, none, none, none, none, none⟩

def setType (draft : Draft) (type : String) : Draft :=
  { draft with type := some type }

def setSender (draft : Draft) (sender : Participant) : Draft :=
  { draft with sender := some sender }

def setReceiver (draft : Draft) (receiver : Participant) : Draft :=
  { draft with receiver := some receiver }

def setConversation (draft : Draft) (conversation : String) : Draft :=
  { draft with conversation := some conversation }

def setMessageId (draft : Draft) (messageId : Value) : Draft :=
  { draft with messageId := some messageId }

def setInReplyTo (draft : Draft) (inReplyTo : String) : Draft :=
  { draft with inReplyTo := some inReplyTo }

def setReplyBy (draft : Draft) (replyBy : String) : Draft :=
  { draft with replyBy := some replyBy }

def setProtocol (draft : Draft) (protocol : Protocol) : Draft :=
  { draft with protocol := some protocol }

def need {α : Type} (field : MandatoryField) : Option α → Except FrameFault α
  | some x => .ok x
  | none => .error (.missing field)

/-- The finished frame, if it is valid. -/
def build (draft : Draft) : Except FrameFault Frame := do
  let type ← need .type draft.type
  let conversation ← need .conversation draft.conversation
  let messageId ← need .messageId draft.messageId
  let protocol ← need .protocol draft.protocol
  let frame : Frame :=
    ⟨type, draft.sender, draft.receiver, conversation, messageId, draft.inReplyTo, draft.replyBy,
      protocol⟩
  frame.validate
  .ok frame

end Draft

/-- How a reply refers to a message number: a string as it is, anything else by its text. -/
def reference (messageId : Value) : String :=
  match messageId.val with
  | .string s => s
  | j => j.text

/-- The draft of a reply: to the sender, in the same conversation, under the same protocol. -/
def reply (frame : Frame) : Draft where
  type := none
  sender := frame.receiver
  receiver := frame.sender
  conversation := some frame.conversation
  messageId := none
  inReplyTo := some (reference frame.messageId)
  replyBy := none
  protocol := some frame.protocol

end Frame

end ShellBridge
