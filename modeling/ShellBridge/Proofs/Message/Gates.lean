import ShellBridge.Databus
import ShellBridge.Proofs.Message.RoundTrip
import ShellBridge.Proofs.Publisher.Calls

/-!
The gates that frames pass.

A frame is looked at where it is built, written and read, on its own and in a message, and before it
goes out on the bus.  All gates come to the same verdict, which is found by looking at the mandatory
fields in a fixed order.
-/

namespace ShellBridge

open Json

/-- The mandatory fields, in the order in which they are looked at. -/
def MandatoryField.all : List MandatoryField :=
  [.type, .conversation, .messageId, .protocol]

namespace Frame

/-! ### The verdict -/

/-- The frame does not set the field. -/
def Unset (frame : Frame) : MandatoryField → Prop
  | .type => frame.type = ""
  | .conversation => frame.conversation = ""
  | .messageId => frame.messageId = .null ∨ frame.messageId = .string ""
  | .protocol => frame.protocol.keys = []

instance (frame : Frame) : DecidablePred frame.Unset
  | .type => inferInstanceAs (Decidable (frame.type = ""))
  | .conversation => inferInstanceAs (Decidable (frame.conversation = ""))
  | .messageId =>
      inferInstanceAs (Decidable (frame.messageId = .null ∨ frame.messageId = .string ""))
  | .protocol => inferInstanceAs (Decidable (frame.protocol.keys = []))

/-- The first mandatory field that is not set is missing. -/
def verdict (frame : Frame) : Except FrameFault Unit :=
  match MandatoryField.all.find? fun field => frame.Unset field with
  | some field => .error (.missing field)
  | none => .ok ()

theorem isUnset_iff (messageId : Value) :
    isUnset messageId = true ↔ messageId = .null ∨ messageId = .string "" := by
  have null : messageId = .null ↔ messageId.val = .null := Subtype.ext_iff
  have empty : messageId = .string "" ↔ messageId.val = .string "" := Subtype.ext_iff
  rw [null, empty, isUnset]
  cases messageId.val <;> simp

theorem missing?_eq (frame : Frame) :
    frame.missing? = MandatoryField.all.find? fun field => frame.Unset field := by
  have messageId : (isUnset frame.messageId = true) = frame.Unset .messageId :=
    propext (isUnset_iff frame.messageId)
  have opened : frame.missing? =
      if frame.Unset .type then some .type
      else if frame.Unset .conversation then some .conversation
      else if frame.Unset .messageId then some .messageId
      else if frame.Unset .protocol then some .protocol
      else none := by
    simp only [missing?, messageId]
    rfl
  rw [opened]
  split_ifs <;> simp [MandatoryField.all, *]

theorem validate_eq (frame : Frame) : frame.validate = frame.verdict := by
  rw [validate, missing?_eq]
  rfl

theorem verdict_eq_ok_iff {frame : Frame} :
    frame.verdict = .ok () ↔ ∀ field, ¬ frame.Unset field := by
  have all : ∀ field, field ∈ MandatoryField.all := by
    intro field
    cases field <;> decide
  rw [verdict]
  cases first : MandatoryField.all.find? fun field => frame.Unset field with
  | some field =>
      have unset : frame.Unset field := by simpa using List.find?_some first
      simpa using ⟨field, unset⟩
  | none =>
      have set : ∀ field, ¬ frame.Unset field := by
        intro field
        simpa using List.find?_eq_none.mp first field (all field)
      simpa using set

theorem verdict_eq_missing_iff {frame : Frame} {field : MandatoryField} :
    frame.verdict = .error (.missing field) ↔
      MandatoryField.all.find? (fun field => frame.Unset field) = some field := by
  rw [verdict]
  cases MandatoryField.all.find? fun field => frame.Unset field <;> simp

theorem verdict_ne_malformed (frame : Frame) (refusal : Json.Refusal) :
    frame.verdict ≠ .error (.malformed refusal) := by
  rw [verdict]
  cases MandatoryField.all.find? fun field => frame.Unset field <;> simp

/-! ### Frames on their own -/

theorem encode_eq (frame : Frame) :
    frame.encode = frame.verdict.map fun _ => frame.toJson.bytes := by
  rw [encode, validate_eq]
  cases frame.verdict <;> rfl

theorem decode_eq {frame : Frame} (plain : frame.messageId.val.FloatFree)
    (fits : frame.toJson.depth ≤ depthLimit) :
    decode frame.toJson.bytes = frame.verdict.map fun _ => frame := by
  have read := parse_toOption plain
  rw [if_pos fits] at read
  rw [decode, checked_of_ok (eq_ok_of_toOption read), validate_eq]

/-! ### Frames under construction -/

/-- One call on a frame under construction. -/
inductive Setting where
  | type (type : String)
  | sender (sender : Participant)
  | receiver (receiver : Participant)
  | conversation (conversation : String)
  | messageId (messageId : Value)
  | inReplyTo (inReplyTo : String)
  | replyBy (replyBy : String)
  | protocol (protocol : Protocol)

def Setting.field : Setting → Field
  | type _ => .type
  | sender _ => .sender
  | receiver _ => .receiver
  | conversation _ => .conversation
  | messageId _ => .messageId
  | inReplyTo _ => .inReplyTo
  | replyBy _ => .replyBy
  | protocol _ => .protocol

namespace Draft

def apply (draft : Draft) : Setting → Draft
  | .type type => draft.setType type
  | .sender sender => draft.setSender sender
  | .receiver receiver => draft.setReceiver receiver
  | .conversation conversation => draft.setConversation conversation
  | .messageId messageId => draft.setMessageId messageId
  | .inReplyTo inReplyTo => draft.setInReplyTo inReplyTo
  | .replyBy replyBy => draft.setReplyBy replyBy
  | .protocol protocol => draft.setProtocol protocol

/-- Settings of different fields do not get in each other's way. -/
theorem apply_comm {first second : Setting} (different : first.field ≠ second.field)
    (draft : Draft) : (draft.apply first).apply second = (draft.apply second).apply first := by
  cases first <;> cases second <;> first | rfl | exact absurd rfl different

end Draft

/-- The settings of all that a frame has. -/
def settings (frame : Frame) : List Setting :=
  [.type frame.type] ++ (frame.sender.map Setting.sender).toList
    ++ (frame.receiver.map Setting.receiver).toList
    ++ [.conversation frame.conversation, .messageId frame.messageId]
    ++ (frame.inReplyTo.map Setting.inReplyTo).toList
    ++ (frame.replyBy.map Setting.replyBy).toList ++ [.protocol frame.protocol]

theorem build_settings (frame : Frame) :
    (frame.settings.foldl Draft.apply .empty).build = frame.verdict.map fun _ => frame := by
  have built : (frame.settings.foldl Draft.apply .empty).build =
      frame.validate.map fun _ => frame := by
    rcases frame with
      ⟨type, sender, receiver, conversation, messageId, inReplyTo, replyBy, protocol⟩
    cases sender <;> cases receiver <;> cases inReplyTo <;> cases replyBy <;> rfl
  rw [built, validate_eq]

/-- The order of the settings does not matter. -/
theorem foldl_settings (frame : Frame) {order : List Setting} (perm : order.Perm frame.settings) :
    order.foldl Draft.apply .empty = frame.settings.foldl Draft.apply .empty := by
  have fields : (frame.settings.map Setting.field).Nodup := by
    rcases frame with
      ⟨type, sender, receiver, conversation, messageId, inReplyTo, replyBy, protocol⟩
    cases sender <;> cases receiver <;> cases inReplyTo <;> cases replyBy <;>
      simp [settings, Setting.field]
  apply perm.foldl_eq'
  intro first membership second membership' draft
  by_cases same : first.field = second.field
  · rw [List.inj_on_of_nodup_map fields (perm.mem_iff.mp membership)
      (perm.mem_iff.mp membership') same]
  · exact (Draft.apply_comm same draft)

end Frame

/-! ### Frames in messages -/

namespace Message

variable {α : Type}

/-- A message without elements. -/
def bare (frame : Frame) : Message α :=
  ⟨frame, []⟩

theorem encode_eq (codec : ElementCodec α) (message : Message α) :
    message.encode codec = message.frame.verdict.map fun _ => (message.toJson codec).bytes := by
  rw [encode, Frame.validate_eq]
  cases message.frame.verdict <;> rfl

theorem floatFree_bare {codec : ElementCodec α} {frame : Frame}
    (plain : frame.messageId.val.FloatFree) : ((bare frame : Message α).toJson codec).FloatFree :=
  ⟨Frame.floatFree_toJson plain, trivial, trivial⟩

theorem decode_bare {codec : ElementCodec α} {need : Json → Nat} {Proper : α → Prop}
    (lawful : codec.Lawful need Proper) {frame : Frame} (plain : frame.messageId.val.FloatFree)
    (fits : ((bare frame : Message α).toJson codec).depth ≤ depthLimit) :
    decode codec ((bare frame : Message α).toJson codec).bytes =
      frame.verdict.map fun _ => bare frame := by
  have proper : ∀ x ∈ (bare frame : Message α).elements, Proper x := by
    intro x membership
    cases membership
  have read := parse_toOption lawful proper (floatFree_bare plain)
  rw [if_pos fits] at read
  rw [decode, checked_of_ok (eq_ok_of_toOption read), bare, Frame.validate_eq]

end Message

/-! ### Messages on the bus -/

namespace Databus

variable {α σ : Type} (out : Publisher σ) (bus : Databus) (codec : ElementCodec α)
  {message : Message α} (state : σ)

/-- A message whose frame lacks a field does not reach the transport. -/
theorem makes_publish_of_error {fault : FrameFault}
    (rejected : message.frame.verdict = .error fault) :
    Makes (bus.publish (recording out) codec message) state false state [] := by
  have none : bus.publication? codec message = none := by
    rw [publication?, Message.encode_eq, rejected]
    rfl
  rw [publish, none]
  exact Makes.nothing false state

/-- Any other message is handed to the transport, once. -/
theorem makes_publish_of_ok (accepted : message.frame.verdict = .ok ()) :
    let publication := Publication.atLeastOnce bus.outbox (message.toJson codec).bytes
    Makes (bus.publish (recording out) codec message) state (out publication state).1.isOk
      (out publication state).2 [⟨publication, (out publication state).1⟩] := by
  have some : bus.publication? codec message =
      some (.atLeastOnce bus.outbox (message.toJson codec).bytes) := by
    rw [publication?, Message.encode_eq, accepted]
    rfl
  intro publication
  rw [publish, some]
  exact (Makes.publication out publication state).returning Except.isOk

end Databus

namespace Frame

/-- All gates come to the verdict on the frame. -/
structure GatesAgree (frame : Frame) : Prop where
  validate : frame.validate = frame.verdict
  encode : frame.encode = frame.verdict.map fun _ => frame.toJson.bytes
  /-- The document of the frame is read as it is, whatever it lacks, and looked at then. -/
  decode : Frame.decode frame.toJson.bytes = frame.verdict.map fun _ => frame
  build : ∀ order : List Setting, order.Perm frame.settings →
    (order.foldl Draft.apply .empty).build = frame.verdict.map fun _ => frame
  encodeMessage : ∀ {α : Type} (codec : ElementCodec α) (elements : List α),
    (⟨frame, elements⟩ : Message α).encode codec =
      frame.verdict.map fun _ => ((⟨frame, elements⟩ : Message α).toJson codec).bytes
  decodeMessage : Message.decode .generic ((.bare frame : Message Members).toJson .generic).bytes =
    frame.verdict.map fun _ => .bare frame
  decodeElementMessage : Message.decode .submodelElement
      ((.bare frame : Message Element).toJson .submodelElement).bytes =
    frame.verdict.map fun _ => .bare frame
  /-- The bus hands nothing to the transport for a frame that lacks a field. -/
  withhold : ∀ fault, frame.verdict = .error fault →
    ∀ {α σ : Type} (out : Publisher σ) (bus : Databus) (codec : ElementCodec α)
      (elements : List α) (state : σ),
      Makes (bus.publish (recording out) codec ⟨frame, elements⟩) state false state []
  /-- For any other frame it hands over the message, once. -/
  publish : frame.verdict = .ok () →
    ∀ {α σ : Type} (out : Publisher σ) (bus : Databus) (codec : ElementCodec α)
      (elements : List α) (state : σ),
      let message : Message α := ⟨frame, elements⟩
      let publication := Publication.atLeastOnce bus.outbox (message.toJson codec).bytes
      Makes (bus.publish (recording out) codec message) state (out publication state).1.isOk
        (out publication state).2 [⟨publication, (out publication state).1⟩]

/-- The gates for a frame agree if its message number holds no floats and its text keeps the limit
of nesting, even in a message. -/
theorem gates_agree {frame : Frame} (plain : frame.messageId.val.FloatFree)
    (fits : ((.bare frame : Message Members).toJson .generic).depth ≤ 127) :
    frame.GatesAgree where
  validate := frame.validate_eq
  encode := frame.encode_eq
  decode := by
    have inside : frame.toJson.depth < 127 := by
      rw [Message.depth_toJson] at fits
      exact Nat.lt_of_succ_le (Nat.le_trans (Nat.succ_le_succ (Nat.le_max_left _ _)) fits)
    exact decode_eq plain (Nat.le_of_lt inside)
  build := by
    intro order perm
    rw [frame.foldl_settings perm, build_settings]
  encodeMessage codec elements := Message.encode_eq codec ⟨frame, elements⟩
  decodeMessage := Message.decode_bare ElementCodec.generic_lawful plain fits
  decodeElementMessage := Message.decode_bare ElementCodec.submodelElement_lawful plain fits
  withhold := by
    intro fault rejected α σ out bus codec elements state
    exact bus.makes_publish_of_error out codec state rejected
  publish := by
    intro accepted α σ out bus codec elements state
    exact bus.makes_publish_of_ok out codec state accepted

/-- A frame that sets neither a conversation nor a message number nor a protocol. -/
def lacking : Frame :=
  ⟨"call", none, some (.new "urn:a" "" "\n"), "", .string "", none, some "", ⟨[]⟩⟩

/-- A transport that takes every publication, and counts them. -/
def counting : Publisher Nat :=
  fun _ count => (.ok (), count + 1)

/-- Every gate names the first of several fields that are missing; and a frame that has all of them
passes. -/
theorem gates_agree_of_lacking :
    FrameFault.message (.missing .conversation) = "missing mandatory field: conversationId" ∧
      lacking.validate = .error (.missing .conversation) ∧
      lacking.encode = .error (.missing .conversation) ∧
      decode lacking.toJson.bytes = .error (.missing .conversation) ∧
      (lacking.settings.reverse.foldl Draft.apply .empty).build =
        .error (.missing .conversation) ∧
      Message.decode .generic ((.bare lacking : Message Members).toJson .generic).bytes =
        .error (.missing .conversation) ∧
      Makes (Databus.standard.publish (recording counting) .generic ⟨lacking, [.empty]⟩) 0 false 0
        [] ∧
      (nesting 2).validate = .ok () ∧
      decode (nesting 2).toJson.bytes = .ok (nesting 2) ∧
      ((nesting 2).settings.reverse.foldl Draft.apply .empty).build = .ok (nesting 2) ∧
      ∃ payload, Makes
        (Databus.standard.publish (recording counting) .generic ⟨nesting 2, [.empty]⟩) 0 true 1
        [⟨.atLeastOnce "i40/outbox" payload, .ok ()⟩] := by
  have rejected : lacking.verdict = .error (.missing .conversation) := rfl
  have gates : lacking.GatesAgree := gates_agree trivial (by decide)
  have accepted : (nesting 2).verdict = .ok () := rfl
  have gates' : (nesting 2).GatesAgree := gates_agree (floatFree_extremes 2) (by decide)
  refine ⟨rfl, ?_, ?_, ?_, ?_, ?_, ?_, ?_, ?_, ?_, ?_⟩
  · rw [gates.validate, rejected]
  · rw [gates.encode, rejected]
    rfl
  · rw [gates.decode, rejected]
    rfl
  · rw [gates.build _ (List.reverse_perm _), rejected]
    rfl
  · rw [gates.decodeMessage, rejected]
    rfl
  · exact gates.withhold _ rejected counting .standard .generic [.empty] 0
  · rw [gates'.validate, accepted]
  · rw [gates'.decode, accepted]
    rfl
  · rw [gates'.build _ (List.reverse_perm _), accepted]
    rfl
  · exact ⟨_, gates'.publish accepted counting .standard .generic [.empty] 0⟩

end Frame

end ShellBridge
