import ShellBridge.Frame
import ShellBridge.Proofs.Json.Canonical
import ShellBridge.Proofs.Json.Records
import ShellBridge.Proofs.Json.Writing

/-!
Frames in a round trip.

A frame that was written is read back unless it nests too deep.  Everything around the message
number nests four levels at most, so that the message number alone decides.
-/

namespace ShellBridge

open Json

namespace Identification

/-- Identifications need room for themselves only. -/
def need : Json → Nat := record.need fun _ _ => 0

theorem agrees : record.toFormat.Agrees need := by
  apply Record.agrees
  intro f
  cases f <;> exact Format.text_agrees

def written (identification : Identification) : record.Written
  | .id => some (.string identification.id, identification.id)
  | .idType => some (.string identification.idType, identification.idType)

theorem ofJson_toJson (identification : Identification) :
    record.ofJson identification.toJson = .ok identification := by
  refine Record.ofJson_written identification.written ?_ ?_ (by decide)
  · intro f j x entry
    cases f <;> cases entry <;> rfl
  · intro f
    cases f <;> decide

end Identification

namespace Role

def need : Json → Nat := record.need fun _ _ => 0

theorem agrees : record.toFormat.Agrees need :=
  Record.agrees fun _ => Format.text_agrees

def written (role : Role) : record.Written
  | .name => some (.string role.name, role.name)

theorem ofJson_toJson (role : Role) : record.ofJson role.toJson = .ok role := by
  refine Record.ofJson_written role.written ?_ ?_ (by decide)
  · intro f j x entry
    cases f
    cases entry
    rfl
  · intro f
    cases f
    decide

end Role

namespace Participant

/-- The room that each field needs. -/
def needs : Field → Json → Nat
  | .identification => Identification.need
  | .role => Role.need

theorem agrees : format.Agrees (record.need needs) := by
  apply Record.agrees
  intro f
  cases f with
  | identification => exact Identification.agrees
  | role => exact Role.agrees

def written (participant : Participant) : record.Written
  | .identification => some (participant.identification.toJson, participant.identification)
  | .role => some (participant.role.toJson, participant.role)

theorem ofJson_toJson (participant : Participant) :
    record.ofJson participant.toJson = .ok participant := by
  refine Record.ofJson_written participant.written ?_ ?_ (by decide)
  · intro f j x entry
    cases f with
    | identification =>
        cases entry
        exact Identification.ofJson_toJson participant.identification
    | role =>
        cases entry
        exact Role.ofJson_toJson participant.role
  · intro f
    cases f <;> decide

end Participant

namespace ProtocolKey

def need : Json → Nat := record.need fun _ _ => 0

theorem agrees : format.Agrees need := by
  apply Record.agrees
  intro f
  cases f <;> exact Format.text_agrees

def written (key : ProtocolKey) : record.Written
  | .type => some (.string key.type, key.type)
  | .idType => some (.string key.idType, key.idType)
  | .value => some (.string key.value, key.value)

theorem ofJson_toJson (key : ProtocolKey) : record.ofJson key.toJson = .ok key := by
  refine Record.ofJson_written key.written ?_ ?_ (by decide)
  · intro f j x entry
    cases f <;> cases entry <;> rfl
  · intro f
    cases f <;> decide

end ProtocolKey

namespace Protocol

def needs : Field → Json → Nat
  | .keys => Format.listNeed ProtocolKey.need

theorem agrees : format.Agrees (record.need needs) := by
  apply Record.agrees
  intro f
  cases f with
  | keys => exact Format.list_agrees ProtocolKey.agrees

def written (protocol : Protocol) : record.Written
  | .keys => some (.array (protocol.keys.map ProtocolKey.toJson), protocol.keys)

theorem ofJson_toJson (protocol : Protocol) : record.ofJson protocol.toJson = .ok protocol := by
  refine Record.ofJson_written protocol.written ?_ ?_ (by decide)
  · intro f j x entry
    cases f
    cases entry
    exact Format.listOfJson_map fun key _ => ProtocolKey.ofJson_toJson key
  · intro f
    cases f
    decide

end Protocol

namespace Frame

/-- The room that each field needs: only the message number may nest at will. -/
def needs : Field → Json → Nat
  | .type | .conversation => fun _ => 0
  | .sender | .receiver => Format.optionalNeed (Participant.record.need Participant.needs)
  | .messageId => depth
  | .inReplyTo | .replyBy => Format.optionalNeed fun _ => 0
  | .protocol => Protocol.record.need Protocol.needs

theorem agrees : format.Agrees (record.need needs) := by
  apply Record.agrees
  intro f
  cases f with
  | type | conversation => exact Format.text_agrees
  | sender | receiver => exact Format.optional_agrees Participant.agrees
  | messageId => exact Format.value_agrees
  | inReplyTo | replyBy => exact Format.optional_agrees Format.text_agrees
  | protocol => exact Protocol.agrees

/-- The fields of a frame as they are written: the optional ones only if they are there. -/
def written (frame : Frame) : record.Written
  | .type => some (.string frame.type, frame.type)
  | .sender => frame.sender.map fun sender => (sender.toJson, some sender)
  | .receiver => frame.receiver.map fun receiver => (receiver.toJson, some receiver)
  | .conversation => some (.string frame.conversation, frame.conversation)
  | .messageId => some (frame.messageId.val, frame.messageId)
  | .inReplyTo => frame.inReplyTo.map fun text => (.string text, some text)
  | .replyBy => frame.replyBy.map fun text => (.string text, some text)
  | .protocol => some (frame.protocol.toJson, frame.protocol)

theorem toJson_eq_written (frame : Frame) :
    frame.toJson = .object (frame.written.members record.fields) := by
  rcases frame with
    ⟨type, sender, receiver, conversation, messageId, inReplyTo, replyBy, protocol⟩
  cases sender <;> cases receiver <;> cases inReplyTo <;> cases replyBy <;> rfl

theorem ofJson_of_written (frame : Frame) (f : Field) (j : Json) (x : record.Ty f)
    (entry : frame.written f = some (j, x)) : (record.format f).ofJson j = .ok x := by
  cases f with
  | type | conversation =>
      cases entry
      rfl
  | messageId =>
      cases entry
      exact congrArg Except.ok (Value.ofJson_val frame.messageId)
  | protocol =>
      cases entry
      exact Protocol.ofJson_toJson frame.protocol
  | sender | receiver =>
      obtain ⟨participant, _, same⟩ := Option.map_eq_some_iff.mp entry
      cases same
      have read : Participant.format.ofJson participant.toJson = .ok participant :=
        Participant.ofJson_toJson participant
      show (Participant.format.ofJson participant.toJson).map some = _
      rw [read]
      rfl
  | inReplyTo | replyBy =>
      obtain ⟨text, _, same⟩ := Option.map_eq_some_iff.mp entry
      cases same
      rfl

theorem ofJson_toJson (frame : Frame) : format.ofJson frame.toJson = .ok frame := by
  have all : ∀ f, f ∈ record.fields := by
    intro f
    cases f <;> decide
  have built : record.build frame.written.valueOf = .ok frame := by
    rcases frame with
      ⟨type, sender, receiver, conversation, messageId, inReplyTo, replyBy, protocol⟩
    cases sender <;> cases receiver <;> cases inReplyTo <;> cases replyBy <;> rfl
  rw [toJson_eq_written, ← built]
  exact Record.ofJson_written frame.written frame.ofJson_of_written all (by decide)

/-! ### How deep a frame nests -/

theorem depth_protocol_le (protocol : Protocol) : protocol.toJson.depth ≤ 3 := by
  have keys : itemsDepth (protocol.keys.map ProtocolKey.toJson) ≤ 1 := by
    rw [itemsDepth_le_iff]
    intro item membership
    obtain ⟨key, _, rfl⟩ := List.mem_map.mp membership
    exact Nat.le_refl 1
  simp only [Protocol.toJson, depth, membersDepth]
  omega

theorem depth_optionalMember_le {α : Type} (key : String) (toJson : α → Json) {bound : Nat}
    (bounded : ∀ x, (toJson x).depth ≤ bound) (x? : Option α) :
    membersDepth (optionalMember key toJson x?) ≤ bound := by
  cases x? with
  | none => exact Nat.zero_le _
  | some x => exact Nat.max_le.mpr ⟨bounded x, Nat.zero_le _⟩

/-- Everything around the message number nests four levels at most. -/
theorem depth_toJson_le (frame : Frame) :
    frame.toJson.depth ≤ max 4 (frame.messageId.val.depth + 1) := by
  have participant : ∀ participant : Participant, participant.toJson.depth ≤ 2 :=
    fun _ => Nat.le_refl 2
  have text : ∀ text : String, (Json.string text).depth ≤ 0 := fun _ => Nat.le_refl 0
  have sender := depth_optionalMember_le "sender" Participant.toJson participant frame.sender
  have receiver := depth_optionalMember_le "receiver" Participant.toJson participant frame.receiver
  have inReplyTo := depth_optionalMember_le "inReplyTo" Json.string text frame.inReplyTo
  have replyBy := depth_optionalMember_le "replyBy" Json.string text frame.replyBy
  have protocol := depth_protocol_le frame.protocol
  simp only [toJson, depth, membersDepth_append, membersDepth] at *
  omega

theorem depth_messageId_lt_need (frame : Frame) :
    frame.messageId.val.depth < record.need needs frame.toJson := by
  have membership : ("messageId", frame.messageId.val) ∈ frame.written.members record.fields :=
    List.mem_filterMap.mpr ⟨.messageId, by decide, rfl⟩
  have known : record.field? "messageId" = some .messageId := by decide
  have counted : needs .messageId frame.messageId.val <
      record.need needs (.object (frame.written.members record.fields)) :=
    Record.lt_need_of_mem membership known
  rw [toJson_eq_written]
  exact counted

theorem need_le_depth (j : Json) : record.need needs j ≤ j.depth := by
  have participant : ∀ j, Participant.record.need Participant.needs j ≤ j.depth := by
    apply Record.need_le_depth
    intro f
    cases f with
    | identification => exact Record.need_le_depth fun _ _ => Nat.zero_le _
    | role => exact Record.need_le_depth fun _ _ => Nat.zero_le _
  have protocol : ∀ j, Protocol.record.need Protocol.needs j ≤ j.depth := by
    apply Record.need_le_depth
    intro f
    cases f with
    | keys =>
        apply Format.listNeed_le_depth
        exact Record.need_le_depth fun _ _ => Nat.zero_le _
  apply Record.need_le_depth
  intro f
  cases f with
  | type | conversation => exact fun j => Nat.zero_le _
  | sender | receiver => exact Format.optionalNeed_le_depth participant
  | messageId => exact fun j => Nat.le_refl _
  | inReplyTo | replyBy => exact Format.optionalNeed_le_depth fun j => Nat.zero_le _
  | protocol => exact protocol

/-- A frame is accepted again exactly if its text keeps the limit of nesting. -/
theorem need_toJson_le_iff (frame : Frame) :
    record.need needs frame.toJson ≤ depthLimit ↔ frame.toJson.depth ≤ depthLimit := by
  have below := need_le_depth frame.toJson
  have above := frame.depth_messageId_lt_need
  have around := frame.depth_toJson_le
  unfold depthLimit
  omega

theorem floatFree_protocol (protocol : Protocol) : protocol.toJson.FloatFree := by
  have keys : ItemsFloatFree (protocol.keys.map ProtocolKey.toJson) := by
    rw [itemsFloatFree_iff]
    intro item membership
    obtain ⟨key, _, rfl⟩ := List.mem_map.mp membership
    exact ⟨trivial, trivial, trivial, trivial⟩
  exact ⟨keys, trivial⟩

theorem floatFree_optionalMember {α : Type} (key : String) {toJson : α → Json}
    (plain : ∀ x, (toJson x).FloatFree) (x? : Option α) :
    MembersFloatFree (optionalMember key toJson x?) := by
  cases x? with
  | none => trivial
  | some x => exact ⟨plain x, trivial⟩

theorem floatFree_toJson {frame : Frame} (plain : frame.messageId.val.FloatFree) :
    frame.toJson.FloatFree := by
  have participant : ∀ participant : Participant, participant.toJson.FloatFree :=
    fun _ => ⟨⟨trivial, trivial, trivial⟩, ⟨trivial, trivial⟩, trivial⟩
  have text : ∀ text : String, (Json.string text).FloatFree := fun _ => trivial
  simp only [toJson, FloatFree, membersFloatFree_append, MembersFloatFree, and_true,
    floatFree_optionalMember _ participant, floatFree_optionalMember _ text, plain,
    floatFree_protocol]

/-- Whatever text spells the document of a frame is read as this frame, up to the limit of
nesting. -/
theorem parse_toOption_of_spells {frame : Frame} {text : Bytes}
    (spells : Spells text frame.toJson) :
    (format.parse text).toOption =
      if frame.toJson.depth ≤ depthLimit then some frame else none := by
  rw [agrees.parse_toOption spells, Format.accept, ofJson_toJson]
  by_cases fits : frame.toJson.depth ≤ depthLimit
  · rw [if_pos ((need_toJson_le_iff frame).mpr fits), if_pos fits]
    rfl
  · rw [if_neg (fun enough => fits ((need_toJson_le_iff frame).mp enough)), if_neg fits]

theorem parse_toOption {frame : Frame} (plain : frame.messageId.val.FloatFree) :
    (format.parse frame.toJson.bytes).toOption =
      if frame.toJson.depth ≤ depthLimit then some frame else none :=
  parse_toOption_of_spells (spells_bytes (floatFree_toJson plain))

/-- The message number of a frame that was read leaves room for the frame around it. -/
theorem depth_messageId_lt_of_read {room : Nat} {input rest : Bytes} {frame : Frame}
    (read : format.read (room + 1) input = .ok (frame, rest)) :
    frame.messageId.val.depth < room + 1 := by
  have read' : record.read (room + 1) input = .ok (frame, rest) := read
  obtain ⟨draft, origins, built⟩ := Record.exists_draft_of_read read'
  obtain ⟨type, _, built⟩ := bind_eq_ok built
  obtain ⟨sender, _, built⟩ := bind_eq_ok built
  obtain ⟨receiver, _, built⟩ := bind_eq_ok built
  obtain ⟨conversation, _, built⟩ := bind_eq_ok built
  obtain ⟨messageId, field, built⟩ := bind_eq_ok built
  obtain ⟨inReplyTo, _, built⟩ := bind_eq_ok built
  obtain ⟨replyBy, _, built⟩ := bind_eq_ok built
  obtain ⟨protocol, _, built⟩ := bind_eq_ok built
  cases built
  obtain ⟨start, after, value⟩ := origins.exists_read rfl field
  exact Nat.lt_succ_of_le (depth_le_of_reader value)

theorem depth_messageId_lt_of_parse {text : Bytes} {frame : Frame}
    (read : format.parse text = .ok frame) : frame.messageId.val.depth < depthLimit := by
  obtain ⟨rest, taken⟩ := Format.exists_read_of_parse read
  exact depth_messageId_lt_of_read taken

theorem decode_eq_ok_iff {text : Bytes} {frame : Frame} :
    decode text = .ok frame ↔ format.parse text = .ok frame ∧ frame.validate = .ok () :=
  checked_eq_ok_iff

/-- The document of an accepted frame keeps the limit of nesting. -/
theorem depth_toJson_le_of_decode {text : Bytes} {frame : Frame}
    (accepted : decode text = .ok frame) : frame.toJson.depth ≤ depthLimit := by
  have around := frame.depth_toJson_le
  have inside := depth_messageId_lt_of_parse (decode_eq_ok_iff.mp accepted).1
  unfold depthLimit at *
  omega

/-- An accepted frame is accepted again from any text of its document. -/
theorem decode_of_spells {text again : Bytes} {frame : Frame} (accepted : decode text = .ok frame)
    (spells : Spells again frame.toJson) : decode again = .ok frame := by
  have read := parse_toOption_of_spells spells
  rw [if_pos (depth_toJson_le_of_decode accepted)] at read
  exact decode_eq_ok_iff.mpr ⟨eq_ok_of_toOption read, (decode_eq_ok_iff.mp accepted).2⟩

theorem encode_of_validate {frame : Frame} (valid : frame.validate = .ok ()) :
    frame.encode = .ok frame.toJson.bytes := by
  rw [encode, valid]
  rfl

/-- A valid frame without floats in its message number is written, as a layout of its document.
What was written is accepted for the frame if it nests 127 levels at most, and refused if it nests
deeper.  So whatever was accepted once, and is written again, is accepted for the same frame. -/
theorem decode_encode_up_to_limit :
    (∀ frame : Frame, frame.validate = .ok () → frame.messageId.val.FloatFree →
      ∃ text, frame.encode = .ok text ∧ Layout frame.toJson text ∧
        (frame.toJson.depth ≤ 127 → decode text = .ok frame) ∧
        (127 < frame.toJson.depth → ∃ refusal, decode text = .error (.malformed refusal))) ∧
    ∀ (text : Bytes) (frame : Frame), decode text = .ok frame → frame.messageId.val.FloatFree →
      ∃ again, frame.encode = .ok again ∧ decode again = .ok frame := by
  have accepted : ∀ frame : Frame, frame.validate = .ok () → frame.messageId.val.FloatFree →
      frame.toJson.depth ≤ 127 → decode frame.toJson.bytes = .ok frame := by
    intro frame valid plain fits
    have read := parse_toOption plain
    rw [depthLimit, if_pos fits] at read
    exact decode_eq_ok_iff.mpr ⟨eq_ok_of_toOption read, valid⟩
  constructor
  · intro frame valid plain
    refine ⟨frame.toJson.bytes, encode_of_validate valid,
      layout_bytes frame.toJson (floatFree_toJson plain), accepted frame valid plain, ?_⟩
    intro deep
    have read := parse_toOption plain
    rw [depthLimit, if_neg (Nat.not_le.mpr deep)] at read
    obtain ⟨refusal, refused⟩ := eq_error_of_toOption read
    refine ⟨refusal, ?_⟩
    rw [decode, refused]
    rfl
  · intro text frame once plain
    obtain ⟨read, valid⟩ := decode_eq_ok_iff.mp once
    have around := frame.depth_toJson_le
    have inside := depth_messageId_lt_of_parse read
    refine ⟨frame.toJson.bytes, encode_of_validate valid, accepted frame valid plain ?_⟩
    unfold depthLimit at inside
    omega

/-- The least and the greatest integer, inside as many lists as given. -/
def extremes : Nat → Json
  | 0 =>
      .object [("\x01\"", .number (.int ⟨-0x8000000000000000, by decide, by decide⟩)),
        ("é", .number (.int ⟨0xFFFFFFFFFFFFFFFF, by decide, by decide⟩))]
  | n + 1 => .array [extremes n]

theorem extremes_isCanonical (n : Nat) : (extremes n).IsCanonical := by
  induction n with
  | zero => exact ⟨trivial, by decide, trivial, by simp, trivial⟩
  | succ n inductionHypothesis => exact ⟨inductionHypothesis, trivial⟩

theorem floatFree_extremes (n : Nat) : (extremes n).FloatFree := by
  induction n with
  | zero => exact ⟨trivial, trivial, trivial⟩
  | succ n inductionHypothesis => exact ⟨inductionHypothesis, trivial⟩

theorem depth_extremes (n : Nat) : (extremes n).depth = n + 1 := by
  induction n with
  | zero => rfl
  | succ n inductionHypothesis => simp [extremes, depth, itemsDepth, inductionHypothesis]

/-- A frame whose message number nests one level deeper than given. -/
def nesting (n : Nat) : Frame :=
  ⟨"call", none, some (.new "urn:a" "" "\n"), "c", ⟨extremes n, extremes_isCanonical n⟩, some "",
    none, .global "IRDI" "ü"⟩

theorem depth_nesting (n : Nat) : (nesting (n + 2)).toJson.depth = n + 4 := by
  simp [toJson, nesting, depth, membersDepth, optionalMember, depth_extremes, Protocol.global,
    Protocol.toJson, ProtocolKey.toJson, itemsDepth, Participant.new, Participant.toJson,
    Identification.toJson, Role.toJson]

/-- The message number may nest 126 levels and no more. -/
theorem decode_encode_at_limit :
    (nesting 125).validate = .ok () ∧ (nesting 125).messageId.val.FloatFree ∧
      (nesting 125).toJson.depth = 127 ∧
      (∃ text again, (nesting 125).encode = .ok text ∧ decode text = .ok (nesting 125) ∧
        (nesting 125).encode = .ok again ∧ decode again = .ok (nesting 125)) ∧
      (nesting 126).toJson.depth = 128 ∧
      ∃ text refusal, (nesting 126).encode = .ok text ∧ decode text = .error (.malformed refusal) := by
  have valid : ∀ n, (nesting n).validate = .ok () := by
    intro n
    cases n <;> rfl
  have plain : ∀ n, (nesting n).messageId.val.FloatFree := floatFree_extremes
  refine ⟨valid 125, plain 125, depth_nesting 123, ?_, depth_nesting 124, ?_⟩
  · obtain ⟨text, encoded, _, accepted, _⟩ :=
      decode_encode_up_to_limit.1 (nesting 125) (valid 125) (plain 125)
    have decoded := accepted (Nat.le_of_eq (depth_nesting 123))
    obtain ⟨again, encodedAgain, decodedAgain⟩ :=
      decode_encode_up_to_limit.2 text _ decoded (plain 125)
    exact ⟨text, again, encoded, decoded, encodedAgain, decodedAgain⟩
  · obtain ⟨text, encoded, _, _, refused⟩ :=
      decode_encode_up_to_limit.1 (nesting 126) (valid 126) (plain 126)
    obtain ⟨refusal, decoded⟩ := refused (by rw [depth_nesting 124]; decide)
    exact ⟨text, refusal, encoded, decoded⟩

end Frame

end ShellBridge
