import ShellBridge.Proofs.Json.Acceptance
import ShellBridge.Proofs.Message.Gates

/-!
Which documents are frames.

An object reads as a frame just if its members say so: the mandatory ones are there, the optional
ones are absent, `null` or there, and each that is there reads as what it stands for.  What is
nested may also be written as a list of its parts.  A frame that was read is accepted if it sets its
mandatory fields, and refused for the first one that it does not set.
-/

namespace ShellBridge

open Json

theorem Json.Format.text_ofJson_iff {j : Json} {s : String} :
    text.ofJson j = .ok s ↔ j = .string s := by
  constructor
  · exact string_of_ofJson
  · rintro rfl
    rfl

namespace Identification

/-- The document reads as the identification. -/
def Reads (j : Json) (identification : Identification) : Prop :=
  j.HasParts 2 ∧ j.part? "id" 0 = some (.string identification.id) ∧
    j.part? "idType" 1 = some (.string identification.idType)

def valueAt (identification : Identification) : (f : Field) → record.Ty f
  | .id => identification.id
  | .idType => identification.idType

theorem strict : record.Strict valueAt where
  complete f := by cases f <;> decide
  keys := by decide
  builds get x := by
    constructor
    · intro built f
      obtain ⟨id, gotId, built⟩ := bind_eq_ok built
      obtain ⟨idType, gotIdType, built⟩ := bind_eq_ok built
      cases built
      cases f with
      | id => exact gotId
      | idType => exact gotIdType
    · intro got
      simp only [record, got]
      rfl

theorem ofJson_iff {j : Json} {identification : Identification} :
    record.ofJson j = .ok identification ↔ Reads j identification := by
  rw [strict.ofJson_iff fun _ => rfl]
  constructor
  · rintro ⟨shape, given⟩
    obtain ⟨_, foundId, readId⟩ := given .id
    obtain ⟨_, foundIdType, readIdType⟩ := given .idType
    rw [Format.string_of_ofJson readId] at foundId
    rw [Format.string_of_ofJson readIdType] at foundIdType
    exact ⟨shape, foundId, foundIdType⟩
  · rintro ⟨shape, foundId, foundIdType⟩
    refine ⟨shape, ?_⟩
    intro f
    cases f with
    | id => exact ⟨_, foundId, rfl⟩
    | idType => exact ⟨_, foundIdType, rfl⟩

end Identification

namespace Role

/-- The document reads as the role. -/
def Reads (j : Json) (role : Role) : Prop :=
  j.HasParts 1 ∧ j.part? "name" 0 = some (.string role.name)

def valueAt (role : Role) : (f : Field) → record.Ty f
  | .name => role.name

theorem strict : record.Strict valueAt where
  complete f := by cases f; decide
  keys := by decide
  builds get x := by
    constructor
    · intro built f
      obtain ⟨name, gotName, built⟩ := bind_eq_ok built
      cases built
      cases f
      exact gotName
    · intro got
      simp only [record, got]
      rfl

theorem ofJson_iff {j : Json} {role : Role} : record.ofJson j = .ok role ↔ Reads j role := by
  rw [strict.ofJson_iff fun _ => rfl]
  constructor
  · rintro ⟨shape, given⟩
    obtain ⟨_, found, read⟩ := given .name
    rw [Format.string_of_ofJson read] at found
    exact ⟨shape, found⟩
  · rintro ⟨shape, found⟩
    refine ⟨shape, ?_⟩
    intro f
    cases f
    exact ⟨_, found, rfl⟩

end Role

namespace Participant

/-- The document reads as the participant. -/
def Reads (j : Json) (participant : Participant) : Prop :=
  j.HasParts 2 ∧
    (∃ part, j.part? "identification" 0 = some part ∧
      Identification.Reads part participant.identification) ∧
    ∃ part, j.part? "role" 1 = some part ∧ Role.Reads part participant.role

def valueAt (participant : Participant) : (f : Field) → record.Ty f
  | .identification => participant.identification
  | .role => participant.role

theorem strict : record.Strict valueAt where
  complete f := by cases f <;> decide
  keys := by decide
  builds get x := by
    constructor
    · intro built f
      obtain ⟨identification, gotIdentification, built⟩ := bind_eq_ok built
      obtain ⟨role, gotRole, built⟩ := bind_eq_ok built
      cases built
      cases f with
      | identification => exact gotIdentification
      | role => exact gotRole
    · intro got
      simp only [record, got]
      rfl

theorem ofJson_iff {j : Json} {participant : Participant} :
    format.ofJson j = .ok participant ↔ Reads j participant := by
  have opened : format.ofJson j = record.ofJson j := rfl
  rw [opened, strict.ofJson_iff fun f => by cases f <;> rfl]
  constructor
  · rintro ⟨shape, given⟩
    obtain ⟨identification, foundIdentification, reads⟩ := given .identification
    obtain ⟨role, foundRole, readsRole⟩ := given .role
    exact ⟨shape, ⟨identification, foundIdentification, Identification.ofJson_iff.mp reads⟩,
      role, foundRole, Role.ofJson_iff.mp readsRole⟩
  · rintro ⟨shape, ⟨identification, foundIdentification, reads⟩, role, foundRole, readsRole⟩
    refine ⟨shape, ?_⟩
    intro f
    cases f with
    | identification =>
        exact ⟨identification, foundIdentification, Identification.ofJson_iff.mpr reads⟩
    | role => exact ⟨role, foundRole, Role.ofJson_iff.mpr readsRole⟩

end Participant

namespace ProtocolKey

/-- The document reads as the key. -/
def Reads (j : Json) (key : ProtocolKey) : Prop :=
  j.HasParts 3 ∧ j.part? "type" 0 = some (.string key.type) ∧
    j.part? "idType" 1 = some (.string key.idType) ∧ j.part? "value" 2 = some (.string key.value)

def valueAt (key : ProtocolKey) : (f : Field) → record.Ty f
  | .type => key.type
  | .idType => key.idType
  | .value => key.value

theorem strict : record.Strict valueAt where
  complete f := by cases f <;> decide
  keys := by decide
  builds get x := by
    constructor
    · intro built f
      obtain ⟨type, gotType, built⟩ := bind_eq_ok built
      obtain ⟨idType, gotIdType, built⟩ := bind_eq_ok built
      obtain ⟨value, gotValue, built⟩ := bind_eq_ok built
      cases built
      cases f with
      | type => exact gotType
      | idType => exact gotIdType
      | value => exact gotValue
    · intro got
      simp only [record, got]
      rfl

theorem ofJson_iff {j : Json} {key : ProtocolKey} :
    format.ofJson j = .ok key ↔ Reads j key := by
  have opened : format.ofJson j = record.ofJson j := rfl
  rw [opened, strict.ofJson_iff fun _ => rfl]
  constructor
  · rintro ⟨shape, given⟩
    obtain ⟨_, foundType, readType⟩ := given .type
    obtain ⟨_, foundIdType, readIdType⟩ := given .idType
    obtain ⟨_, foundValue, readValue⟩ := given .value
    rw [Format.string_of_ofJson readType] at foundType
    rw [Format.string_of_ofJson readIdType] at foundIdType
    rw [Format.string_of_ofJson readValue] at foundValue
    exact ⟨shape, foundType, foundIdType, foundValue⟩
  · rintro ⟨shape, foundType, foundIdType, foundValue⟩
    refine ⟨shape, ?_⟩
    intro f
    cases f with
    | type => exact ⟨_, foundType, rfl⟩
    | idType => exact ⟨_, foundIdType, rfl⟩
    | value => exact ⟨_, foundValue, rfl⟩

end ProtocolKey

namespace Protocol

/-- The document reads as the protocol. -/
def Reads (j : Json) (protocol : Protocol) : Prop :=
  j.HasParts 1 ∧ ∃ items, j.part? "keys" 0 = some (.array items) ∧
    List.Forall₂ ProtocolKey.Reads items protocol.keys

def valueAt (protocol : Protocol) : (f : Field) → record.Ty f
  | .keys => protocol.keys

theorem strict : record.Strict valueAt where
  complete f := by cases f; decide
  keys := by decide
  builds get x := by
    constructor
    · intro built f
      obtain ⟨keys, gotKeys, built⟩ := bind_eq_ok built
      cases built
      cases f
      exact gotKeys
    · intro got
      simp only [record, got]
      rfl

theorem keys_ofJson_iff {j : Json} {keys : List ProtocolKey} :
    (Format.list ProtocolKey.format).ofJson j = .ok keys ↔
      ∃ items, j = .array items ∧ List.Forall₂ ProtocolKey.Reads items keys := by
  have same : ProtocolKey.Reads = fun j key => ProtocolKey.format.ofJson j = .ok key := by
    funext j key
    exact propext ProtocolKey.ofJson_iff.symm
  rw [same]
  constructor
  · intro read
    cases j with
    | array items => exact ⟨items, rfl, Format.listOfJson_eq_ok_iff.mp read⟩
    | null | bool b | number n | string s | object members => cases read
  · rintro ⟨items, rfl, read⟩
    exact Format.listOfJson_eq_ok_iff.mpr read

theorem ofJson_iff {j : Json} {protocol : Protocol} :
    format.ofJson j = .ok protocol ↔ Reads j protocol := by
  have opened : format.ofJson j = record.ofJson j := rfl
  rw [opened, strict.ofJson_iff fun _ => rfl]
  constructor
  · rintro ⟨shape, given⟩
    obtain ⟨part, found, read⟩ := given .keys
    obtain ⟨items, rfl, keys⟩ := keys_ofJson_iff.mp read
    exact ⟨shape, items, found, keys⟩
  · rintro ⟨shape, items, found, keys⟩
    refine ⟨shape, ?_⟩
    intro f
    cases f
    exact ⟨.array items, found, keys_ofJson_iff.mpr ⟨items, rfl, keys⟩⟩

end Protocol

namespace Frame

/-- The members say of an optional field that it is left out, or what it is. -/
def Tells {α : Type} (Reads : Json → α → Prop) (key : String) (members : List (String × Json)) :
    Option α → Prop
  | none => (∀ member ∈ members, member.1 ≠ key) ∨ only? key members = some .null
  | some x => ∃ j, only? key members = some j ∧ Reads j x

/-- What the members of an object say of a frame.  A member counts if no other has its key. -/
structure Reads (members : List (String × Json)) (frame : Frame) : Prop where
  type : only? "type" members = some (.string frame.type)
  sender : Tells Participant.Reads "sender" members frame.sender
  receiver : Tells Participant.Reads "receiver" members frame.receiver
  conversation : only? "conversationId" members = some (.string frame.conversation)
  messageId : ∃ j, only? "messageId" members = some j ∧ frame.messageId = .ofJson j
  inReplyTo : Tells (fun j text => j = .string text) "inReplyTo" members frame.inReplyTo
  replyBy : Tells (fun j text => j = .string text) "replyBy" members frame.replyBy
  protocol : ∃ j, only? "semanticProtocol" members = some j ∧ Protocol.Reads j frame.protocol

def valueAt (frame : Frame) : (f : Field) → record.Ty f
  | .type => frame.type
  | .sender => frame.sender
  | .receiver => frame.receiver
  | .conversation => frame.conversation
  | .messageId => frame.messageId
  | .inReplyTo => frame.inReplyTo
  | .replyBy => frame.replyBy
  | .protocol => frame.protocol

theorem strict : record.Strict valueAt where
  complete f := by cases f <;> decide
  keys := by decide
  builds get x := by
    constructor
    · intro built f
      obtain ⟨type, gotType, built⟩ := bind_eq_ok built
      obtain ⟨sender, gotSender, built⟩ := bind_eq_ok built
      obtain ⟨receiver, gotReceiver, built⟩ := bind_eq_ok built
      obtain ⟨conversation, gotConversation, built⟩ := bind_eq_ok built
      obtain ⟨messageId, gotMessageId, built⟩ := bind_eq_ok built
      obtain ⟨inReplyTo, gotInReplyTo, built⟩ := bind_eq_ok built
      obtain ⟨replyBy, gotReplyBy, built⟩ := bind_eq_ok built
      obtain ⟨protocol, gotProtocol, built⟩ := bind_eq_ok built
      cases built
      cases f with
      | type => exact gotType
      | sender => exact gotSender
      | receiver => exact gotReceiver
      | conversation => exact gotConversation
      | messageId => exact gotMessageId
      | inReplyTo => exact gotInReplyTo
      | replyBy => exact gotReplyBy
      | protocol => exact gotProtocol
    · intro got
      simp only [record, got]
      rfl

/-- An optional field is given by the members that tell of it. -/
theorem tells_iff {α : Type} {format : Format α} {Reads : Json → α → Prop}
    (reads : ∀ j x, format.ofJson j = .ok x ↔ Reads j x) (refuses : ∀ x, ¬ Reads .null x)
    {key : String} {members : List (String × Json)} {x? : Option α} :
    ((∃ j, only? key members = some j ∧ (Format.optional format).ofJson j = .ok x?) ∨
        (some none = some x? ∧ ∀ member ∈ members, member.1 ≠ key)) ↔
      Tells Reads key members x? := by
  have present {j : Json} (different : j ≠ .null) :
      (Format.optional format).ofJson j = (format.ofJson j).map some := by
    cases j <;> first | exact absurd rfl different | rfl
  constructor
  · rintro (⟨j, only, read⟩ | ⟨absent, missing⟩)
    · by_cases null : j = .null
      · subst null
        cases read
        exact .inr only
      · rw [present null] at read
        obtain ⟨x, one, same⟩ := map_eq_ok read
        cases same
        exact ⟨j, only, (reads j x).mp one⟩
    · cases absent
      exact .inl missing
  · cases x? with
    | none =>
        rintro (missing | only)
        · exact .inr ⟨rfl, missing⟩
        · exact .inl ⟨.null, only, rfl⟩
    | some x =>
        rintro ⟨j, only, read⟩
        have different : j ≠ .null := by
          rintro rfl
          exact refuses x read
        refine .inl ⟨j, only, ?_⟩
        rw [present different, (reads j x).mpr read]
        rfl

/-- A mandatory field is given by its only member. -/
theorem gives_iff {f : Field} (mandatory : record.absent f = none)
    {members : List (String × Json)} {x : record.Ty f} :
    record.Gives members f x ↔
      ∃ j, only? (record.key f) members = some j ∧ (record.format f).ofJson j = .ok x := by
  constructor
  · rintro (given | ⟨absent, _⟩)
    · exact given
    · rw [mandatory] at absent
      cases absent
  · exact .inl

theorem ofJson_iff {members : List (String × Json)} {frame : Frame} :
    format.ofJson (.object members) = .ok frame ↔ Reads members frame := by
  have opened : format.ofJson (.object members) = record.ofJson (.object members) := rfl
  have participant {key : String} {x? : Option Participant} :
      ((∃ j, only? key members = some j ∧
          (Format.optional Participant.format).ofJson j = .ok x?) ∨
        (some none = some x? ∧ ∀ member ∈ members, member.1 ≠ key)) ↔
      Tells Participant.Reads key members x? :=
    tells_iff (fun _ _ => Participant.ofJson_iff) fun _ read => read.1
  have text {key : String} {x? : Option String} :
      ((∃ j, only? key members = some j ∧ (Format.optional Format.text).ofJson j = .ok x?) ∨
        (some none = some x? ∧ ∀ member ∈ members, member.1 ≠ key)) ↔
      Tells (fun j text => j = .string text) key members x? := by
    refine tells_iff (fun _ _ => Format.text_ofJson_iff) ?_
    intro text impossible
    cases impossible
  rw [opened, strict.ofJson_object_iff]
  constructor
  · intro given
    obtain ⟨_, type, readType⟩ := (gives_iff rfl).mp (given .type)
    obtain ⟨_, conversation, readConversation⟩ := (gives_iff rfl).mp (given .conversation)
    obtain ⟨j, messageId, readMessageId⟩ := (gives_iff rfl).mp (given .messageId)
    obtain ⟨protocol, foundProtocol, readProtocol⟩ := (gives_iff rfl).mp (given .protocol)
    rw [Format.string_of_ofJson readType] at type
    rw [Format.string_of_ofJson readConversation] at conversation
    exact ⟨type, participant.mp (given .sender), participant.mp (given .receiver), conversation,
      ⟨j, messageId, (Except.ok.inj readMessageId).symm⟩, text.mp (given .inReplyTo),
      text.mp (given .replyBy), protocol, foundProtocol, Protocol.ofJson_iff.mp readProtocol⟩
  · intro reads f
    obtain ⟨j, messageId, number⟩ := reads.messageId
    obtain ⟨protocol, foundProtocol, readProtocol⟩ := reads.protocol
    cases f with
    | type => exact .inl ⟨_, reads.type, rfl⟩
    | sender => exact participant.mpr reads.sender
    | receiver => exact participant.mpr reads.receiver
    | conversation => exact .inl ⟨_, reads.conversation, rfl⟩
    | messageId => exact .inl ⟨j, messageId, congrArg Except.ok number.symm⟩
    | inReplyTo => exact text.mpr reads.inReplyTo
    | replyBy => exact text.mpr reads.replyBy
    | protocol => exact .inl ⟨protocol, foundProtocol, Protocol.ofJson_iff.mpr readProtocol⟩

theorem parse_eq_ok_iff {text : Bytes} {members : List (String × Json)}
    (spells : Spells text (.object members)) (fits : (Json.object members).depth ≤ depthLimit)
    {frame : Frame} : format.parse text = .ok frame ↔ Reads members frame := by
  have read := agrees.parse_toOption spells
  rw [Format.accept, if_pos (Nat.le_trans (need_le_depth _) fits)] at read
  rw [← ofJson_iff]
  constructor
  · intro parsed
    rw [parsed] at read
    exact eq_ok_of_toOption read.symm
  · intro accepted
    rw [accepted] at read
    exact eq_ok_of_toOption read

/-- The members of an object say one frame only. -/
theorem Reads.unique {members : List (String × Json)} {frame other : Frame}
    (reads : Reads members frame) (again : Reads members other) : frame = other :=
  Except.ok.inj ((ofJson_iff.mpr reads).symm.trans (ofJson_iff.mpr again))

section Texts

variable {text : Bytes} {members : List (String × Json)}
  (spells : Spells text (.object members)) (fits : (Json.object members).depth ≤ 127)
include spells fits

theorem decode_of_reads {frame : Frame} (reads : Reads members frame) :
    decode text = frame.verdict.map fun _ => frame := by
  rw [decode, checked_of_ok ((parse_eq_ok_iff spells fits).mpr reads), validate_eq]

theorem decode_of_not_reads (unread : ¬ ∃ frame, Reads members frame) :
    ∃ refusal, decode text = .error (.malformed refusal) := by
  cases parsed : format.parse text with
  | error refusal =>
      refine ⟨refusal, ?_⟩
      rw [decode, parsed]
      rfl
  | ok frame => exact absurd ⟨frame, (parse_eq_ok_iff spells fits).mp parsed⟩ unread

/-- What becomes of the text of an object that keeps the limit of nesting.  It is accepted just for
the frame that its members say if that sets all mandatory fields.  It is refused for the first
mandatory field that is not set just if the members say a frame at all, and as malformed in all
other cases. -/
theorem decode_object :
    (∀ frame, decode text = .ok frame ↔
      Reads members frame ∧ ∀ field, ¬ frame.Unset field) ∧
    (∀ field, decode text = .error (.missing field) ↔
      ∃ frame, Reads members frame ∧
        MandatoryField.all.find? (fun field => frame.Unset field) = some field) ∧
    ((∃ refusal, decode text = .error (.malformed refusal)) ↔
      ¬ ∃ frame, Reads members frame) := by
  by_cases readable : ∃ frame, Reads members frame
  · obtain ⟨frame, reads⟩ := readable
    rw [decode_of_reads spells fits reads]
    refine ⟨?_, ?_, ?_⟩
    · intro other
      constructor
      · intro accepted
        obtain ⟨_, valid, same⟩ := map_eq_ok accepted
        cases same
        exact ⟨reads, verdict_eq_ok_iff.mp valid⟩
      · rintro ⟨again, set⟩
        cases reads.unique again
        rw [verdict_eq_ok_iff.mpr set]
        rfl
    · intro field
      rw [map_eq_error_iff, verdict_eq_missing_iff]
      constructor
      · intro first
        exact ⟨frame, reads, first⟩
      · rintro ⟨other, again, first⟩
        cases reads.unique again
        exact first
    · constructor
      · rintro ⟨refusal, malformed⟩
        exact absurd (map_eq_error_iff.mp malformed) (frame.verdict_ne_malformed refusal)
      · intro unread
        exact absurd ⟨frame, reads⟩ unread
  · obtain ⟨refusal, refused⟩ := decode_of_not_reads spells fits readable
    rw [refused]
    refine ⟨?_, ?_, ?_⟩
    · intro frame
      constructor
      · intro accepted
        cases accepted
      · rintro ⟨reads, _⟩
        exact absurd ⟨frame, reads⟩ readable
    · intro field
      constructor
      · intro missing
        cases missing
      · rintro ⟨frame, reads, _⟩
        exact absurd ⟨frame, reads⟩ readable
    · exact iff_of_true ⟨refusal, rfl⟩ readable

end Texts

/-- An object with a member of its own, members in an order of their own, lists for nested parts,
and a conversation as given. -/
def sample (conversation : Json) : List (String × Json) :=
  [("note", .array [.null]), ("conversationId", conversation), ("receiver", .null),
    ("semanticProtocol", .array [.array [.array [.string "t", .string "IRDI", .string "v"]]]),
    ("sender", .object [("role", .array [.string "r"]),
      ("identification", .object [("idType", .string "IRI"), ("id", .string "urn:a")])]),
    ("messageId", .bool false), ("type", .string "call")]

theorem reads_sample (conversation : String) :
    Reads (sample (.string conversation)) ⟨"call", some (.new "urn:a" "IRI" "r"), none,
      conversation, .ofJson (.bool false), none, none, ⟨[⟨"t", "IRDI", "v"⟩]⟩⟩ where
  type := rfl
  sender := ⟨_, rfl, trivial, ⟨_, rfl, trivial, rfl, rfl⟩, _, rfl, rfl, rfl⟩
  receiver := .inr rfl
  conversation := rfl
  messageId := ⟨_, rfl, rfl⟩
  inReplyTo := .inl (by simp [sample])
  replyBy := .inl (by simp [sample])
  protocol := ⟨_, rfl, rfl, _, rfl, .cons ⟨rfl, rfl, rfl, rfl⟩ .nil⟩

/-- The object is a frame if the conversation is a string that is not empty.  With the empty string
it lacks its conversation, and with `null` it is malformed. -/
theorem decode_object_of_sample :
    (∀ conversation ∈ [Json.string "c", .string "", .null],
      Spells (Json.object (sample conversation)).bytes (.object (sample conversation)) ∧
        (Json.object (sample conversation)).depth ≤ 127) ∧
      decode (Json.object (sample (.string "c"))).bytes =
        .ok ⟨"call", some (.new "urn:a" "IRI" "r"), none, "c", .ofJson (.bool false), none, none,
          ⟨[⟨"t", "IRDI", "v"⟩]⟩⟩ ∧
      decode (Json.object (sample (.string ""))).bytes = .error (.missing .conversation) ∧
      ∃ refusal, decode (Json.object (sample .null)).bytes = .error (.malformed refusal) := by
  have texts : ∀ conversation ∈ [Json.string "c", .string "", .null],
      Spells (Json.object (sample conversation)).bytes (.object (sample conversation)) ∧
        (Json.object (sample conversation)).depth ≤ 127 := by
    simp only [List.forall_mem_cons, List.not_mem_nil, false_imp_iff, implies_true, and_true]
    refine ⟨⟨spells_bytes ?_, ?_⟩, ⟨spells_bytes ?_, ?_⟩, spells_bytes ?_, ?_⟩ <;>
      simp [sample, FloatFree, MembersFloatFree, ItemsFloatFree, depth, membersDepth, itemsDepth]
  obtain ⟨spells, fits⟩ := texts (.string "c") (by simp)
  obtain ⟨spellsEmpty, fitsEmpty⟩ := texts (.string "") (by simp)
  obtain ⟨spellsNull, fitsNull⟩ := texts .null (by simp)
  refine ⟨texts, ?_, ?_, ?_⟩
  · apply ((decode_object spells fits).1 _).mpr
    refine ⟨reads_sample "c", ?_⟩
    intro field
    cases field <;> decide
  · exact ((decode_object spellsEmpty fitsEmpty).2.1 _).mpr ⟨_, reads_sample "", rfl⟩
  · apply (decode_object spellsNull fitsNull).2.2.mpr
    rintro ⟨frame, reads⟩
    have found : only? "conversationId" (sample .null) = some .null := rfl
    have conversation := reads.conversation
    rw [found] at conversation
    cases conversation

end Frame

end ShellBridge
