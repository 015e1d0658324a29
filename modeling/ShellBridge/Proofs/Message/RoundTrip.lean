import ShellBridge.Message
import ShellBridge.Proofs.Element.RoundTrip
import ShellBridge.Proofs.Frame.RoundTrip

/-!
Messages in a round trip.

Both types of elements obey the same laws, and a message relies on nothing else.  The frame stands
one level deeper than on its own, and so leaves the message number one level less.
-/

namespace ShellBridge

open Json

variable {α : Type}

/-- The laws of elements: a document stands wherever one is read, and accepts it; whatever is read
is proper, and nests as deep in writing at most; and what is written of a proper one reads back, in
room for all that it holds. -/
structure ElementCodec.Lawful (codec : ElementCodec α) (need : Json → Nat) (Proper : α → Prop) :
    Prop where
  agrees : codec.format.Agrees need
  full : codec.format.Full
  proper_of_ofJson : ∀ j x, codec.format.ofJson j = .ok x → Proper x
  depth_toJson_le : ∀ j x, codec.format.ofJson j = .ok x → (codec.toJson x).depth ≤ j.depth
  ofJson_toJson : ∀ x, Proper x → codec.format.ofJson (codec.toJson x) = .ok x
  need_toJson : ∀ x, Proper x → need (codec.toJson x) = (codec.toJson x).depth

namespace ElementCodec

/-- Objects with any members are all proper. -/
theorem generic_lawful : generic.Lawful Format.membersNeed fun _ => True where
  agrees := Format.members_agrees
  full := Format.members_full
  proper_of_ofJson _ _ _ := trivial
  depth_toJson_le := by
    intro j members accepted
    cases j with
    | object list =>
        cases accepted
        exact Nat.succ_le_succ (membersDepth_normalizeMembers_le list)
    | null | bool b | number n | string s | array items => cases accepted
  ofJson_toJson := by
    intro members _
    exact congrArg Except.ok
      (Subtype.ext (normalizeMembers_of_canonical members.val members.property))
  need_toJson _ _ := rfl

theorem submodelElement_lawful : submodelElement.Lawful Element.need Element.WellFormed where
  agrees := Element.agrees
  full := Element.full
  proper_of_ofJson _ _ accepted := Element.wellFormed_of_ofJson accepted
  depth_toJson_le _ _ accepted := Element.depth_toJson_le accepted
  ofJson_toJson _ wellFormed := wellFormed.ofJson_toJson
  need_toJson _ wellFormed := wellFormed.need_toJson

end ElementCodec

namespace Message

variable {codec : ElementCodec α} {need : Json → Nat} {Proper : α → Prop}

/-! ### Reading messages and documents -/

/-- The room that each field needs, for the given need of an element. -/
def needs (need : Json → Nat) : Field → Json → Nat
  | .frame => Frame.record.need Frame.needs
  | .elements => Format.listNeed need

theorem agrees (lawful : codec.Lawful need Proper) :
    (record codec).toFormat.Agrees ((record codec).need (needs need)) := by
  apply Record.agrees
  intro f
  cases f with
  | frame => exact Frame.agrees
  | elements => exact Format.list_agrees lawful.agrees

def written (codec : ElementCodec α) (message : Message α) : (record codec).Written
  | .frame => some (message.frame.toJson, message.frame)
  | .elements => some (.array (message.elements.map codec.toJson), message.elements)

theorem ofJson_toJson (lawful : codec.Lawful need Proper) {message : Message α}
    (proper : ∀ x ∈ message.elements, Proper x) :
    (record codec).ofJson (message.toJson codec) = .ok message := by
  refine Record.ofJson_written (message.written codec) ?_ ?_ ?_
  · intro f j x entry
    cases f with
    | frame =>
        cases entry
        exact Frame.ofJson_toJson message.frame
    | elements =>
        cases entry
        apply Format.listOfJson_map
        intro x membership
        exact lawful.ofJson_toJson x (proper x membership)
  · intro f
    cases f <;> simp [record]
  · simp [record]

/-! ### How deep a message nests -/

theorem depth_toJson (codec : ElementCodec α) (message : Message α) :
    (message.toJson codec).depth =
      max message.frame.toJson.depth (itemsDepth (message.elements.map codec.toJson) + 1) + 1 := by
  simp [toJson, depth, membersDepth]

theorem need_toJson (lawful : codec.Lawful need Proper) {message : Message α}
    (proper : ∀ x ∈ message.elements, Proper x) :
    (record codec).need (needs need) (message.toJson codec) =
      max (Frame.record.need Frame.needs message.frame.toJson)
        (itemsDepth (message.elements.map codec.toJson) + 1) + 1 := by
  have elements : greatest need (message.elements.map codec.toJson) =
      itemsDepth (message.elements.map codec.toJson) := by
    rw [itemsDepth_eq]
    apply greatest_congr
    intro j membership
    obtain ⟨x, present, rfl⟩ := List.mem_map.mp membership
    exact lawful.need_toJson x (proper x present)
  have frame : (record codec).field? "frame" = some .frame := rfl
  have list : (record codec).field? "interactionElements" = some .elements := rfl
  simp [toJson, Record.need, Record.memberNeed, frame, list, needs, Format.listNeed, elements]

/-- A message is accepted again exactly if its text keeps the limit of nesting. -/
theorem need_toJson_le_iff (lawful : codec.Lawful need Proper) {message : Message α}
    (proper : ∀ x ∈ message.elements, Proper x) :
    (record codec).need (needs need) (message.toJson codec) ≤ depthLimit ↔
      (message.toJson codec).depth ≤ depthLimit := by
  have below := Frame.need_le_depth message.frame.toJson
  have above := message.frame.depth_messageId_lt_need
  have around := message.frame.depth_toJson_le
  rw [need_toJson lawful proper, depth_toJson]
  unfold depthLimit
  omega

theorem parse_toOption (lawful : codec.Lawful need Proper) {message : Message α}
    (proper : ∀ x ∈ message.elements, Proper x) (plain : (message.toJson codec).FloatFree) :
    (parse codec (message.toJson codec).bytes).toOption =
      if (message.toJson codec).depth ≤ depthLimit then some message else none := by
  have read := (agrees lawful).parse_toOption (spells_bytes plain)
  have accepted : (record codec).toFormat.ofJson (message.toJson codec) = .ok message :=
    ofJson_toJson lawful proper
  rw [Format.accept, accepted] at read
  rw [parse, read]
  by_cases fits : (message.toJson codec).depth ≤ depthLimit
  · rw [if_pos ((need_toJson_le_iff lawful proper).mpr fits), if_pos fits]
    rfl
  · rw [if_neg (fun enough => fits ((need_toJson_le_iff lawful proper).mp enough)), if_neg fits]

/-- A message that was read has proper elements, and keeps the limit of nesting in writing. -/
theorem proper_of_parse (lawful : codec.Lawful need Proper) {text : Bytes} {message : Message α}
    (accepted : parse codec text = .ok message) :
    (∀ x ∈ message.elements, Proper x) ∧ (message.toJson codec).depth ≤ depthLimit := by
  obtain ⟨rest, read⟩ := Format.exists_read_of_parse accepted
  have read' : (record codec).read (126 + 1) text = .ok (message, rest) := read
  obtain ⟨draft, origins, built⟩ := Record.exists_draft_of_read read'
  obtain ⟨frame, frameField, built⟩ := bind_eq_ok built
  obtain ⟨elements, elementsField, built⟩ := bind_eq_ok built
  cases built
  have frameDepth : frame.messageId.val.depth < 126 := by
    obtain ⟨start, after, taken⟩ := origins.exists_read rfl frameField
    exact Frame.depth_messageId_lt_of_read taken
  have each : ∀ x ∈ elements, Proper x ∧ (codec.toJson x).depth ≤ 125 := by
    intro x membership
    rcases origins.origin elementsField with ⟨start, after, taken⟩ | absent
    · obtain ⟨inner, start', after', less, one⟩ :=
        Format.exists_read_of_mem_list taken membership
      obtain ⟨j, fits, given⟩ := lawful.full.exists_json lawful.agrees one
      have same := lawful.depth_toJson_le j x given
      exact ⟨lawful.proper_of_ofJson j x given, by omega⟩
    · cases absent
      cases membership
  refine ⟨fun x membership => (each x membership).1, ?_⟩
  have around := frame.depth_toJson_le
  have items : itemsDepth (elements.map codec.toJson) ≤ 125 := by
    rw [itemsDepth_le_iff]
    intro j membership
    obtain ⟨x, present, rfl⟩ := List.mem_map.mp membership
    exact (each x present).2
  rw [depth_toJson]
  unfold depthLimit
  simp only
  omega

/-! ### Messages with valid frames -/

theorem encode_of_validate {message : Message α} (valid : message.frame.validate = .ok ()) :
    message.encode codec = .ok (message.toJson codec).bytes := by
  rw [encode, valid]
  rfl

theorem decode_eq_ok_iff {text : Bytes} {message : Message α} :
    decode codec text = .ok message ↔
      parse codec text = .ok message ∧ message.frame.validate = .ok () :=
  checked_eq_ok_iff

/-- What was written is accepted for the message if it nests 127 levels at most. -/
theorem decode_bytes (lawful : codec.Lawful need Proper) {message : Message α}
    (valid : message.frame.validate = .ok ()) (proper : ∀ x ∈ message.elements, Proper x)
    (plain : (message.toJson codec).FloatFree) (fits : (message.toJson codec).depth ≤ 127) :
    decode codec (message.toJson codec).bytes = .ok message := by
  have read := parse_toOption lawful proper plain
  rw [depthLimit, if_pos fits] at read
  exact decode_eq_ok_iff.mpr ⟨eq_ok_of_toOption read, valid⟩

section Absent

variable {members : List (String × Json)} {text : Bytes}
  (absent : ∀ member ∈ members, member.1 ≠ "interactionElements")
  (spells : Spells text (.object members))
include absent spells

/-- A text with no member for the elements is decoded like the one with an empty list for them. -/
theorem decode_absent (lawful : codec.Lawful need Proper) {text' : Bytes}
    (spells' : Spells text' (.object (members ++ [("interactionElements", .array [])]))) :
    (decode codec text).toOption = (decode codec text').toOption := by
  have accepted : (record codec).toFormat.ofJson
      (.object (members ++ [("interactionElements", .array [])])) =
        (record codec).toFormat.ofJson (.object members) := by
    have known : (record codec).field? ((record codec).key .elements) = some .elements := rfl
    exact Record.ofJson_append_absent known rfl rfl absent
  have list : (record codec).memberNeed (needs need) ("interactionElements", .array []) = 1 := rfl
  have room : (record codec).need (needs need)
        (.object (members ++ [("interactionElements", .array [])])) ≤ depthLimit ↔
      (record codec).need (needs need) (.object members) ≤ depthLimit := by
    simp only [Record.need, greatest_append, greatest_cons, greatest_nil, list, depthLimit]
    omega
  have same : (parse codec text).toOption = (parse codec text').toOption := by
    rw [parse, parse, (agrees lawful).parse_toOption spells,
      (agrees lawful).parse_toOption spells', Format.accept, Format.accept, accepted]
    simp only [room]
  rw [decode, decode, toOption_checked, toOption_checked, same]

theorem elements_of_absent (lawful : codec.Lawful need Proper) {message : Message α}
    (decoded : decode codec text = .ok message) : message.elements = [] := by
  have read := (agrees lawful).parse_toOption spells
  have parsed := (decode_eq_ok_iff.mp decoded).1
  rw [parse] at parsed
  rw [parsed, toOption_ok, Format.accept] at read
  have accepted : (record codec).ofJson (.object members) = .ok message := by
    split_ifs at read
    exact eq_ok_of_toOption read.symm
  obtain ⟨draft, fields, built⟩ := bind_eq_ok accepted
  have known : (record codec).field? ((record codec).key .elements) = some .elements := rfl
  have vacant := Record.vacant_of_fieldsOfMembers known fields absent
  obtain ⟨frame, _, built⟩ := bind_eq_ok built
  obtain ⟨elements, field, built⟩ := bind_eq_ok built
  cases built
  rw [Record.valueOf, vacant] at field
  cases field
  rfl

end Absent

/-! ### The round trip -/

/-- Messages whose elements are of one type, in a round trip. -/
structure RoundTrips (codec : ElementCodec α) (Proper : α → Prop) : Prop where
  /-- A message with a valid frame is written, as a layout of its document.  What was written is
  decoded to the message if it nests 127 levels at most, and refused if it nests deeper. -/
  written : ∀ message : Message α, message.frame.validate = .ok () →
    (∀ x ∈ message.elements, Proper x) → (message.toJson codec).FloatFree →
    ∃ text, message.encode codec = .ok text ∧ Layout (message.toJson codec) text ∧
      ((message.toJson codec).depth ≤ 127 → decode codec text = .ok message) ∧
      (127 < (message.toJson codec).depth →
        ∃ refusal, decode codec text = .error (.malformed refusal))
  proper : ∀ text message, decode codec text = .ok message → ∀ x ∈ message.elements, Proper x
  /-- Whatever was decoded once, and is written again, is decoded to the same message. -/
  again : ∀ text message, decode codec text = .ok message → (message.toJson codec).FloatFree →
    ∃ again, message.encode codec = .ok again ∧ decode codec again = .ok message
  /-- A text without the member for the elements means the empty list. -/
  absent : ∀ members text text',
    (∀ member ∈ members, member.1 ≠ "interactionElements") → Spells text (.object members) →
    Spells text' (.object (members ++ [("interactionElements", .array [])])) →
    (decode codec text).toOption = (decode codec text').toOption ∧
      ∀ message, decode codec text = .ok message → message.elements = []

theorem roundTrips_of_lawful (lawful : codec.Lawful need Proper) : RoundTrips codec Proper where
  written := by
    intro message valid proper plain
    refine ⟨(message.toJson codec).bytes, encode_of_validate valid,
      layout_bytes (message.toJson codec) plain, decode_bytes lawful valid proper plain, ?_⟩
    intro deep
    have read := parse_toOption lawful proper plain
    rw [depthLimit, if_neg (Nat.not_le.mpr deep)] at read
    obtain ⟨refusal, refused⟩ := eq_error_of_toOption read
    refine ⟨refusal, ?_⟩
    rw [decode, refused]
    rfl
  proper := by
    intro text message decoded
    exact (proper_of_parse lawful (decode_eq_ok_iff.mp decoded).1).1
  again := by
    intro text message decoded plain
    obtain ⟨parsed, valid⟩ := decode_eq_ok_iff.mp decoded
    obtain ⟨proper, fits⟩ := proper_of_parse lawful parsed
    exact ⟨(message.toJson codec).bytes, encode_of_validate valid,
      decode_bytes lawful valid proper plain fits⟩
  absent := by
    intro members text text' absent spells spells'
    refine ⟨decode_absent absent spells lawful spells', ?_⟩
    intro message decoded
    exact elements_of_absent absent spells lawful decoded

/-- Messages of both element types are in a round trip: those of objects with any members, and those
of elements that are well formed, as every element is that was read. -/
theorem roundTrips :
    RoundTrips .generic (fun _ => True) ∧ RoundTrips .submodelElement Element.WellFormed ∧
      (∀ j element, Element.ofJson j = .ok element → element.WellFormed) ∧
      ∀ text element, Element.format.parse text = .ok element → element.WellFormed := by
  refine ⟨roundTrips_of_lawful ElementCodec.generic_lawful,
    roundTrips_of_lawful ElementCodec.submodelElement_lawful, ?_, ?_⟩
  · intro j element accepted
    exact Element.wellFormed_of_ofJson accepted
  · intro text element accepted
    obtain ⟨rest, read⟩ := Format.exists_read_of_parse accepted
    obtain ⟨j, _, given⟩ := Element.full.exists_json Element.agrees read
    exact Element.wellFormed_of_ofJson given

/-- Two elements under a message number that nests one level deeper than given. -/
def nesting (n : Nat) : Message Element :=
  ⟨Frame.nesting n, [Element.new "p" (some (.string "v")),
    (Element.new "q" none).withAttribute "unit" (.string "C")]⟩

theorem proper_nesting (n : Nat) : ∀ x ∈ (nesting n).elements, x.WellFormed := by
  intro x membership
  apply Element.wellFormed_of_ofJson (j := x.toJson)
  rcases List.mem_cons.mp membership with rfl | membership
  · rfl
  · cases List.mem_singleton.mp membership
    rfl

theorem floatFree_nesting (n : Nat) :
    ((nesting n).toJson .submodelElement).FloatFree := by
  have frame : (Frame.nesting n).toJson.FloatFree :=
    Frame.floatFree_toJson (Frame.floatFree_extremes n)
  have elements : ItemsFloatFree ((nesting n).elements.map ElementCodec.submodelElement.toJson) :=
    ⟨⟨trivial, trivial, trivial⟩, ⟨trivial, trivial, trivial, trivial⟩, trivial⟩
  exact ⟨frame, elements, trivial⟩

theorem depth_nesting (n : Nat) :
    ((nesting (n + 2)).toJson .submodelElement).depth = n + 5 := by
  have frame : (nesting (n + 2)).frame.toJson.depth = n + 4 := Frame.depth_nesting n
  have items :
      itemsDepth ((nesting (n + 2)).elements.map ElementCodec.submodelElement.toJson) = 1 := rfl
  rw [depth_toJson, frame, items]
  omega

/-- In a message the message number may nest 125 levels and no more; and without the member for the
elements there are none. -/
theorem roundTrips_at_limit :
    ((nesting 124).toJson .submodelElement).depth = 127 ∧
      (∃ text again, (nesting 124).encode .submodelElement = .ok text ∧
        decode .submodelElement text = .ok (nesting 124) ∧
        (nesting 124).encode .submodelElement = .ok again ∧
        decode .submodelElement again = .ok (nesting 124)) ∧
      ((nesting 125).toJson .submodelElement).depth = 128 ∧
      (∃ text refusal, (nesting 125).encode .submodelElement = .ok text ∧
        decode .submodelElement text = .error (.malformed refusal)) ∧
      decode .generic (Json.object [("frame", (Frame.nesting 2).toJson)]).bytes =
        .ok ⟨Frame.nesting 2, []⟩ := by
  obtain ⟨generic, elements, _, _⟩ := roundTrips
  have valid : ∀ n, (nesting n).frame.validate = .ok () := by
    intro n
    cases n <;> rfl
  refine ⟨depth_nesting 122, ?_, depth_nesting 123, ?_, ?_⟩
  · obtain ⟨text, encoded, _, accepted, _⟩ :=
      elements.written (nesting 124) (valid 124) (proper_nesting 124) (floatFree_nesting 124)
    have decoded := accepted (Nat.le_of_eq (depth_nesting 122))
    obtain ⟨again, encodedAgain, decodedAgain⟩ :=
      elements.again text _ decoded (floatFree_nesting 124)
    exact ⟨text, again, encoded, decoded, encodedAgain, decodedAgain⟩
  · obtain ⟨text, encoded, _, _, refused⟩ :=
      elements.written (nesting 125) (valid 125) (proper_nesting 125) (floatFree_nesting 125)
    obtain ⟨refusal, decoded⟩ := refused (by rw [depth_nesting 123]; decide)
    exact ⟨text, refusal, encoded, decoded⟩
  · have plain : (Frame.nesting 2).toJson.FloatFree :=
      Frame.floatFree_toJson (Frame.floatFree_extremes 2)
    have valid' : (Frame.nesting 2).validate = .ok () := rfl
    obtain ⟨text', encoded, layout, accepted, _⟩ :=
      generic.written ⟨Frame.nesting 2, []⟩ valid' (fun _ _ => trivial)
        ⟨plain, trivial, trivial⟩
    have decoded := accepted (by decide)
    have absent : ∀ member ∈ [("frame", (Frame.nesting 2).toJson)],
        member.1 ≠ "interactionElements" := by
      intro member membership
      cases List.mem_singleton.mp membership
      decide
    have same := (generic.absent _ _ text' absent (spells_bytes ⟨plain, trivial⟩)
      layout.spells).1
    rw [decoded] at same
    exact eq_ok_of_toOption same

end Message

end ShellBridge
