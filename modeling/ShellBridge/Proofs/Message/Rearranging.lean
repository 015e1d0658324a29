import ShellBridge.Proofs.Event.Reading
import ShellBridge.Proofs.Json.Rearranging
import ShellBridge.Proofs.Message.RoundTrip

/-!
Frames, events and messages with their members rearranged.

An event tells by its kind which of its members are fields, and the kind may come last.  Its members
are put aside until then, so that it is read like the record of the fields of this kind.
-/

namespace ShellBridge

open Json

namespace Frame

theorem unmoved : Unmoved (fun _ => record.Foreign) decode := by
  refine Orderless.unmoved ?_ ((record.orderless needs depthLimit).bind fun frame =>
    frame.validate.toOption.map fun _ => frame)
  intro text members spells
  rw [decode, toOption_checked, agrees.parse_toOption spells]
  rfl

end Frame

namespace Message

/-- Messages are not moved, whatever their elements are, if only these stand where a document
stands. -/
theorem unmoved {α : Type} {codec : ElementCodec α} {need : Json → Nat}
    (agrees : codec.format.Agrees need) :
    Unmoved (fun _ => (record codec).Foreign) (decode codec) := by
  have fields : ∀ f, ((record codec).format f).Agrees (needs need f) := by
    intro f
    cases f with
    | frame => exact Frame.agrees
    | elements => exact Format.list_agrees agrees
  refine Orderless.unmoved ?_ (((record codec).orderless (needs need) depthLimit).bind
    fun message => message.frame.validate.toOption.map fun _ => message)
  intro text members spells
  have parsed := (Record.agrees fields).parse_toOption spells
  rw [decode, toOption_checked, parse, parsed]

end Message

namespace Event

/-- The kind that the members hold. -/
def heldKind? (members : List (String × Json)) : Option EventKind :=
  (only? "kind" members).bind EventKind.names.ofJson?

/-- The key is neither that of the kind nor one of the fields of the kind that the members hold. -/
def Foreign (members : List (String × Json)) (key : String) : Prop :=
  key ≠ "kind" ∧ ∀ kind, heldKind? members = some kind → (record kind).Foreign key

/-- What is accepted of the members: an event of the kind that they hold, made of the others. -/
def accept (members : List (String × Json)) : Option Event :=
  if (Json.object members).depth ≤ depthLimit then
    (heldKind? members).bind fun kind =>
      ((record kind).ofJson (.object (members.filter fun member => member.1 != "kind"))).toOption
  else none

theorem parse_toOption_object {text : Bytes} {members : List (String × Json)}
    (spells : Spells text (.object members)) : (parse text).toOption = accept members := by
  have part : (Json.object members).part? "kind" 0 = only? "kind" members := rfl
  rw [parse_toOption spells, accept, tagged?, part, heldKind?]
  split
  · cases only? "kind" members with
    | none => rfl
    | some tag =>
        simp only [bind, Option.bind_some]
        cases EventKind.names.ofJson? tag <;> rfl
  · rfl

theorem orderless : Orderless Foreign accept where
  perm members others perm := by
    rw [accept, accept, heldKind?, heldKind?, depth_object_perm perm, only?_perm perm]
    split
    · congr 1
      funext kind
      exact Record.ofJson_perm (perm.filter _)
    · rfl
  foreign members key j foreign fits := by
    obtain ⟨different, foreign⟩ := foreign
    have fitsBehind : (Json.object members).depth ≤ depthLimit := by
      rw [depth, membersDepth] at fits
      rw [depth]
      omega
    have kept : (((key, j) :: members).filter fun member => member.1 != "kind") =
        (key, j) :: members.filter fun member => member.1 != "kind" := by
      simp [different]
    have held : heldKind? ((key, j) :: members) = heldKind? members := by
      rw [heldKind?, only?_cons_of_ne different, heldKind?]
    rw [accept, accept, if_pos fits, if_pos fitsBehind, held, kept]
    cases kind? : heldKind? members with
    | none => rfl
    | some kind =>
        exact congrArg Except.toOption (Record.ofJson_cons_foreign (foreign kind kind?) j _)

theorem unmoved : Unmoved Foreign parse :=
  orderless.unmoved fun _ _ => parse_toOption_object

end Event

/-- The same frame, event or message is read of a text, or none at all, however its members are
rearranged.  Messages may be of any elements that stand where a document stands, as those of both
types do. -/
theorem readers_unmoved :
    Unmoved (fun _ => Frame.record.Foreign) Frame.decode ∧
      Unmoved Event.Foreign Event.parse ∧
      (∀ {α : Type} {codec : ElementCodec α} {need : Json → Nat}, codec.format.Agrees need →
        Unmoved (fun _ => (Message.record codec).Foreign) (Message.decode codec)) ∧
      Unmoved (fun _ => (Message.record .generic).Foreign) (Message.decode .generic) ∧
      Unmoved (fun _ => (Message.record .submodelElement).Foreign)
        (Message.decode .submodelElement) :=
  ⟨Frame.unmoved, Event.unmoved, Message.unmoved,
    Message.unmoved ElementCodec.generic_lawful.agrees,
    Message.unmoved ElementCodec.submodelElement_lawful.agrees⟩

/-- A removal is read with its kind behind the other members, and with a path in front of them,
which is foreign to its kind. -/
theorem readers_unmoved_of_removal :
    let removal : Event := .submodelRemoved ⟨"s", "m", none⟩
    let others := removal.fieldMembers ++ [("kind", removal.kind.toJson)]
    Event.parse (Json.object (("path", .array [.null]) :: others)).bytes = .ok removal := by
  intro removal others
  have texts : ∀ members ∈
      [("kind", removal.kind.toJson) :: removal.fieldMembers, others,
        ("path", .array [.null]) :: others],
      Spells (Json.object members).bytes (.object members) := by
    intro members membership
    apply spells_bytes
    simp only [List.mem_cons, List.not_mem_nil, or_false] at membership
    rcases membership with rfl | rfl | rfl <;>
      simp [others, removal, Event.fieldMembers, EntityIds.toJson, EventKind.toJson, FloatFree,
        MembersFloatFree, ItemsFloatFree]
  have written := texts (("kind", removal.kind.toJson) :: removal.fieldMembers) (by simp)
  have moved := texts others (by simp)
  have joined := texts (("path", .array [.null]) :: others) (by simp)
  have foreign : Event.Foreign others "path" := by
    refine ⟨by decide, ?_⟩
    intro kind held
    cases held
    show "path" ∉ ["ids"]
    decide
  have permute : Rearranges Event.Foreign removal.toJson.bytes (Json.object others).bytes :=
    .permute written moved (List.perm_append_singleton _ _).symm
  have insert : Rearranges Event.Foreign (Json.object others).bytes
      (Json.object (("path", .array [.null]) :: others)).bytes :=
    @Rearranges.insert Event.Foreign _ _ [] others _ _ _ moved joined foreign
      (joined.parse_value (by decide))
  have read : (Event.parse removal.toJson.bytes).toOption = some removal := by
    rw [Event.toJson, Event.parse_toOption_object written]
    decide
  apply eq_ok_of_toOption
  exact (readers_unmoved.2.1 _ _ (.tail (.single permute) insert)).trans read

end ShellBridge
