import ShellBridge.Proofs.Element.RoundTrip
import ShellBridge.Proofs.Event.Reading
import ShellBridge.Proofs.Frame.RoundTrip

/-!
Events in a round trip.

The fields of an event are written behind its kind, and are read wherever the kind stands.  What was
read is an event with a well-formed element, if it has one, and these are the events that read back.
-/

namespace ShellBridge

open Json

namespace EntityIds

def written (ids : EntityIds) : record.Written
  | .shell => some (.string ids.shell, ids.shell)
  | .submodel => some (.string ids.submodel, ids.submodel)
  | .repository => ids.repository.map fun repository => (.string repository, some repository)

theorem ofJson_toJson (ids : EntityIds) : record.ofJson ids.toJson = .ok ids := by
  have members : ids.toJson = .object (ids.written.members record.fields) := by
    rcases ids with ⟨shell, submodel, _ | repository⟩ <;> rfl
  have built : record.build ids.written.valueOf = .ok ids := by
    rcases ids with ⟨shell, submodel, _ | repository⟩ <;> rfl
  rw [members, ← built]
  refine Record.ofJson_written ids.written ?_ ?_ (by decide)
  · intro f j x entry
    cases f with
    | shell | submodel =>
        cases entry
        rfl
    | repository =>
        obtain ⟨repository, _, same⟩ := Option.map_eq_some_iff.mp entry
        cases same
        rfl
  · intro f
    cases f <;> decide

theorem depth_toJson (ids : EntityIds) : ids.toJson.depth = 1 := by
  rcases ids with ⟨shell, submodel, _ | repository⟩ <;> rfl

/-- What is written of the identifiers nests no deeper than what was read. -/
theorem depth_toJson_le {j : Json} {ids : EntityIds} (accepted : record.ofJson j = .ok ids) :
    ids.toJson.depth ≤ j.depth := by
  rw [depth_toJson]
  cases j with
  | array items | object members => exact Nat.succ_le_succ (Nat.zero_le _)
  | null | bool b | number n | string s => cases accepted

end EntityIds

theorem EventKind.find?_name (kind : EventKind) : names.find? kind.name = some kind := by
  cases kind <;> decide

namespace Event

/-! ### Events in writing -/

/-- The element of the event, if it has one, is well formed. -/
def WellFormed (event : Event) : Prop :=
  ∀ element, event.element? = some element → element.WellFormed

def written (event : Event) : (record event.kind).Written
  | .ids => some (event.ids.toJson, event.ids)
  | .path => event.path?.map fun path => (.string path, path)
  | .element => event.element?.map fun element => (element.toJson, element)
  | .value => event.value?.map fun value => (value.val, value)

theorem ofJson_of_written {event : Event} (wellFormed : event.WellFormed) (f : Field) (j : Json)
    (x : f.Ty) (entry : event.written f = some (j, x)) : f.format.ofJson j = .ok x := by
  cases f with
  | ids =>
      cases entry
      exact event.ids.ofJson_toJson
  | path =>
      obtain ⟨path, _, same⟩ := Option.map_eq_some_iff.mp entry
      cases same
      rfl
  | element =>
      obtain ⟨_, present, same⟩ := Option.map_eq_some_iff.mp entry
      cases same
      exact (wellFormed x present).ofJson_toJson
  | value =>
      obtain ⟨_, _, same⟩ := Option.map_eq_some_iff.mp entry
      cases same
      exact congrArg Except.ok (Value.ofJson_val x)

theorem mem_fields_iff (event : Event) (f : Field) :
    f ∈ (record event.kind).fields ↔ (event.written f).isSome := by
  have fields : (record event.kind).fields = Field.ofKind event.kind := rfl
  rw [fields]
  cases event <;> cases f <;> first
    | exact iff_of_true (by simp [Field.ofKind, kind]) rfl
    | exact iff_of_false (by simp [Field.ofKind, kind]) nofun

theorem build_written (event : Event) :
    (record event.kind).build event.written.valueOf = .ok event := by
  cases event <;> rfl

theorem nodup_keys (kind : EventKind) : ((record kind).fields.map (record kind).key).Nodup := by
  cases kind <;> decide

theorem ofJson_fieldMembers {event : Event} (wellFormed : event.WellFormed) :
    (record event.kind).ofJson (.object event.fieldMembers) = .ok event := by
  have members : event.fieldMembers = event.written.members (record event.kind).fields := by
    cases event <;> rfl
  rw [members, ← event.build_written]
  refine Record.ofJson_members event.written (ofJson_of_written wellFormed) ?_
    (nodup_keys event.kind)
  intro f outside
  rwa [mem_fields_iff, Bool.not_eq_true, Option.isSome_eq_false_iff, Option.isNone_iff_eq_none]
    at outside

theorem ofJson_values {event : Event} (wellFormed : event.WellFormed) :
    (record event.kind).ofJson (.array (event.fieldMembers.map Prod.snd)) = .ok event := by
  have values : event.fieldMembers.map Prod.snd =
      event.written.values (record event.kind).fields := by
    cases event <;> rfl
  rw [values, ← event.build_written]
  exact Record.ofJson_values event.written (ofJson_of_written wellFormed) event.mem_fields_iff
    (nodup_keys event.kind).of_map

/-- The documents that hold an event: its fields in an object, with the kind anywhere among them,
or in a list behind the kind. -/
inductive Form (event : Event) : Json → Prop
  | object {front behind : List (String × Json)} : front ++ behind = event.fieldMembers →
      Form event (.object (front ++ ("kind", event.kind.toJson) :: behind))
  | list : Form event (.array (event.kind.toJson :: event.fieldMembers.map Prod.snd))

theorem form_toJson (event : Event) : Form event event.toJson :=
  @Form.object event [] _ rfl

theorem ne_kind_of_mem_fieldMembers {event : Event} {member : String × Json}
    (membership : member ∈ event.fieldMembers) : member.1 ≠ "kind" := by
  cases event with
  | submodelAdded ids | submodelRemoved ids =>
      rw [List.mem_singleton.mp membership]
      simp
  | elementAdded ids path element | elementRemoved ids path element
  | elementUpdated ids path element | elementValueChanged ids path value =>
      simp only [fieldMembers, List.mem_cons, List.not_mem_nil, or_false] at membership
      rcases membership with rfl | rfl | rfl <;> simp

section Forms

variable {event : Event} {front behind : List (String × Json)}
  (fields : front ++ behind = event.fieldMembers)
include fields

theorem filter_kind :
    ((front ++ ("kind", event.kind.toJson) :: behind).filter fun member => member.1 == "kind") =
      [("kind", event.kind.toJson)] := by
  have plain : ∀ member ∈ front ++ behind, member.1 ≠ "kind" := by
    rw [fields]
    exact fun member => ne_kind_of_mem_fieldMembers
  have none : (front ++ behind).filter (fun member => member.1 == "kind") = [] := by
    rw [List.filter_eq_nil_iff]
    simpa using plain
  rw [List.filter_append, List.append_eq_nil_iff] at none
  rw [List.filter_append, none.1, List.filter_cons_of_pos rfl, none.2, List.nil_append]

theorem filter_ne_kind :
    ((front ++ ("kind", event.kind.toJson) :: behind).filter fun member => member.1 != "kind") =
      event.fieldMembers := by
  have all : (front ++ behind).filter (fun member => member.1 != "kind") = front ++ behind := by
    rw [List.filter_eq_self, fields]
    intro member membership
    simpa using ne_kind_of_mem_fieldMembers membership
  rw [← fields, ← all, List.filter_append, List.filter_append,
    List.filter_cons_of_neg (by simp)]

end Forms

namespace Form

variable {event : Event} {j : Json}

/-- Every form holds the kind. -/
theorem part?_kind (form : Form event j) : j.part? "kind" 0 = some event.kind.toJson := by
  cases form with
  | object fields => exact only?_of_filter (filter_kind fields)
  | list => rfl

/-- Every form without the kind is accepted for the event. -/
theorem ofJson_untagged (form : Form event j) (wellFormed : event.WellFormed) :
    (record event.kind).ofJson (untagged j) = .ok event := by
  cases form with
  | object fields =>
      rw [untagged, filter_ne_kind fields]
      exact ofJson_fieldMembers wellFormed
  | list => exact ofJson_values wellFormed

/-- A well-formed event is read from every form of it, up to the limit of nesting. -/
theorem parse_toOption (form : Form event j) (wellFormed : event.WellFormed) {text : Bytes}
    (spells : Spells text j) :
    (parse text).toOption = if j.depth ≤ depthLimit then some event else none := by
  have known : EventKind.names.ofJson? event.kind.toJson = some event.kind :=
    event.kind.find?_name
  have tagged : tagged? j = some (event.kind, untagged j) := by
    rw [tagged?, form.part?_kind]
    simp only [Option.bind_eq_bind, Option.bind_some, known]
  rw [Event.parse_toOption spells, tagged]
  simp only [Option.bind_some, form.ofJson_untagged wellFormed, toOption_ok]

end Form

/-! ### Events that were read -/

theorem StandsIn.wellFormed {event : Event} {j : Json} (stands : event.StandsIn j) :
    event.WellFormed := by
  intro element present
  obtain ⟨part, _, accepted⟩ := stands.element present
  exact Element.wellFormed_of_ofJson accepted

/-- What is written of an event nests no deeper than what was read. -/
theorem StandsIn.depth_toJson_le {event : Event} {j : Json} (stands : event.StandsIn j) :
    event.toJson.depth ≤ j.depth := by
  have ids : event.ids.toJson.depth < j.depth := by
    obtain ⟨part, found, accepted⟩ := stands.ids
    exact Nat.lt_of_le_of_lt (EntityIds.depth_toJson_le accepted) (depth_lt_of_part? found)
  have element : ∀ element, event.element? = some element → element.toJson.depth < j.depth := by
    intro element present
    obtain ⟨part, found, accepted⟩ := stands.element present
    exact Nat.lt_of_le_of_lt (Element.depth_toJson_le accepted) (depth_lt_of_part? found)
  have value : ∀ value, event.value? = some value → value.val.depth < j.depth := by
    intro value present
    obtain ⟨part, found, rfl⟩ := stands.value present
    exact Nat.lt_of_le_of_lt (depth_normalize_le part) (depth_lt_of_part? found)
  cases event with
  | submodelAdded ids' | submodelRemoved ids' =>
      simp only [Event.ids] at ids
      simp only [toJson, fieldMembers, EventKind.toJson, depth, membersDepth]
      omega
  | elementAdded ids' path element' | elementRemoved ids' path element'
  | elementUpdated ids' path element' =>
      have inside := element element' rfl
      simp only [Event.ids] at ids
      simp only [toJson, fieldMembers, EventKind.toJson, depth, membersDepth]
      omega
  | elementValueChanged ids' path value' =>
      have inside := value value' rfl
      simp only [Event.ids] at ids
      simp only [toJson, fieldMembers, EventKind.toJson, depth, membersDepth]
      omega

/-! ### The round trip -/

/-- What is written of a well-formed event without floats is the text of its document, which holds
the kind, and reads back unless it nests deeper than 127 levels; and so do the other forms of its
document.  Whatever was read is a well-formed event that nests no deeper, and is read again from
what is written of it.  An event addresses an element just if its kind does. -/
theorem parse_roundTrips :
    (∀ event : Event, event.WellFormed → event.toJson.FloatFree →
      Spells event.toJson.bytes event.toJson ∧
        event.toJson.part? "kind" 0 = some event.kind.toJson ∧
        (event.toJson.depth ≤ 127 → parse event.toJson.bytes = .ok event) ∧
        (127 < event.toJson.depth → ∃ refusal, parse event.toJson.bytes = .error refusal)) ∧
    (∀ (event : Event) (j : Json) (text : Bytes), event.WellFormed → Form event j →
      Spells text j → j.depth ≤ 127 → parse text = .ok event) ∧
    (∀ (text : Bytes) (event : Event), parse text = .ok event →
      event.WellFormed ∧ event.toJson.depth ≤ 127 ∧
        (event.toJson.FloatFree → parse event.toJson.bytes = .ok event)) ∧
    ∀ event : Event, event.path?.isSome = event.kind.isElementScoped := by
  have forms : ∀ (event : Event) (j : Json) (text : Bytes), event.WellFormed → Form event j →
      Spells text j → j.depth ≤ 127 → parse text = .ok event := by
    intro event j text wellFormed form spells fits
    apply eq_ok_of_toOption
    rw [form.parse_toOption wellFormed spells]
    exact if_pos fits
  refine ⟨?_, forms, ?_, ?_⟩
  · intro event wellFormed plain
    have spells := spells_bytes plain
    refine ⟨spells, event.form_toJson.part?_kind,
      forms event _ _ wellFormed event.form_toJson spells, ?_⟩
    intro deep
    apply eq_error_of_toOption
    rw [event.form_toJson.parse_toOption wellFormed spells]
    exact if_neg (Nat.not_le.mpr deep)
  · intro text event accepted
    obtain ⟨j, _, fits, stands⟩ := exists_document_of_parse accepted
    have fits' : event.toJson.depth ≤ 127 := Nat.le_trans stands.depth_toJson_le fits
    refine ⟨stands.wellFormed, fits', ?_⟩
    intro plain
    exact forms event _ _ stands.wellFormed event.form_toJson (spells_bytes plain) fits'
  · intro event
    cases event <;> rfl

/-- A change of an element with an attribute. -/
def snapshot : Event :=
  .elementUpdated ⟨"s", "m", some "r"⟩ "p/q"
    ((Element.new "q" (some (.string "v"))).withAttribute "unit" (.string "C"))

/-- A change to a value that nests one level deeper than given. -/
def nesting (n : Nat) : Event :=
  .elementValueChanged ⟨"", "é", none⟩ "" ⟨Frame.extremes n, Frame.extremes_isCanonical n⟩

theorem wellFormed_snapshot : snapshot.WellFormed := by
  intro element present
  apply Element.wellFormed_of_ofJson (j := element.toJson)
  cases present
  rfl

theorem floatFree_snapshot : snapshot.toJson.FloatFree :=
  ⟨trivial, ⟨trivial, trivial, trivial, trivial⟩, trivial, ⟨trivial, trivial, trivial, trivial⟩,
    trivial⟩

theorem wellFormed_nesting (n : Nat) : (nesting n).WellFormed := by
  intro element present
  cases present

theorem floatFree_nesting (n : Nat) : (nesting n).toJson.FloatFree :=
  ⟨trivial, ⟨trivial, trivial, trivial⟩, trivial, Frame.floatFree_extremes n, trivial⟩

theorem depth_nesting (n : Nat) : (nesting n).toJson.depth = n + 2 := by
  simp [toJson, nesting, fieldMembers, EventKind.toJson, EntityIds.toJson, depth, membersDepth,
    Frame.depth_extremes]

/-- The kind may stand in front of the fields, behind them, or in a list with them; and a value may
nest 126 levels and no more. -/
theorem parse_roundTrips_of_forms :
    parse snapshot.toJson.bytes = .ok snapshot ∧
      parse (Json.object (snapshot.fieldMembers ++ [("kind", .string "element_updated")])).bytes =
        .ok snapshot ∧
      parse (Json.array [.string "element_updated", snapshot.ids.toJson, .string "p/q",
        .object [("idShort", .string "q"), ("value", .string "v"), ("unit", .string "C")]]).bytes =
          .ok snapshot ∧
      (nesting 125).toJson.depth = 127 ∧
      parse (nesting 125).toJson.bytes = .ok (nesting 125) ∧
      (nesting 126).toJson.depth = 128 ∧
      ∃ refusal, parse (nesting 126).toJson.bytes = .error refusal := by
  obtain ⟨written, forms, again, _⟩ := parse_roundTrips
  have read := (written snapshot wellFormed_snapshot floatFree_snapshot).2.2.1 (by decide)
  have last : snapshot.Form
      (.object (snapshot.fieldMembers ++ [("kind", .string "element_updated")])) :=
    .object (List.append_nil _)
  have listed : snapshot.Form (.array [.string "element_updated", snapshot.ids.toJson,
      .string "p/q",
      .object [("idShort", .string "q"), ("value", .string "v"), ("unit", .string "C")]]) :=
    .list
  have nested := (written (nesting 125) (wellFormed_nesting 125) (floatFree_nesting 125)).2.2.1
    (Nat.le_of_eq (depth_nesting 125))
  refine ⟨(again _ _ read).2.2 floatFree_snapshot, ?_, ?_, depth_nesting 125, nested,
    depth_nesting 126, ?_⟩
  · exact forms _ _ _ wellFormed_snapshot last
      (spells_bytes ⟨⟨trivial, trivial, trivial, trivial⟩, trivial,
        ⟨trivial, trivial, trivial, trivial⟩, trivial, trivial⟩) (by decide)
  · exact forms _ _ _ wellFormed_snapshot listed
      (spells_bytes ⟨trivial, ⟨trivial, trivial, trivial, trivial⟩, trivial,
        ⟨trivial, trivial, trivial, trivial⟩, trivial⟩) (by decide)
  · exact (written (nesting 126) (wellFormed_nesting 126) (floatFree_nesting 126)).2.2.2
      (by rw [depth_nesting]; decide)

end Event

end ShellBridge
