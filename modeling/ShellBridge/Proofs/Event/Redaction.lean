import ShellBridge.Payload
import ShellBridge.Topic
import ShellBridge.Proofs.Event.Documents
import ShellBridge.Proofs.Event.Elements

/-!
Redaction.

A structural change of an element is published without the element's value, and with everything
else that the event says of the element.  So events that differ in this value only are published
alike.
-/

namespace ShellBridge

open Json

namespace EventKind

/-- The changes of an element as a whole. -/
def structural : List EventKind :=
  [elementAdded, elementRemoved, elementUpdated]

theorem toJson_injective {kind other : EventKind} (same : kind.toJson = other.toJson) :
    kind = other := by
  have names : kind.name = other.name := Json.string.inj same
  cases kind <;> cases other <;> first | rfl | exact absurd names (by decide)

end EventKind

namespace Event

theorem exists_element_of_structural {event : Event}
    (structural : event.kind ∈ EventKind.structural) :
    ∃ path element, event.path? = some path ∧ event.element? = some element ∧
      event.payload = element.redacted.toJson.bytes := by
  cases event with
  | elementAdded ids path element | elementRemoved ids path element
  | elementUpdated ids path element => exact ⟨path, element, rfl, rfl, rfl⟩
  | submodelAdded ids | submodelRemoved ids | elementValueChanged ids path value =>
      simp [kind, EventKind.structural] at structural

theorem exists_value_of_kind {event : Event} (changed : event.kind = .elementValueChanged) :
    ∃ value, event.value? = some value ∧ event.payload = value.val.bytes := by
  cases event with
  | elementValueChanged ids path value => exact ⟨value, rfl, rfl⟩
  | submodelAdded ids | submodelRemoved ids | elementAdded ids path element
  | elementRemoved ids path element | elementUpdated ids path element => cases changed

/-! ### Events that differ in the value only -/

/-- The document of an event, its element without the value. -/
def withoutElementValue : Json → Json
  | .object members =>
      .object (members.map fun (key, j) =>
        (key, if key = "element" then Element.withoutValue j else j))
  | .array items => .array (items.modify 3 Element.withoutValue)
  | j => j

theorem only?_map {key : String} (change : String → Json → Json) (members : List (String × Json)) :
    only? key (members.map fun (key, j) => (key, change key j)) =
      (only? key members).map (change key) := by
  have filtered : (members.map fun (key, j) => (key, change key j)).filter
      (fun member => member.1 == key) =
        (members.filter fun member => member.1 == key).map fun (key, j) => (key, change key j) := by
    rw [List.filter_map]
    rfl
  cases found : only? key members with
  | some j =>
      rw [only?, filtered, filter_of_only? found]
      rfl
  | none =>
      rw [only?, filtered]
      unfold only? at found
      split at found
      · cases found
      · next several =>
          split
          · next key' j taken =>
              exfalso
              obtain ⟨⟨key'', j'⟩, alone, _⟩ := List.map_eq_singleton_iff.mp taken
              exact several key'' j' alone
          · rfl

theorem part?_withoutElementValue {key : String} {place : Nat} (outside : key ≠ "element")
    (outside' : place ≠ 3) (j : Json) :
    (withoutElementValue j).part? key place = j.part? key place := by
  cases j with
  | object members =>
      show only? key _ = only? key members
      rw [only?_map fun key j => if key = "element" then Element.withoutValue j else j]
      simp [outside]
  | array items =>
      show (items.modify 3 Element.withoutValue)[place]? = items[place]?
      simp [Ne.symm outside']
  | null | bool b | number n | string s => rfl

theorem element_withoutElementValue (j : Json) :
    (withoutElementValue j).part? "element" 3 =
      (j.part? "element" 3).map Element.withoutValue := by
  cases j with
  | object members =>
      show only? "element" _ = (only? "element" members).map Element.withoutValue
      rw [only?_map fun key j => if key = "element" then Element.withoutValue j else j]
      rfl
  | array items =>
      show (items.modify 3 Element.withoutValue)[3]? = items[3]?.map Element.withoutValue
      rw [List.getElem?_modify]
      rfl
  | null | bool b | number n | string s => rfl

/-- What stands in a document without the value, stands in every other one that differs in the
value only. -/
theorem StandsIn.eq_of_withoutElementValue {event other : Event} {j j' : Json}
    (stands : event.StandsIn j) (stands' : other.StandsIn j')
    (structural : event.kind ∈ EventKind.structural)
    (same : withoutElementValue j = withoutElementValue j') :
    event.kind = other.kind ∧ event.ids = other.ids ∧ event.path? = other.path? ∧
      event.payload = other.payload := by
  have part : ∀ {key place}, key ≠ "element" → place ≠ 3 →
      j.part? key place = j'.part? key place := by
    intro key place outside outside'
    rw [← part?_withoutElementValue outside outside', same,
      part?_withoutElementValue outside outside']
  have kinds : event.kind = other.kind := by
    apply EventKind.toJson_injective
    have tags := stands.kind
    rw [part (by decide) (by decide), stands'.kind] at tags
    exact (Option.some.inj tags).symm
  have ids : event.ids = other.ids := by
    obtain ⟨first, found, read⟩ := stands.ids
    obtain ⟨second, found', read'⟩ := stands'.ids
    rw [part (by decide) (by decide), found'] at found
    cases found
    rw [read] at read'
    exact Except.ok.inj read'
  obtain ⟨path, element, givenPath, givenElement, payload⟩ :=
    exists_element_of_structural structural
  obtain ⟨path', element', givenPath', givenElement', payload'⟩ :=
    exists_element_of_structural (kinds ▸ structural)
  have paths : path = path' := by
    have found := stands.path givenPath
    rw [part (by decide) (by decide), stands'.path givenPath'] at found
    exact (Json.string.inj (Option.some.inj found)).symm
  have elements : element.redacted = element'.redacted := by
    obtain ⟨first, found, read⟩ := stands.element givenElement
    obtain ⟨second, found', read'⟩ := stands'.element givenElement'
    have parts := element_withoutElementValue j
    rw [same, element_withoutElementValue, found, found'] at parts
    have redacted := Element.ofJson_withoutValue read
    rw [← Option.some.inj parts, Element.ofJson_withoutValue read'] at redacted
    exact (Except.ok.inj redacted).symm
  refine ⟨kinds, ids, ?_, ?_⟩
  · rw [givenPath, givenPath', paths]
  · rw [payload, payload', elements]

/-! ### Payloads -/

/-- The payload of a structural change reads back as the element of the text with `null` for its
value, and has every key once.  The payload of a change of the value reads back as this value.
Structural changes whose texts differ in the value of the element only have the same topic and the
same payload. -/
theorem payload_of_parse :
    (∀ (text : Bytes) (event : Event), parse text = .ok event →
      event.kind ∈ EventKind.structural →
      ∃ j members, Spells text j ∧ j.part? "element" 3 = some (.object members) ∧
        ((Json.object members).FloatFree →
          Value.parse event.payload =
              .ok ((Members.ofList members).insert "value" .null).toValue ∧
            ∃ written, Spells event.payload (.object written) ∧
              (written.map Prod.fst).Nodup)) ∧
    (∀ (text : Bytes) (event : Event), parse text = .ok event →
      event.kind = .elementValueChanged →
      ∃ j part, Spells text j ∧ j.part? "value" 3 = some part ∧
        (part.FloatFree → Value.parse event.payload = .ok (.ofJson part))) ∧
    ∀ (text text' : Bytes) (event event' : Event) (j j' : Json), parse text = .ok event →
      parse text' = .ok event' → event.kind ∈ EventKind.structural →
      event'.kind ∈ EventKind.structural → Spells text j → Spells text' j' →
      withoutElementValue j = withoutElementValue j' →
      (∀ scheme : TopicScheme, scheme.forEvent event.kind event.ids event.path? =
        scheme.forEvent event'.kind event'.ids event'.path?) ∧
      event.payload = event'.payload := by
  refine ⟨?_, ?_, ?_⟩
  · intro text event accepted structural
    obtain ⟨j, spells, shallow, stands⟩ := exists_document_of_parse accepted
    obtain ⟨path, element, _, given, payload⟩ := exists_element_of_structural structural
    obtain ⟨part, found, read⟩ := stands.element given
    have inside := depth_lt_of_part? found
    cases part with
    | object members =>
        refine ⟨j, members, spells, found, ?_⟩
        intro plain
        have fits : (Json.object members).depth ≤ depthLimit :=
          Nat.le_trans (Nat.le_of_lt inside) shallow
        rw [payload]
        exact ⟨Element.parse_redacted read plain fits, element.redacted.written,
          spells_bytes (Element.floatFree_written read plain), Element.nodup_keys_written read⟩
    | null | bool b | number n | string s | array items => cases read
  · intro text event accepted changed
    obtain ⟨j, spells, shallow, stands⟩ := exists_document_of_parse accepted
    obtain ⟨value, given, payload⟩ := exists_value_of_kind changed
    obtain ⟨part, found, read⟩ := stands.value given
    refine ⟨j, part, spells, found, ?_⟩
    intro plain
    have fits : part.depth ≤ depthLimit :=
      Nat.le_trans (Nat.le_of_lt (depth_lt_of_part? found)) shallow
    rw [payload, ← read]
    exact Value.parse_ofJson plain fits
  · intro text text' event event' j j' accepted accepted' structural _ spells spells' same
    obtain ⟨first, spellsFirst, _, stands⟩ := exists_document_of_parse accepted
    obtain ⟨second, spellsSecond, _, stands'⟩ := exists_document_of_parse accepted'
    rw [spells.unique spellsFirst, spells'.unique spellsSecond] at same
    obtain ⟨kinds, ids, paths, payloads⟩ :=
      stands.eq_of_withoutElementValue stands' structural same
    refine ⟨?_, payloads⟩
    intro scheme
    rw [kinds, ids, paths]

/-- A structural change of an element with an attribute that is there twice. -/
def sample (value : List (String × Json)) : Json :=
  .object [("element", .object (("a", .bool true) :: value ++
      [("idShort", .string "e"), ("a", .object [("x", .null), ("x", .bool false)])])),
    ("ids", .array [.string "s", .string "m"]), ("kind", .string "element_updated"),
    ("path", .string "p")]

/-- A change of a value, with its fields in order. -/
def sampleChange : Json :=
  .array [.string "element_value_changed", .object [("submodelId", .string "m"),
    ("shellId", .string "s")], .string "p", .object [("y", .null), ("x", .array []), ("y", .null)]]

theorem parse_sample :
    parse (sample []).bytes = .ok (.elementUpdated ⟨"s", "m", none⟩ "p"
      ⟨"e", none, .ofList [("a", .object [("x", .bool false)])]⟩) ∧
    parse (sample [("value", .array [.null])]).bytes = .ok (.elementUpdated ⟨"s", "m", none⟩ "p"
      ⟨"e", some (.ofJson (.array [.null])), .ofList [("a", .object [("x", .bool false)])]⟩) ∧
    parse sampleChange.bytes = .ok (.elementValueChanged ⟨"s", "m", none⟩ "p"
      (.ofJson (.object [("x", .array []), ("y", .null)]))) := by
  refine ⟨eq_ok_of_toOption ?_, eq_ok_of_toOption ?_, eq_ok_of_toOption ?_⟩ <;> decide +kernel

theorem floatFree_sample {value : List (String × Json)} (plain : MembersFloatFree value) :
    (sample value).FloatFree := by
  simp [sample, FloatFree, MembersFloatFree, ItemsFloatFree, membersFloatFree_append, plain]

/-- The value is left out of the payload, and of the repeated attribute the last one stands. -/
theorem payload_of_parse_of_sample :
    (∃ event event', parse (sample []).bytes = .ok event ∧
      parse (sample [("value", .array [.null])]).bytes = .ok event' ∧
      event ≠ event' ∧ event.payload = event'.payload ∧
      Value.parse event'.payload = .ok (.ofJson (.object [("a", .object [("x", .bool false)]),
        ("idShort", .string "e"), ("value", .null)]))) ∧
    ∃ event, parse sampleChange.bytes = .ok event ∧ Value.parse event.payload =
      .ok (.ofJson (.object [("y", .null), ("x", .array []), ("y", .null)])) := by
  obtain ⟨bare, full, changed⟩ := parse_sample
  have plain : (sample [("value", .array [.null])]).FloatFree :=
    floatFree_sample ⟨⟨trivial, trivial⟩, trivial⟩
  constructor
  · refine ⟨_, _, bare, full, by decide +kernel, ?_, ?_⟩
    · exact (payload_of_parse.2.2 _ _ _ _ _ _ bare full (by decide) (by decide)
        (spells_bytes (floatFree_sample trivial)) (spells_bytes plain) rfl).2
    · obtain ⟨j, members, spells, found, reads⟩ := payload_of_parse.1 _ _ full (by decide)
      rw [spells.unique (spells_bytes plain)] at found
      cases found
      rw [(reads ⟨trivial, ⟨trivial, trivial⟩, trivial, ⟨trivial, trivial, trivial⟩, trivial⟩).1]
      rfl
  · refine ⟨_, changed, ?_⟩
    obtain ⟨j, part, spells, found, reads⟩ := payload_of_parse.2.1 _ _ changed rfl
    have plain : sampleChange.FloatFree :=
      ⟨trivial, ⟨trivial, trivial, trivial⟩, trivial, ⟨trivial, trivial, trivial, trivial⟩, trivial⟩
    rw [spells.unique (spells_bytes plain)] at found
    cases found
    exact reads ⟨trivial, trivial, trivial, trivial⟩

end Event

end ShellBridge
