import ShellBridge.Proofs.Event.Redaction
import ShellBridge.Proofs.Topic.Injectivity

/-!
What a publication tells of its event.

The topic tells the kind of the event, the repository, the shell, and for elements the submodel and
the path; the payload tells the submodel, the element without its value, or the value.  Together
they tell all that is meant to be told.  A payload of two identifiers alone does not: it has no mark
that tells where the first one ends, and is read with the shell of the topic only.
-/

namespace ShellBridge

open Json

/-- Where the shell is known, the text of shell and submodel tells the submodel. -/
theorem utf8_combinedMessage_right_inj {shell submodel other : String} :
    utf8 (combinedMessage shell submodel) = utf8 (combinedMessage shell other) ↔
      submodel = other := by
  constructor
  · intro same
    have texts := Identifier.utf8_injective same
    simpa only [combinedMessage, String.append_assoc, String.append_right_inj,
      String.append_left_inj] using texts
  · rintro rfl
    rfl

namespace TopicScheme

variable (scheme : TopicScheme) {kind otherKind : TopicKind} {ids other : EntityIds}

/-- Topics under repositories of one segment are the same if they say the same. -/
theorem topic_eq_iff (path otherPath : String)
    (plain : '/' ∉ (scheme.repositoryOr ids.repository).toList)
    (otherPlain : '/' ∉ (scheme.repositoryOr other.repository).toList)
    (shells : kind ≠ .shellCreated) (otherShells : otherKind ≠ .shellCreated) :
    scheme.topic kind ids path = scheme.topic otherKind other otherPath ↔
      kind = otherKind ∧
        scheme.repositoryOr ids.repository = scheme.repositoryOr other.repository ∧
        ids.shell = other.shell ∧
        (kind.isElement = true →
          ids.submodel = other.submodel ∧ Path.normalize path = Path.normalize otherPath) := by
  constructor
  · intro same
    have read := ParsedTopic.parse_topic_eq_parts scheme kind ids path plain
    rw [same, ParsedTopic.parse_topic_eq_parts scheme otherKind other otherPath otherPlain] at read
    simp only [parts, if_neg shells, if_neg otherShells, Option.some.injEq,
      ParsedTopic.mk.injEq] at read
    obtain ⟨rfl, repository, shell, submodel, normal⟩ := read
    refine ⟨rfl, repository.symm, shell.symm, ?_⟩
    intro element
    simp only [if_pos element, Option.some.injEq] at submodel normal
    exact ⟨submodel.symm, normal.symm⟩
  · rintro ⟨rfl, repository, shell, element⟩
    exact topic_congr repository (fun _ => shell) element

end TopicScheme

namespace Element

theorem floatFree_redacted {element : Element} (plain : element.toJson.FloatFree) :
    element.redacted.toJson.FloatFree := by
  simp only [toJson, FloatFree, MembersFloatFree] at plain ⊢
  exact ⟨trivial, trivial, plain.2.2⟩

theorem eq_of_redacted_toJson {element other : Element}
    (same : element.redacted.toJson = other.redacted.toJson) :
    element.redacted = other.redacted := by
  rcases element with ⟨idShort, value, attributes⟩
  rcases other with ⟨idShort', value', attributes'⟩
  simp only [redacted, toJson, valueJson, Json.object.injEq, List.cons.injEq, Prod.mk.injEq,
    Json.string.injEq, true_and] at same
  obtain ⟨sameId, sameAttributes⟩ := same
  rw [redacted, redacted, sameId, Subtype.ext sameAttributes]

/-- The payload of a structural change tells the element without its value. -/
theorem redacted_bytes_inj {element other : Element} (plain : element.toJson.FloatFree)
    (otherPlain : other.toJson.FloatFree) :
    element.redacted.toJson.bytes = other.redacted.toJson.bytes ↔
      element.redacted = other.redacted := by
  constructor
  · intro same
    apply eq_of_redacted_toJson
    exact bytes_injective (floatFree_redacted plain) (floatFree_redacted otherPlain) same
  · intro same
    rw [same]

end Element

namespace Event

theorem floatFree_element {event : Event} {element : Element} (plain : event.toJson.FloatFree)
    (carried : event.element? = some element) : element.toJson.FloatFree := by
  cases event with
  | elementAdded ids path own | elementRemoved ids path own | elementUpdated ids path own =>
      cases carried
      simp only [toJson, fieldMembers, FloatFree, MembersFloatFree] at plain
      exact plain.2.2.2.1
  | submodelAdded ids | submodelRemoved ids | elementValueChanged ids path value => cases carried

theorem floatFree_value {event : Event} {value : Value} (plain : event.toJson.FloatFree)
    (carried : event.value? = some value) : value.val.FloatFree := by
  cases event with
  | elementValueChanged ids path own =>
      cases carried
      simp only [toJson, fieldMembers, FloatFree, MembersFloatFree] at plain
      exact plain.2.2.2.1
  | submodelAdded ids | submodelRemoved ids | elementAdded ids path element
  | elementRemoved ids path element | elementUpdated ids path element => cases carried

/-- The events of elements are those with a path. -/
theorem isSome_path? (event : Event) : event.path?.isSome = event.kind.isElementScoped := by
  cases event <;> rfl

section Two

variable {event other : Event}

theorem path?_map_eq_iff (kind : event.kind = other.kind) :
    event.path?.map Path.normalize = other.path?.map Path.normalize ↔
      (event.kind.isElementScoped = true →
        Path.normalize (event.path?.getD "") = Path.normalize (other.path?.getD "")) := by
  have present := event.isSome_path?
  have otherPresent := other.isSome_path?
  rw [← kind, ← present] at otherPresent
  rw [← present]
  cases own : event.path? <;> cases others : other.path? <;>
    simp [own, others] at otherPresent ⊢

/-- The payloads of events of one kind and one shell tell the submodel, the element without its
value, or the value. -/
theorem payload_eq_iff (kind : event.kind = other.kind) (shell : event.ids.shell = other.ids.shell)
    (plain : event.toJson.FloatFree) (otherPlain : other.toJson.FloatFree) :
    event.payload = other.payload ↔
      (event.kind.isElementScoped = false → event.ids.submodel = other.ids.submodel) ∧
        event.element?.map Element.redacted = other.element?.map Element.redacted ∧
        event.value? = other.value? := by
  cases event with
  | submodelAdded ids | submodelRemoved ids =>
      cases other <;> cases kind
      simp only [Event.ids] at shell
      simp [payload, Event.kind, EventKind.isElementScoped, element?, value?, Event.ids, shell,
        utf8_combinedMessage_right_inj]
  | elementAdded ids path element | elementRemoved ids path element
  | elementUpdated ids path element =>
      cases other <;> cases kind
      simp [payload, Event.kind, EventKind.isElementScoped, element?, value?,
        Element.redacted_bytes_inj (floatFree_element plain rfl) (floatFree_element otherPlain rfl)]
  | elementValueChanged ids path value =>
      cases other <;> cases kind
      simp [payload, Event.kind, EventKind.isElementScoped, element?, value?,
        Value.bytes_inj (floatFree_value plain rfl) (floatFree_value otherPlain rfl)]

/-- Topic and payload together tell of an event its kind, its repository, its shell and submodel,
the normal form of its path, and its element without the value or its value.  The payload alone
does not tell a shell from a submodel where one of them holds a comma. -/
theorem topic_payload_eq_iff (scheme : TopicScheme)
    (repository : '/' ∉ (scheme.repositoryOr event.ids.repository).toList)
    (otherRepository : '/' ∉ (scheme.repositoryOr other.ids.repository).toList)
    (plain : event.toJson.FloatFree) (otherPlain : other.toJson.FloatFree) :
    (scheme.forEvent event.kind event.ids event.path? =
          scheme.forEvent other.kind other.ids other.path? ∧
        event.payload = other.payload ↔
      event.kind = other.kind ∧
        scheme.repositoryOr event.ids.repository = scheme.repositoryOr other.ids.repository ∧
        event.ids.shell = other.ids.shell ∧ event.ids.submodel = other.ids.submodel ∧
        event.path?.map Path.normalize = other.path?.map Path.normalize ∧
        event.element?.map Element.redacted = other.element?.map Element.redacted ∧
        event.value? = other.value?) ∧
    ∀ (first second third : String) (named : Option String),
      (submodelAdded ⟨first ++ "," ++ second, third, named⟩).payload =
        (submodelAdded ⟨first, second ++ "," ++ third, named⟩).payload := by
  have topics := scheme.topic_eq_iff (event.path?.getD "") (other.path?.getD "") repository
    otherRepository (TopicKind.ofEvent_ne_shellCreated event.kind)
    (TopicKind.ofEvent_ne_shellCreated other.kind)
  rw [TopicKind.isElement_ofEvent] at topics
  constructor
  · constructor
    · rintro ⟨sameTopic, samePayload⟩
      obtain ⟨sameKind, repositories, shell, ofElement⟩ := topics.mp sameTopic
      have kind := TopicKind.ofEvent_injective sameKind
      obtain ⟨ofSubmodel, elements, values⟩ :=
        (payload_eq_iff kind shell plain otherPlain).mp samePayload
      refine ⟨kind, repositories, shell, ?_, ?_, elements, values⟩
      · cases addressed : event.kind.isElementScoped with
        | true => exact (ofElement addressed).1
        | false => exact ofSubmodel addressed
      · rw [path?_map_eq_iff kind]
        intro addressed
        exact (ofElement addressed).2
    · rintro ⟨kind, repositories, shell, submodel, paths, elements, values⟩
      constructor
      · refine topics.mpr ⟨congrArg TopicKind.ofEvent kind, repositories, shell, ?_⟩
        intro addressed
        exact ⟨submodel, (path?_map_eq_iff kind).mp paths addressed⟩
      · rw [payload_eq_iff kind shell plain otherPlain]
        exact ⟨fun _ => submodel, elements, values⟩
  · intro first second third named
    simp only [payload, combinedMessage, String.append_assoc]

/-- Two submodels with the same payload are told apart by the shells in their topics. -/
theorem topic_payload_eq_iff_of_commas :
    let event := submodelAdded ⟨"a,b", "c", none⟩
    let other := submodelAdded ⟨"a", "b,c", some "plant"⟩
    '/' ∉ (TopicScheme.repositoryOr ⟨"plant"⟩ event.ids.repository).toList ∧
      '/' ∉ (TopicScheme.repositoryOr ⟨"plant"⟩ other.ids.repository).toList ∧
      event.toJson.FloatFree ∧ other.toJson.FloatFree ∧ event.payload = other.payload ∧
      TopicScheme.forEvent ⟨"plant"⟩ event.kind event.ids event.path? ≠
        TopicScheme.forEvent ⟨"plant"⟩ other.kind other.ids other.path? := by
  intro event other
  have repository : '/' ∉ (TopicScheme.repositoryOr ⟨"plant"⟩ event.ids.repository).toList := by
    decide
  have otherRepository :
      '/' ∉ (TopicScheme.repositoryOr ⟨"plant"⟩ other.ids.repository).toList := by decide
  have plain : event.toJson.FloatFree := ⟨trivial, ⟨trivial, trivial, trivial⟩, trivial⟩
  have otherPlain : other.toJson.FloatFree :=
    ⟨trivial, ⟨trivial, trivial, trivial, trivial⟩, trivial⟩
  obtain ⟨tells, ambiguous⟩ :=
    topic_payload_eq_iff ⟨"plant"⟩ repository otherRepository plain otherPlain
  have payloads : event.payload = other.payload := ambiguous "a" "b" "c" none
  refine ⟨repository, otherRepository, plain, otherPlain, payloads, ?_⟩
  intro topics
  obtain ⟨_, _, shell, _⟩ := tells.mp ⟨topics, payloads⟩
  exact absurd shell (by decide)

end Two

end Event

end ShellBridge
