import ShellBridge.Proofs.Event.Redaction
import ShellBridge.Proofs.Json.Rereading

/-!
Elements that were built up attribute by attribute, in the payloads of structural changes.

The attributes stand behind the short identifier and the value in one object.  So an attribute with
the name of one of these two is read in its place, and redaction does not reach it.
-/

namespace ShellBridge

open Json

theorem Json.mem_insertMember {key : String} {value : Json} {members : List (String × Json)}
    {member : String × Json} (membership : member ∈ insertMember key value members) :
    member = (key, value) ∨ member ∈ members := by
  induction members with
  | nil => exact .inl (List.mem_singleton.mp membership)
  | cons first rest inductionHypothesis =>
      rcases first with ⟨other, former⟩
      rw [insertMember] at membership
      split_ifs at membership
      · exact (List.mem_cons.mp membership).imp_right (List.mem_cons_of_mem _)
      · exact List.mem_cons.mp membership
      · rcases List.mem_cons.mp membership with rfl | behind
        · exact .inr List.mem_cons_self
        · exact (inductionHypothesis behind).imp_right (List.mem_cons_of_mem _)

namespace Element

/-- The element with more attributes, put in one after the other. -/
def withAttributes (element : Element) (attributes : List (String × Value)) : Element :=
  attributes.foldl (fun element (key, value) => element.withAttribute key value) element

theorem withAttributes_cons (element : Element) (key : String) (value : Value)
    (attributes : List (String × Value)) :
    element.withAttributes ((key, value) :: attributes) =
      (element.withAttribute key value).withAttributes attributes := rfl

variable {element : Element} {attributes : List (String × Value)}

theorem idShort_withAttributes : (element.withAttributes attributes).idShort = element.idShort := by
  induction attributes generalizing element with
  | nil => rfl
  | cons entry attributes inductionHypothesis => exact inductionHypothesis

/-- Of attributes with one name the last one counts. -/
theorem lookup_withAttributes (key : String) :
    (element.withAttributes attributes).attributes.val.lookup key =
      ((attributes.reverse.lookup key).map fun value => value.val).or
        (element.attributes.val.lookup key) := by
  induction attributes generalizing element with
  | nil => rfl
  | cons entry attributes inductionHypothesis =>
      rcases entry with ⟨other, value⟩
      have inserted := Members.lookup_insert element.attributes key other value
      have stored : (element.withAttribute other value).attributes =
          element.attributes.insert other value := rfl
      rw [withAttributes_cons, inductionHypothesis, stored, inserted, List.reverse_cons,
        List.lookup_append, Option.map_or, Option.or_assoc]
      by_cases same : key = other
      · subst same
        simp
      · have different : (key == other) = false := beq_eq_false_iff_ne.mpr same
        simp [same, different, List.lookup_cons]

theorem mem_withAttributes {member : String × Json}
    (membership : member ∈ (element.withAttributes attributes).attributes.val) :
    member ∈ element.attributes.val ∨ ∃ entry ∈ attributes, member = (entry.1, entry.2.val) := by
  induction attributes generalizing element with
  | nil => exact .inl membership
  | cons entry attributes inductionHypothesis =>
      rcases inductionHypothesis membership with former | ⟨other, behind, same⟩
      · rcases mem_insertMember former with rfl | former
        · exact .inr ⟨entry, List.mem_cons_self, rfl⟩
        · exact .inl former
      · exact .inr ⟨other, List.mem_cons_of_mem entry behind, same⟩

/-- Every attribute of a new element is one that it was given. -/
theorem forall_built (idShort : String) (value : Option Value) {P : Json → Prop}
    (all : ∀ entry ∈ attributes, P entry.2.val) :
    ∀ member ∈ ((new idShort value).withAttributes attributes).attributes.val, P member.2 := by
  intro member membership
  rcases mem_withAttributes membership with fresh | ⟨entry, inside, rfl⟩
  · cases fresh
  · exact all entry inside

/-- What is read of an element in writing: its attributes, and only where there is none of the name
the short identifier and `null` for the value. -/
theorem lookup_redacted (key : String) :
    (Members.ofList (rereadMembers element.redacted.written)).val.lookup key =
      ((element.attributes.val.lookup key).map reread).or
        (List.lookup key [("value", .null), ("idShort", .string element.idShort)]) := by
  have attributes : ((rereadMembers element.attributes.val).reverse.lookup key).map normalize =
      (element.attributes.val.lookup key).map reread := by
    rw [← lookup_normalizeMembers, ← lookup_rereadMembers, normalizeMembers_of_canonical _
      (membersCanonical_rereadMembers _ element.attributes.property)]
  have opened : (rereadMembers element.redacted.written).reverse =
      (rereadMembers element.attributes.val).reverse ++
        [("value", .null), ("idShort", .string element.idShort)] := by
    simp [written, redacted, valueJson, rereadMembers, reread]
  rw [Members.lookup_ofList, opened, List.lookup_append, Option.map_or, attributes]
  congr 1
  simp only [lookup_cons_eq, List.lookup_nil]
  split_ifs <;> rfl

theorem lookup_built (idShort : String) (value : Option Value) (key : String) :
    (Members.ofList (rereadMembers
        ((new idShort value).withAttributes attributes).redacted.written)).val.lookup key =
      ((attributes.reverse.lookup key).map fun last => last.val.reread).or
        (List.lookup key [("value", .null), ("idShort", .string idShort)]) := by
  have fresh : (new idShort value).attributes.val.lookup key = none := rfl
  rw [lookup_redacted, lookup_withAttributes, fresh, Option.or_none, Option.map_map,
    idShort_withAttributes]
  rfl

end Element

namespace Event

/-- Read as a document, the payload has `null` for the value and this short identifier. -/
def Conceals (event : Event) (idShort : String) : Prop :=
  ∃ members, Spells event.payload (.object members) ∧
    (Members.ofList members).val.lookup "value" = some .null ∧
    (Members.ofList members).val.lookup "idShort" = some (.string idShort)

theorem spells_payload {event : Event} {element : Element}
    (structural : event.kind ∈ EventKind.structural) (carried : event.element? = some element)
    (finite : MembersFinite element.attributes.val) :
    Spells event.payload (.object (rereadMembers element.redacted.written)) := by
  obtain ⟨path, element', _, given, payload⟩ := exists_element_of_structural structural
  rw [carried] at given
  cases given
  rw [payload]
  exact spells_reread (j := element.redacted.toJson) ⟨trivial, trivial, finite⟩

/-- A value that no other one is reread as is found exactly if the last attribute, if there is one,
is this value. -/
theorem elim_reread_iff (fixed : Value) (same : ∀ j : Json, j.reread = fixed.val ↔ j = fixed.val)
    (last? : Option Value) :
    last?.elim fixed.val (fun last => last.val.reread) = fixed.val ↔
      ∀ last, last? = some last → last = fixed := by
  cases last? with
  | none => exact iff_of_true rfl nofun
  | some last =>
      constructor
      · intro found other given
        cases given
        exact Subtype.ext ((same last.val).mp found)
      · intro all
        rw [all last rfl]
        exact (same fixed.val).mpr rfl

section Built

variable {idShort : String} {value : Option Value} {attributes : List (String × Value)}
  {event : Event} (finite : ∀ entry ∈ attributes, entry.2.val.Finite)
  (structural : event.kind ∈ EventKind.structural)
  (carried : event.element? = some ((Element.new idShort value).withAttributes attributes))
include finite structural carried

theorem exists_members :
    ∃ members, Spells event.payload (.object members) ∧
      ((∀ entry ∈ attributes, entry.2.val.depth < depthLimit) →
        (Json.object members).depth ≤ depthLimit) ∧
      (Members.ofList members).val.lookup "value" =
        some ((attributes.reverse.lookup "value").elim .null fun last => last.val.reread) ∧
      (Members.ofList members).val.lookup "idShort" =
        some ((attributes.reverse.lookup "idShort").elim (.string idShort) fun last =>
          last.val.reread) := by
  have found : ∀ key fixed, List.lookup key
        [("value", .null), ("idShort", Json.string idShort)] = some fixed →
      (Members.ofList (rereadMembers ((Element.new idShort value).withAttributes
        attributes).redacted.written)).val.lookup key =
          some ((attributes.reverse.lookup key).elim fixed fun last => last.val.reread) := by
    intro key fixed given
    rw [Element.lookup_built, given]
    cases attributes.reverse.lookup key <;> rfl
  have stored := membersFinite_iff.mpr (Element.forall_built idShort value finite)
  refine ⟨_, spells_payload structural carried stored, ?_, found "value" .null rfl,
    found "idShort" (.string idShort) rfl⟩
  intro shallow
  have inside : membersDepth ((Element.new idShort value).withAttributes
      attributes).attributes.val ≤ depthLimit - 1 :=
    membersDepth_le_iff.mpr (Element.forall_built _ _ (P := fun j => j.depth ≤ depthLimit - 1)
      fun entry membership => Nat.le_sub_one_of_lt (shallow entry membership))
  have outside : membersDepth ((Element.new idShort value).withAttributes
      attributes).redacted.written ≤ depthLimit - 1 := by
    simpa [Element.written, Element.redacted, Element.valueJson, membersDepth, depth] using inside
  rw [depth, membersDepth_reread]
  exact Nat.add_le_of_le_sub (by decide) outside

theorem conceals_iff :
    event.Conceals idShort ↔
      (∀ last, attributes.reverse.lookup "value" = some last → last = .null) ∧
      ∀ last, attributes.reverse.lookup "idShort" = some last → last = .string idShort := by
  obtain ⟨members, spells, _, foundValue, foundIdShort⟩ :=
    exists_members finite structural carried
  rw [← elim_reread_iff .null (fun _ => reread_eq_null_iff),
    ← elim_reread_iff (.string idShort) (fun _ => reread_eq_string_iff)]
  constructor
  · rintro ⟨others, spells', readValue, readIdShort⟩
    cases spells'.unique spells
    exact ⟨Option.some.inj (foundValue.symm.trans readValue),
      Option.some.inj (foundIdShort.symm.trans readIdShort)⟩
  · rintro ⟨isNull, isIdShort⟩
    exact ⟨members, spells, foundValue.trans (congrArg some isNull),
      foundIdShort.trans (congrArg some isIdShort)⟩

end Built

/-- The payload of a structural change of an element is the text of an object, and reads as one
unless the attributes nest too deep.  It has for the value and for the short identifier the last
attribute of that name, and only without one `null` and the short identifier of the element.  So the
value is concealed exactly if the last attribute with the name `value`, if there is one, is `null`,
and likewise for the short identifier. -/
theorem payload_of_attributes (idShort : String) (value : Option Value)
    (attributes : List (String × Value)) (finite : ∀ entry ∈ attributes, entry.2.val.Finite)
    (event : Event) (structural : event.kind ∈ EventKind.structural)
    (carried : event.element? = some ((Element.new idShort value).withAttributes attributes)) :
    (∃ members, Spells event.payload (.object members) ∧
      ((∀ entry ∈ attributes, entry.2.val.depth < depthLimit) →
        Value.parse event.payload = .ok (Members.ofList members).toValue) ∧
      (Members.ofList members).val.lookup "value" =
        some ((attributes.reverse.lookup "value").elim .null fun last => last.val.reread) ∧
      (Members.ofList members).val.lookup "idShort" =
        some ((attributes.reverse.lookup "idShort").elim (.string idShort) fun last =>
          last.val.reread)) ∧
    (event.Conceals idShort ↔
      (∀ last, attributes.reverse.lookup "value" = some last → last = .null) ∧
      ∀ last, attributes.reverse.lookup "idShort" = some last → last = .string idShort) := by
  obtain ⟨members, spells, fits, found⟩ := exists_members finite structural carried
  refine ⟨⟨members, spells, ?_, found⟩, conceals_iff finite structural carried⟩
  intro shallow
  exact spells.parse_value (fits shallow)

/-- A change of an element that was given these attributes. -/
def updated (attributes : List (String × Value)) : Event :=
  .elementUpdated ⟨"s", "m", none⟩ "p"
    ((Element.new "e" (some (.string "secret"))).withAttributes attributes)

/-- Attributes of other names do no harm, floats among them, and neither does `null` for the
value. -/
theorem payload_of_attributes_of_null :
    (updated [("factor", ⟨.number (.float ⟨false, 0x18000000000000, -52⟩), trivial⟩),
      ("value", .null)]).Conceals "e" := by
  refine (payload_of_attributes "e" (some (.string "secret")) _ ?_ (updated _) (by decide)
    rfl).2.mpr ?_
  · intro entry membership
    rcases List.mem_pair.mp membership with rfl | rfl
    · exact ⟨by decide, by decide, by decide⟩
    · trivial
  · constructor
    · intro last found
      cases found
      rfl
    · intro last found
      cases found

/-- An attribute with the name of the value is published and read in its place, and so is one with
the name of the short identifier. -/
theorem not_conceals_of_names :
    (¬ ∀ (idShort : String) (value : Option Value) (attributes : List (String × Value))
        (event : Event), (∀ entry ∈ attributes, entry.2.val.Finite) →
        event.kind ∈ EventKind.structural →
        event.element? = some ((Element.new idShort value).withAttributes attributes) →
        event.Conceals idShort) ∧
      (updated [("value", .ofInteger ⟨5, by decide, by decide⟩)]).payload =
        utf8 "\x7b\"idShort\":\"e\",\"value\":null,\"value\":5\x7d" ∧
      ¬ (updated [("value", .ofInteger ⟨5, by decide, by decide⟩)]).Conceals "e" ∧
      ¬ (updated [("idShort", .string "f")]).Conceals "e" := by
  have alone : ∀ (name : String) (last : Value), last.val.Finite →
      ∀ entry ∈ [(name, last)], entry.2.val.Finite := by
    intro name last finite entry membership
    rw [List.mem_singleton.mp membership]
    exact finite
  have five := alone "value" (.ofInteger ⟨5, by decide, by decide⟩) trivial
  have leaks : ¬ (updated [("value", .ofInteger ⟨5, by decide, by decide⟩)]).Conceals "e" := by
    intro conceals
    have last := ((conceals_iff five (by decide) rfl).mp conceals).1 _ rfl
    cases last
  have renames : ¬ (updated [("idShort", .string "f")]).Conceals "e" := by
    intro conceals
    have last := ((conceals_iff (alone "idShort" (.string "f") trivial) (by decide) rfl).mp
      conceals).2 _ rfl
    exact absurd last (by decide)
  refine ⟨?_, by decide +kernel, leaks, renames⟩
  intro conceals
  exact leaks (conceals _ _ _ _ five (by decide) rfl)

end Event

end ShellBridge
