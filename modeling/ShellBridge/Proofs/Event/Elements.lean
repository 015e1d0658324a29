import ShellBridge.Element
import ShellBridge.Proofs.Json.Parts

/-!
Elements as documents.

The attributes of an element that was read are the members beside `idShort` and `value`, in normal
form, and so they never hold one of these two.  Without its value the element is written as the
members that were read, with `null` for the value, and reads back as these.
-/

namespace ShellBridge.Element

open Json

/-- The key is neither that of the short identifier nor that of the value. -/
def isAttribute (key : String) : Bool :=
  key != "idShort" && key != "value"

/-- What a member of an accepted element is. -/
theorem fieldsOfMembers_cons {draft last : Draft} {key : String} {j : Json}
    {rest : List (String × Json)} (read : fieldsOfMembers draft ((key, j) :: rest) = .ok last) :
    (key = "idShort" ∧ draft.idShort = none ∧ ∃ s, j = .string s ∧
      fieldsOfMembers { draft with idShort := some s } rest = .ok last) ∨
    (key = "value" ∧ draft.value = none ∧ ∃ value, (Format.optional .value).ofJson j = .ok value ∧
      fieldsOfMembers { draft with value := some value } rest = .ok last) ∨
    (isAttribute key = true ∧ fieldsOfMembers
      { draft with attributes := draft.attributes.insert key (.ofJson j) } rest = .ok last) := by
  rw [fieldsOfMembers] at read
  split_ifs at read with isId again isValue again'
  · obtain ⟨s, text, read⟩ := bind_eq_ok read
    exact .inl ⟨isId, by simpa using again, s, Format.string_of_ofJson text, read⟩
  · obtain ⟨value, given, read⟩ := bind_eq_ok read
    exact .inr (.inl ⟨isValue, by simpa using again', value, given, read⟩)
  · refine .inr (.inr ⟨?_, read⟩)
    simp [isAttribute, isId, isValue]

theorem attributes_of_fieldsOfMembers {draft last : Draft} {members : List (String × Json)}
    (read : fieldsOfMembers draft members = .ok last) :
    last.attributes =
      draft.attributes.insertAll (members.filter fun member => isAttribute member.1) := by
  induction members generalizing draft with
  | nil =>
      cases read
      rfl
  | cons member rest inductionHypothesis =>
      rcases member with ⟨key, j⟩
      rcases fieldsOfMembers_cons read with
        ⟨rfl, _, s, _, others⟩ | ⟨rfl, _, value, _, others⟩ | ⟨isOther, others⟩
      · have further := inductionHypothesis others
        exact further
      · have further := inductionHypothesis others
        exact further
      · have kept : (((key, j) :: rest).filter fun member => isAttribute member.1) =
            (key, j) :: rest.filter fun member => isAttribute member.1 := by
          simp [isOther]
        rw [inductionHypothesis others, kept]
        rfl

theorem idShort_of_fieldsOfMembers {draft last : Draft} {members : List (String × Json)}
    (read : fieldsOfMembers draft members = .ok last) :
    ((members.filter fun member => member.1 == "idShort") = [] ∧
        last.idShort = draft.idShort) ∨
      (draft.idShort = none ∧ ∃ s, (members.filter fun member => member.1 == "idShort") =
        [("idShort", .string s)] ∧ last.idShort = some s) := by
  induction members generalizing draft with
  | nil =>
      cases read
      exact .inl ⟨rfl, rfl⟩
  | cons member rest inductionHypothesis =>
      rcases member with ⟨key, j⟩
      rcases fieldsOfMembers_cons read with
        ⟨rfl, vacant, s, rfl, others⟩ | ⟨rfl, _, value, _, others⟩ | ⟨isOther, others⟩
      · rcases inductionHypothesis others with ⟨noOther, same⟩ | ⟨impossible, _⟩
        · refine .inr ⟨vacant, s, ?_, same⟩
          simp [noOther]
        · cases impossible
      · have further := inductionHypothesis others
        exact further
      · have different : key ≠ "idShort" := by
          rintro rfl
          cases isOther
        have further := inductionHypothesis others
        simpa [different] using further

/-- Reading the members without the value gives the same element, without its value. -/
theorem fieldsOfMembers_redacted {draft last : Draft} {members : List (String × Json)}
    (read : fieldsOfMembers draft members = .ok last) :
    fieldsOfMembers { draft with value := none }
        (members.filter fun member => member.1 != "value") =
      .ok { last with value := none } := by
  induction members generalizing draft with
  | nil =>
      cases read
      rfl
  | cons member rest inductionHypothesis =>
      rcases member with ⟨key, j⟩
      rcases fieldsOfMembers_cons read with
        ⟨rfl, vacant, s, rfl, others⟩ | ⟨rfl, _, value, _, others⟩ | ⟨isOther, others⟩
      · have further := inductionHypothesis others
        have kept : ((("idShort", .string s) :: rest).filter fun member => member.1 != "value") =
            ("idShort", .string s) :: rest.filter fun member => member.1 != "value" := rfl
        rw [kept, fieldsOfMembers, if_pos rfl]
        simp only [vacant]
        exact further
      · have further := inductionHypothesis others
        exact further
      · have different : key ≠ "idShort" ∧ key ≠ "value" := by simpa [isAttribute] using isOther
        have further := inductionHypothesis others
        rw [List.filter_cons_of_pos (by simpa using different.2), fieldsOfMembers,
          if_neg different.1, if_neg different.2]
        exact further

/-! ### The element of a document -/

section Accepted

variable {members : List (String × Json)} {element : Element}

theorem exists_draft_of_ofJson (accepted : ofJson (.object members) = .ok element) :
    ∃ draft, fieldsOfMembers .empty members = .ok draft ∧
      draft.idShort = some element.idShort ∧ draft.value.join = element.value ∧
      draft.attributes = element.attributes := by
  obtain ⟨draft, read, finished⟩ := bind_eq_ok accepted
  refine ⟨draft, read, ?_⟩
  rw [Draft.finish] at finished
  cases given : draft.idShort with
  | none =>
      rw [given] at finished
      cases finished
  | some s =>
      rw [given] at finished
      cases finished
      exact ⟨rfl, rfl, rfl⟩

/-- The attributes are the members beside the short identifier and the value. -/
theorem attributes_of_ofJson (accepted : ofJson (.object members) = .ok element) :
    element.attributes = .ofList (members.filter fun member => isAttribute member.1) := by
  obtain ⟨draft, read, _, _, same⟩ := exists_draft_of_ofJson accepted
  rw [← same, attributes_of_fieldsOfMembers read]
  exact Members.insertAll_empty _

theorem idShort_of_ofJson (accepted : ofJson (.object members) = .ok element) :
    only? "idShort" members = some (.string element.idShort) := by
  obtain ⟨draft, read, given, _, _⟩ := exists_draft_of_ofJson accepted
  rcases idShort_of_fieldsOfMembers read with ⟨_, same⟩ | ⟨_, s, taken, same⟩
  · rw [given] at same
    cases same
  · rw [given] at same
    cases same
    exact only?_of_filter taken

theorem lookup_attributes (accepted : ofJson (.object members) = .ok element) (key : String) :
    element.attributes.val.lookup key =
      if isAttribute key then (members.reverse.lookup key).map normalize else none := by
  rw [attributes_of_ofJson accepted, Members.lookup_ofList, ← List.filter_reverse, lookup_filter]
  split <;> rfl

/-- The document of an element without its value. -/
def withoutValue : Json → Json
  | .object members => .object (members.filter fun member => member.1 != "value")
  | j => j

/-- Without the value of the document, the element without its value is read. -/
theorem ofJson_withoutValue {j : Json} (accepted : ofJson j = .ok element) :
    ofJson (withoutValue j) = .ok element.redacted := by
  cases j with
  | object members =>
      obtain ⟨draft, read, given, _, same⟩ := exists_draft_of_ofJson accepted
      have redacted := fieldsOfMembers_redacted read
      have opened : ofJson (withoutValue (.object members)) =
          fieldsOfMembers .empty (members.filter fun member => member.1 != "value") >>=
            Draft.finish := rfl
      have begins : { Draft.empty with value := none } = Draft.empty := rfl
      rw [begins] at redacted
      rw [opened, redacted]
      show Draft.finish { draft with value := none } = _
      simp only [Draft.finish, given, same, Element.redacted]
      rfl
  | null | bool b | number n | string s | array items => cases accepted

/-! ### The element in writing -/

/-- The members of an element in writing. -/
def written (element : Element) : List (String × Json) :=
  ("idShort", .string element.idShort) :: ("value", element.valueJson) :: element.attributes.val

/-- Every key is written once. -/
theorem nodup_keys_written (accepted : ofJson (.object members) = .ok element) :
    (element.redacted.written.map Prod.fst).Nodup := by
  have absent : ∀ key, isAttribute key = false →
      key ∉ element.attributes.val.map Prod.fst := by
    intro key reserved membership
    obtain ⟨member, present, same⟩ := List.mem_map.mp membership
    have noAttribute := lookup_attributes accepted key
    rw [reserved] at noAttribute
    have different := List.lookup_eq_none_iff.mp noAttribute member present
    rw [same] at different
    simp at different
  refine List.nodup_cons.mpr ⟨?_, List.nodup_cons.mpr ⟨absent "value" rfl, ?_⟩⟩
  · intro membership
    rcases List.mem_cons.mp membership with impossible | isOther
    · exact absurd impossible (show "idShort" ≠ "value" by decide)
    · exact absent "idShort" rfl isOther
  · exact nodup_keys_of_canonical element.attributes.property

/-- Without its value the element is written as the members that were read, with `null` for the
value; of members with one key the last one counts. -/
theorem ofList_written (accepted : ofJson (.object members) = .ok element) :
    Members.ofList element.redacted.written = (Members.ofList members).insert "value" .null := by
  apply Members.ext
  intro key
  have attributes : (element.attributes.val.reverse.lookup key).map normalize =
      element.attributes.val.lookup key := by
    rw [← lookup_normalizeMembers,
      normalizeMembers_of_canonical _ element.attributes.property]
  have identifier := lookup_reverse_of_only? (idShort_of_ofJson accepted)
  have opened : element.redacted.written.reverse =
      element.attributes.val.reverse ++
        [("value", Json.null), ("idShort", .string element.idShort)] := by
    simp [written, redacted, valueJson]
  rw [Members.lookup_ofList, opened, List.lookup_append, Option.map_or, attributes,
    lookup_attributes accepted, Members.lookup_insert, Members.lookup_ofList, lookup_cons_eq,
    lookup_cons_eq]
  by_cases isValue : key = "value"
  · subst isValue
    rfl
  · by_cases isId : key = "idShort"
    · subst isId
      rw [identifier]
      rfl
    · have isOther : isAttribute key = true := by simp [isAttribute, isValue, isId]
      simp [isOther, isValue, isId]

theorem depth_written_le (accepted : ofJson (.object members) = .ok element) :
    element.redacted.toJson.depth ≤ (Json.object members).depth := by
  have inside : membersDepth element.attributes.val ≤ membersDepth members := by
    rw [attributes_of_ofJson accepted]
    exact Nat.le_trans (membersDepth_normalizeMembers_le _) (membersDepth_filter_le _ members)
  simpa [toJson, depth, membersDepth, redacted, valueJson] using inside

theorem floatFree_written (accepted : ofJson (.object members) = .ok element)
    (plain : (Json.object members).FloatFree) : element.redacted.toJson.FloatFree := by
  refine ⟨trivial, trivial, ?_⟩
  show MembersFloatFree element.attributes.val
  rw [attributes_of_ofJson accepted]
  exact membersFloatFree_normalizeMembers _ (membersFloatFree_filter _ plain)

/-- Without its value the element reads back as the members that were read, with `null` for the
value. -/
theorem parse_redacted (accepted : ofJson (.object members) = .ok element)
    (plain : (Json.object members).FloatFree) (fits : (Json.object members).depth ≤ depthLimit) :
    Value.parse element.redacted.toJson.bytes =
      .ok ((Members.ofList members).insert "value" .null).toValue := by
  have fits' := Nat.le_trans (depth_written_le accepted) fits
  rw [Value.parse_bytes (floatFree_written accepted plain) fits', ← ofList_written accepted]
  rfl

end Accepted

end ShellBridge.Element
