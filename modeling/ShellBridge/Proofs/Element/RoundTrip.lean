import ShellBridge.Proofs.Event.Elements
import ShellBridge.Proofs.Json.Full

/-!
Elements in a round trip.

An element is read member by member, like a record, except that members of any key are kept.  What
was read is well formed: a value that is there is not `null`, and no attribute takes the place of
the short identifier or of the value.  Well-formed elements are those that read back.
-/

namespace ShellBridge.Element

open Json Scan

/-! ### Reading elements and documents -/

/-- The room that a member needs: only the short identifier cannot nest. -/
def memberNeed (member : String × Json) : Nat :=
  if member.1 = "idShort" then 0 else member.2.depth

def need : Json → Nat
  | .object members => greatest memberNeed members + 1
  | _ => 0

theorem optional_value_agrees : (Format.optional .value).Agrees depth := by
  have same : Format.optionalNeed depth = depth := by
    funext j
    rw [Format.optionalNeed]
    split
    · next null =>
        subst null
        rfl
    · rfl
  have agrees := Format.optional_agrees Format.value_agrees
  rwa [same] at agrees

/-- Reading an element keeps step with reading the members of the object, and stops in front of the
closing bracket. -/
theorem readFields_toOption {room budget : Nat} {first : Bool} {input rest : Bytes}
    {members : List (String × Json)}
    (read : readMembers (document room) budget first input = .ok (members, rest)) (other : Nat) :
    ∃ tail, tail.drop 1 = rest ∧ ∀ draft,
      (readFields other budget first draft input).toOption =
        (if greatest memberNeed members ≤ other then
          (fieldsOfMembers draft members).toOption else none).map (·, tail) := by
  induction budget generalizing first input members with
  | zero => cases read
  | succ budget inductionHypothesis =>
      rcases readMembers_cases read with
        ⟨next, turn, rfl, rfl⟩ |
        ⟨key, next, start, j, after, others, turn, separator, one, loop, rfl⟩
      · refine ⟨next, rfl, ?_⟩
        intro draft
        rw [readFields, turn]
        rfl
      · obtain ⟨tail, dropped, further⟩ := inductionHypothesis loop
        refine ⟨tail, dropped, ?_⟩
        intro draft
        rw [readFields, turn, greatest_cons, memberNeed, fieldsOfMembers]
        simp only [toOption_bind, toOption_ok, Option.bind_some]
        by_cases isId : key = "idShort"
        · have text := (Format.text_agrees room other).toOption_eq one
          by_cases again : draft.idShort.isSome
          · simp [isId, again, toOption_error]
          · simp only [if_pos isId, if_neg again, toOption_bind, separator, toOption_ok,
              Option.bind_some, text, Format.accept, Nat.zero_le, if_true, Nat.zero_max]
            cases Format.text.ofJson j with
            | error cause => simp [toOption_error]
            | ok s => simp [toOption_ok, further]
        · by_cases isValue : key = "value"
          · have value := (optional_value_agrees room other).toOption_eq one
            by_cases again : draft.value.isSome
            · simp [isValue, again, toOption_error]
            · simp only [if_neg isId, if_pos isValue, if_neg again, toOption_bind, separator,
                toOption_ok, Option.bind_some, value, Format.accept]
              cases (Format.optional .value).ofJson j with
              | error cause => simp [toOption_error]
              | ok v =>
                  simp only [Nat.max_le]
                  by_cases fits : j.depth ≤ other <;> simp [fits, toOption_ok, further]
          · have value : (Value.reader other start).toOption = _ :=
              (Format.value_agrees room other).toOption_eq one
            simp only [if_neg isId, if_neg isValue, toOption_bind, separator, toOption_ok,
              Option.bind_some, value, Format.accept]
            simp only [Nat.max_le]
            by_cases fits : j.depth ≤ other <;>
              simp [fits, toOption_ok, further, Format.value]

/-- Elements agree with the reader of documents. -/
theorem agrees : format.Agrees need := by
  intro room other
  constructor
  intro input rest j document
  obtain ⟨nested, opens, inside⟩ := document_opens document
  obtain ⟨b, tail, skipped, opener⟩ := opens.starts
  show (read other input).toOption = _
  cases j with
  | object members =>
      cases opens with
      | @object tail _ value _ skipped given loop =>
          obtain ⟨inner, rfl⟩ := inside value given
          cases other with
          | zero => simp [read, skipped, Format.accept, need, toOption_error]
          | succ other =>
              obtain ⟨last, dropped, further⟩ := readFields_toOption loop other
              rw [List.drop_one] at dropped
              have same : format.ofJson (.object members) =
                  fieldsOfMembers .empty members >>= Draft.finish := rfl
              simp only [read, skipped, toOption_bind, further, Format.accept, need, same,
                Nat.add_le_add_iff_right]
              by_cases fits : greatest memberNeed members ≤ other
              · cases fieldsOfMembers .empty members with
                | error cause => simp [fits, toOption_error]
                | ok draft =>
                    cases finished : draft.finish <;>
                      simp [fits, finished, dropped, toOption_ok, toOption_error]
              · simp [fits]
  | null | bool b' | number n | string s | array items =>
      have different : b ≠ 0x7B := by
        rintro rfl
        simp [IsOpener] at opener
      rw [Format.accept_of_error rfl]
      simp [read, skipped, different, toOption_error]

/-- Where the fields of an element are read there stand members. -/
theorem exists_members_of_readFields {room budget : Nat} {first : Bool} {draft last : Draft}
    {input next : Bytes}
    (fields : readFields room budget first draft input = .ok (last, next)) :
    ∃ members, readMembers (document room) budget first input = .ok (members, next.drop 1) := by
  induction budget generalizing first draft input with
  | zero => cases fields
  | succ budget inductionHypothesis =>
      obtain ⟨⟨key?, behind⟩, turn, fields⟩ := bind_eq_ok fields
      cases key? with
      | none =>
          cases fields
          refine ⟨[], ?_⟩
          rw [readMembers, turn]
          rfl
      | some key =>
          -- Whatever the key, a document stands behind it, and further members behind that.
          have member : ∀ {start after : Bytes} {j : Json} {draft : Draft},
              colon behind = .ok start → document room start = .ok (j, after) →
              readFields room budget false draft after = .ok (last, next) →
              ∃ members, readMembers (document room) (budget + 1) first input =
                .ok (members, next.drop 1) := by
            intro start after j draft separator stands fields
            obtain ⟨others, loop⟩ := inductionHypothesis fields
            exact ⟨_, Format.readMembers_member turn separator stands loop⟩
          simp only at fields
          split_ifs at fields
          · obtain ⟨start, separator, fields⟩ := bind_eq_ok fields
            obtain ⟨⟨s, after⟩, one, fields⟩ := bind_eq_ok fields
            obtain ⟨j, stands⟩ := Format.text_full room start after s one
            exact member separator stands fields
          · obtain ⟨start, separator, fields⟩ := bind_eq_ok fields
            obtain ⟨⟨v, after⟩, one, fields⟩ := bind_eq_ok fields
            obtain ⟨j, stands⟩ := Format.optional_full Format.value_full room start after v one
            exact member separator stands fields
          · obtain ⟨start, separator, fields⟩ := bind_eq_ok fields
            obtain ⟨⟨v, after⟩, one, fields⟩ := bind_eq_ok fields
            obtain ⟨j, stands⟩ := Format.value_full room start after v one
            exact member separator stands fields

theorem full : format.Full := by
  intro room input rest element taken
  have opened : read room input = .ok (element, rest) := taken
  rw [read] at opened
  split at opened
  · next tail skipped =>
      cases room with
      | zero => cases opened
      | succ room =>
          obtain ⟨⟨draft, next⟩, fields, opened⟩ := bind_eq_ok opened
          obtain ⟨members, loop⟩ := exists_members_of_readFields fields
          have same : next.drop 1 = rest := by
            cases finished : draft.finish with
            | error cause =>
                simp only [finished] at opened
                cases opened
            | ok element' =>
                simp only [finished] at opened
                cases opened
                rfl
          refine ⟨.object members, ?_⟩
          rw [← document_skipBlanks, skipped, document, readWith_object]
          simp only [loop, same]
          rfl
  · cases opened

/-! ### Well-formed elements -/

/-- A value that is there is not `null`, and no attribute has a key of the element itself. -/
structure WellFormed (element : Element) : Prop where
  value : element.value ≠ some .null
  attributes : ∀ member ∈ element.attributes.val, isAttribute member.1 = true

theorem normalize_ne_null {j : Json} (there : j ≠ .null) : j.normalize ≠ .null := by
  cases j with
  | null => exact absurd rfl there
  | bool b | number n | string s | array items | object members => simp [Json.normalize]

/-- A value is there unless it is `null`. -/
theorem optional_value_cases {j : Json} {value : Option Value}
    (accepted : (Format.optional .value).ofJson j = .ok value) :
    (j = .null ∧ value = none) ∨ (j ≠ .null ∧ value = some (.ofJson j)) := by
  cases j with
  | null =>
      cases accepted
      exact .inl ⟨rfl, rfl⟩
  | bool b | number n | string s | array items | object members =>
      cases accepted
      exact .inr ⟨by simp, rfl⟩

/-- The value is the one before, or that of a member. -/
theorem value_of_fieldsOfMembers {draft last : Draft} {members : List (String × Json)}
    (fields : fieldsOfMembers draft members = .ok last) :
    last.value = draft.value ∨
      ∃ j value, ("value", j) ∈ members ∧ (Format.optional .value).ofJson j = .ok value ∧
        last.value = some value := by
  induction members generalizing draft with
  | nil =>
      cases fields
      exact .inl rfl
  | cons member rest inductionHypothesis =>
      rcases member with ⟨key, j⟩
      have behind : ∀ {draft : Draft}, fieldsOfMembers draft rest = .ok last →
          last.value = draft.value ∨
            ∃ j' value, ("value", j') ∈ (key, j) :: rest ∧
              (Format.optional .value).ofJson j' = .ok value ∧ last.value = some value := by
        intro draft others
        rcases inductionHypothesis others with same | ⟨j', value, membership, given, same⟩
        · exact .inl same
        · exact .inr ⟨j', value, List.mem_cons_of_mem _ membership, given, same⟩
      rcases fieldsOfMembers_cons fields with
        ⟨rfl, _, s, _, others⟩ | ⟨rfl, _, value, given, others⟩ | ⟨_, others⟩
      · have further := behind others
        exact further
      · rcases behind others with same | there
        · exact .inr ⟨j, value, List.mem_cons_self, given, same⟩
        · exact .inr there
      · have further := behind others
        exact further

section Accepted

variable {element : Element}

/-- The value of an element that was read stands in the document, and is not `null`. -/
theorem value_of_ofJson {members : List (String × Json)}
    (accepted : ofJson (.object members) = .ok element) :
    element.value = none ∨
      ∃ j, ("value", j) ∈ members ∧ j ≠ .null ∧ element.value = some (.ofJson j) := by
  obtain ⟨draft, fields, _, joined, _⟩ := exists_draft_of_ofJson accepted
  rcases value_of_fieldsOfMembers fields with vacant | ⟨j, value, membership, given, same⟩
  · rw [vacant] at joined
    exact .inl joined.symm
  · rw [same] at joined
    rcases optional_value_cases given with ⟨_, absent⟩ | ⟨there, present⟩
    · rw [absent] at joined
      exact .inl joined.symm
    · rw [present] at joined
      exact .inr ⟨j, membership, there, joined.symm⟩

/-- Whatever was read is well formed. -/
theorem wellFormed_of_ofJson {j : Json} (accepted : ofJson j = .ok element) :
    element.WellFormed := by
  cases j with
  | object members =>
      constructor
      · rcases value_of_ofJson accepted with absent | ⟨j, _, there, present⟩
        · rw [absent]
          simp
        · rw [present]
          intro same
          exact normalize_ne_null there (congrArg Subtype.val (Option.some.inj same))
      · intro member membership
        apply Decidable.byContradiction
        intro reserved
        have absent := lookup_attributes accepted member.1
        rw [if_neg reserved, List.lookup_eq_none_iff] at absent
        have different := absent member membership
        simp at different
  | null | bool b | number n | string s | array items => cases accepted

/-- What is written of an element nests no deeper than what was read. -/
theorem depth_toJson_le {j : Json} (accepted : ofJson j = .ok element) :
    element.toJson.depth ≤ j.depth := by
  cases j with
  | object members =>
      have others : membersDepth element.attributes.val ≤ membersDepth members := by
        rw [attributes_of_ofJson accepted]
        exact Nat.le_trans (membersDepth_normalizeMembers_le _) (membersDepth_filter_le _ members)
      have value : element.valueJson.depth ≤ membersDepth members := by
        rw [valueJson]
        rcases value_of_ofJson accepted with absent | ⟨j, membership, _, present⟩
        · rw [absent]
          exact Nat.zero_le _
        · rw [present]
          exact Nat.le_trans (depth_normalize_le j) (depth_le_of_mem membership)
      simp only [toJson, depth, membersDepth]
      omega
  | null | bool b | number n | string s | array items => cases accepted

end Accepted

/-- Attributes are taken one after the other. -/
theorem fieldsOfMembers_attributes {members : List (String × Json)}
    (others : ∀ member ∈ members, isAttribute member.1 = true) (draft : Draft) :
    fieldsOfMembers draft members =
      .ok { draft with attributes := draft.attributes.insertAll members } := by
  induction members generalizing draft with
  | nil => rfl
  | cons member rest inductionHypothesis =>
      rcases member with ⟨key, j⟩
      have different : key ≠ "idShort" ∧ key ≠ "value" := by
        simpa [isAttribute] using others (key, j) List.mem_cons_self
      rw [fieldsOfMembers, if_neg different.1, if_neg different.2, inductionHypothesis]
      · rfl
      · intro member behind
        exact others member (List.mem_cons_of_mem _ behind)

/-- A well-formed element is read from what is written of it. -/
theorem WellFormed.ofJson_toJson {element : Element} (wellFormed : element.WellFormed) :
    ofJson element.toJson = .ok element := by
  have value : (Format.optional .value).ofJson element.valueJson = .ok element.value := by
    rw [valueJson]
    cases given : element.value with
    | none => rfl
    | some value =>
        have there : value.val ≠ .null := by
          intro null
          apply wellFormed.value
          rw [given]
          exact congrArg some (Subtype.ext null)
        show (Format.optional .value).ofJson value.val = _
        have present : (Format.optional .value).ofJson value.val =
            .ok (some (.ofJson value.val)) := by
          cases null : value.val <;> first | exact absurd null there | rfl
        rw [present, Value.ofJson_val]
  have attributes : Members.empty.insertAll element.attributes.val = element.attributes := by
    rw [Members.insertAll_empty]
    exact Subtype.ext (normalizeMembers_of_canonical _ element.attributes.property)
  have first : Format.text.ofJson (.string element.idShort) = .ok element.idShort := rfl
  have fields : fieldsOfMembers .empty element.written =
      .ok ⟨some element.idShort, some element.value, element.attributes⟩ := by
    simp only [written, fieldsOfMembers, first, bind, Except.bind, value,
      fieldsOfMembers_attributes wellFormed.attributes]
    simp [Draft.empty, attributes]
  have opened : ofJson element.toJson = fieldsOfMembers .empty element.written >>= Draft.finish :=
    rfl
  rw [opened, fields]
  rfl

theorem greatest_memberNeed {members : List (String × Json)}
    (others : ∀ member ∈ members, isAttribute member.1 = true) :
    greatest memberNeed members = membersDepth members := by
  rw [membersDepth_eq]
  apply greatest_congr
  intro member membership
  have different : member.1 ≠ "idShort" := by
    intro same
    have isOther := others member membership
    rw [same] at isOther
    cases isOther
  rw [memberNeed, if_neg different]

/-- A well-formed element in writing needs room for all that it holds. -/
theorem WellFormed.need_toJson {element : Element} (wellFormed : element.WellFormed) :
    need element.toJson = element.toJson.depth := by
  simp [need, toJson, depth, membersDepth, memberNeed, greatest_memberNeed wellFormed.attributes]

end ShellBridge.Element
