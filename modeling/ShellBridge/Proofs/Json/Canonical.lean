import ShellBridge.Proofs.Json.Formats

/-!
Canonical documents.

Bringing a document into canonical form leaves a canonical one as it is.  It never nests deeper, and
makes no floats.
-/

namespace ShellBridge.Json

theorem insertAbsent_of_lt {key : String} {value : Json} {members : List (String × Json)}
    (less : ∀ member ∈ members, key < member.1) :
    insertAbsent key value members = (key, value) :: members := by
  cases members with
  | nil => rfl
  | cons member rest =>
      rcases member with ⟨other, value'⟩
      have first := less (other, value') List.mem_cons_self
      have different : key ≠ other := by
        rintro rfl
        exact String.lt_irrefl key first
      rw [insertAbsent, if_neg different, if_pos first]

mutual

theorem normalize_of_isCanonical : (j : Json) → j.IsCanonical → j.normalize = j
  | .null, _ | .bool _, _ | .number _, _ | .string _, _ => by rw [normalize]
  | .array items, canonical => by
      rw [normalize, normalizeItems_of_canonical items canonical]
  | .object members, canonical => by
      rw [normalize, normalizeMembers_of_canonical members canonical]

theorem normalizeItems_of_canonical : (items : List Json) → AllCanonical items →
    normalizeItems items = items
  | [], _ => rfl
  | item :: rest, canonical => by
      rw [normalizeItems, normalize_of_isCanonical item canonical.1,
        normalizeItems_of_canonical rest canonical.2]

theorem normalizeMembers_of_canonical : (members : List (String × Json)) →
    MembersCanonical members → normalizeMembers members = members
  | [], _ => rfl
  | (key, value) :: rest, canonical => by
      rw [normalizeMembers, normalize_of_isCanonical value canonical.1,
        normalizeMembers_of_canonical rest canonical.2.2, insertAbsent_of_lt canonical.2.1]

end

theorem Value.ofJson_val (value : Value) : Value.ofJson value.val = value :=
  Subtype.ext (normalize_of_isCanonical value.val value.property)

theorem eq_or_mem_of_mem_insertAbsent {key : String} {value : Json}
    {members : List (String × Json)} {member : String × Json}
    (membership : member ∈ insertAbsent key value members) :
    member = (key, value) ∨ member ∈ members := by
  induction members with
  | nil => exact .inl (List.mem_singleton.mp membership)
  | cons head rest inductionHypothesis =>
      rcases head with ⟨other, value'⟩
      rw [insertAbsent] at membership
      split at membership
      · exact .inr membership
      · split at membership
        · exact List.mem_cons.mp membership
        · rcases List.mem_cons.mp membership with rfl | behind
          · exact .inr List.mem_cons_self
          · exact (inductionHypothesis behind).imp_right (List.mem_cons_of_mem _)

theorem membersDepth_insertAbsent_le (key : String) (value : Json)
    (members : List (String × Json)) :
    membersDepth (insertAbsent key value members) ≤ max value.depth (membersDepth members) := by
  rw [membersDepth_le_iff]
  intro member membership
  rcases eq_or_mem_of_mem_insertAbsent membership with rfl | behind
  · exact Nat.le_max_left _ _
  · exact Nat.le_trans (depth_le_of_mem behind) (Nat.le_max_right _ _)

mutual

theorem depth_normalize_le : (j : Json) → j.normalize.depth ≤ j.depth
  | .null | .bool _ | .number _ | .string _ => Nat.le_refl _
  | .array items => Nat.succ_le_succ (itemsDepth_normalizeItems_le items)
  | .object members => Nat.succ_le_succ (membersDepth_normalizeMembers_le members)

theorem itemsDepth_normalizeItems_le : (items : List Json) →
    itemsDepth (normalizeItems items) ≤ itemsDepth items
  | [] => Nat.le_refl _
  | item :: rest => by
      have first := depth_normalize_le item
      have others := itemsDepth_normalizeItems_le rest
      simp only [normalizeItems, itemsDepth]
      omega

theorem membersDepth_normalizeMembers_le : (members : List (String × Json)) →
    membersDepth (normalizeMembers members) ≤ membersDepth members
  | [] => Nat.le_refl _
  | (key, value) :: rest => by
      have first := depth_normalize_le value
      have others := membersDepth_normalizeMembers_le rest
      have inserted := membersDepth_insertAbsent_le key value.normalize (normalizeMembers rest)
      simp only [normalizeMembers, membersDepth]
      omega

end

theorem membersFloatFree_insertAbsent {key : String} {value : Json}
    {members : List (String × Json)} (plain : value.FloatFree)
    (plain' : MembersFloatFree members) : MembersFloatFree (insertAbsent key value members) := by
  rw [membersFloatFree_iff] at plain' ⊢
  intro member membership
  rcases eq_or_mem_of_mem_insertAbsent membership with rfl | behind
  · exact plain
  · exact plain' member behind

mutual

theorem floatFree_normalize : (j : Json) → j.FloatFree → j.normalize.FloatFree
  | .null, plain | .bool _, plain | .number _, plain | .string _, plain => by
      rw [normalize]
      exact plain
  | .array items, plain => itemsFloatFree_normalizeItems items plain
  | .object members, plain => membersFloatFree_normalizeMembers members plain

theorem itemsFloatFree_normalizeItems : (items : List Json) → ItemsFloatFree items →
    ItemsFloatFree (normalizeItems items)
  | [], _ => trivial
  | item :: rest, plain =>
      ⟨floatFree_normalize item plain.1, itemsFloatFree_normalizeItems rest plain.2⟩

theorem membersFloatFree_normalizeMembers : (members : List (String × Json)) →
    MembersFloatFree members → MembersFloatFree (normalizeMembers members)
  | [], _ => trivial
  | (_, value) :: rest, plain =>
      membersFloatFree_insertAbsent (floatFree_normalize value plain.1)
        (membersFloatFree_normalizeMembers rest plain.2)

end

/-- A value that was read fits the room. -/
theorem depth_le_of_reader {room : Nat} {input rest : Bytes} {value : Value}
    (read : Value.reader room input = .ok (value, rest)) : value.val.depth ≤ room := by
  obtain ⟨⟨j, after⟩, document, same⟩ := bind_eq_ok read
  cases same
  exact Nat.le_trans (depth_normalize_le j) (depth_le_of_document document)

/-- The text of a value reads back, up to the limit of nesting. -/
theorem Value.parse_ofJson {j : Json} (plain : j.FloatFree) (fits : j.depth ≤ depthLimit) :
    Value.parse (Value.ofJson j).val.bytes = .ok (.ofJson j) := by
  have fits' := Nat.le_trans (depth_normalize_le j) fits
  rw [show (Value.ofJson j).val = j.normalize from rfl,
    Value.parse_bytes (floatFree_normalize j plain) fits']
  exact congrArg Except.ok (Value.ofJson_val (.ofJson j))

end ShellBridge.Json
