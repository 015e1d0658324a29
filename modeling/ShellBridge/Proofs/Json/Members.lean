import ShellBridge.Proofs.Json.Canonical

/-!
Members found by their keys.

Members in canonical form are known by what is found for each key.  For the normal form of members
with repeated keys this is the last one.
-/

namespace ShellBridge.Json

section Lookup

variable (key other : String) (value : Json) (members : List (String × Json))

theorem lookup_cons_eq :
    ((other, value) :: members).lookup key =
      if key = other then some value else members.lookup key := by
  by_cases same : key = other
  · simp [same]
  · have different : (key == other) = false := beq_eq_false_iff_ne.mpr same
    rw [List.lookup_cons, different, if_neg same]

theorem lookup_eq_none_of_less {members : List (String × Json)}
    (less : ∀ member ∈ members, key < member.1) : members.lookup key = none := by
  rw [List.lookup_eq_none_iff]
  intro member membership
  rw [bne_iff_ne]
  intro same
  have impossible := less member membership
  rw [← same] at impossible
  exact String.lt_irrefl key impossible

theorem lookup_insertMember :
    (insertMember other value members).lookup key =
      if key = other then some value else members.lookup key := by
  induction members with
  | nil => rw [insertMember, lookup_cons_eq]
  | cons member rest inductionHypothesis =>
      rcases member with ⟨head, former⟩
      rw [insertMember]
      split
      · next same =>
          subst same
          rw [lookup_cons_eq, lookup_cons_eq]
          split <;> rfl
      · next different =>
          split
          · rw [lookup_cons_eq]
          · rw [lookup_cons_eq, lookup_cons_eq, inductionHypothesis]
            by_cases first : key = head
            · subst first
              rw [if_pos rfl, if_pos rfl, if_neg (Ne.symm different)]
            · rw [if_neg first, if_neg first]

theorem lookup_insertAbsent {members : List (String × Json)}
    (canonical : MembersCanonical members) :
    (insertAbsent other value members).lookup key =
      (members.lookup key).or (if key = other then some value else none) := by
  induction members with
  | nil =>
      rw [insertAbsent, lookup_cons_eq]
      rfl
  | cons member rest inductionHypothesis =>
      rcases member with ⟨head, former⟩
      have further := inductionHypothesis canonical.2.2
      rw [insertAbsent]
      split
      · next same =>
          rw [lookup_cons_eq]
          split <;> simp_all
      · next different =>
          split
          · next less =>
              have fresh : ((head, former) :: rest).lookup other = none := by
                apply lookup_eq_none_of_less
                intro member membership
                rcases List.mem_cons.mp membership with rfl | behind
                · exact less
                · exact String.lt_trans less (canonical.2.1 member behind)
              rw [lookup_cons_eq]
              split
              · next same => rw [same, fresh, Option.none_or]
              · rw [Option.or_none]
          · rw [lookup_cons_eq, lookup_cons_eq, further]
            split <;> rfl

/-- Of members with one key the last one counts. -/
theorem lookup_normalizeMembers :
    (normalizeMembers members).lookup key = (members.reverse.lookup key).map normalize := by
  induction members with
  | nil => rfl
  | cons member rest inductionHypothesis =>
      rcases member with ⟨other, value⟩
      rw [normalizeMembers, lookup_insertAbsent _ _ _ (normalizeMembers_canonical rest),
        inductionHypothesis, List.reverse_cons, List.lookup_append, lookup_cons_eq, Option.map_or]
      split <;> rfl

theorem lookup_filter (keep : String → Bool) :
    (members.filter fun member => keep member.1).lookup key =
      if keep key then members.lookup key else none := by
  induction members with
  | nil => split <;> rfl
  | cons member rest inductionHypothesis =>
      rcases member with ⟨other, value⟩
      by_cases same : key = other
      · subst same
        cases kept : keep key <;> simp [kept, inductionHypothesis]
      · cases kept : keep other <;>
          simp [kept, inductionHypothesis, lookup_cons_eq, same]

end Lookup

theorem mem_of_lookup {key : String} {value : Json} {members : List (String × Json)}
    (found : members.lookup key = some value) : (key, value) ∈ members := by
  obtain ⟨before, behind, equality, _⟩ := List.lookup_eq_some_iff.mp found
  rw [equality]
  exact List.mem_append_right before List.mem_cons_self

/-- Members in canonical form are the same if the same is found for every key. -/
theorem eq_of_lookup_eq {members others : List (String × Json)}
    (canonical : MembersCanonical members) (canonical' : MembersCanonical others)
    (same : ∀ key, members.lookup key = others.lookup key) : members = others := by
  induction members generalizing others with
  | nil =>
      cases others with
      | nil => rfl
      | cons other others =>
          have found := same other.1
          rw [List.lookup_nil, List.lookup_cons_self] at found
          cases found
  | cons member members inductionHypothesis =>
      rcases member with ⟨key, value⟩
      cases others with
      | nil =>
          have found := same key
          rw [List.lookup_nil, List.lookup_cons_self] at found
          cases found
      | cons other others =>
          rcases other with ⟨key', value'⟩
          -- Each of the two first keys is found on the other side, so neither is less.
          have equalKeys : key = key' := by
            apply Decidable.byContradiction
            intro different
            have here := same key
            have there := same key'
            rw [List.lookup_cons_self, lookup_cons_eq, if_neg different] at here
            rw [List.lookup_cons_self, lookup_cons_eq, if_neg (Ne.symm different)] at there
            have greater := canonical'.2.1 _ (mem_of_lookup here.symm)
            have less := canonical.2.1 _ (mem_of_lookup there)
            exact String.lt_irrefl key (String.lt_trans less greater)
          subst equalKeys
          have equalValues := same key
          rw [List.lookup_cons_self, List.lookup_cons_self] at equalValues
          have equalRest : members = others := by
            apply inductionHypothesis canonical.2.2 canonical'.2.2
            intro key''
            have found := same key''
            by_cases first : key'' = key
            · subst first
              rw [lookup_eq_none_of_less key'' canonical.2.1,
                lookup_eq_none_of_less key'' canonical'.2.1]
            · rw [lookup_cons_eq, lookup_cons_eq, if_neg first, if_neg first] at found
              exact found
          rw [Option.some.inj equalValues, equalRest]

theorem nodup_keys_of_canonical {members : List (String × Json)}
    (canonical : MembersCanonical members) : (members.map Prod.fst).Nodup := by
  induction members with
  | nil => exact List.nodup_nil
  | cons member rest inductionHypothesis =>
      rw [List.map_cons, List.nodup_cons]
      constructor
      · intro again
        obtain ⟨other, membership, same⟩ := List.mem_map.mp again
        have less := canonical.2.1 other membership
        rw [same] at less
        exact String.lt_irrefl member.1 less
      · exact inductionHypothesis canonical.2.2

namespace Members

theorem ext {members others : Members}
    (same : ∀ key, members.val.lookup key = others.val.lookup key) : members = others :=
  Subtype.ext (eq_of_lookup_eq members.property others.property same)

theorem lookup_insert (members : Members) (key other : String) (value : Value) :
    (members.insert other value).val.lookup key =
      if key = other then some value.val else members.val.lookup key :=
  lookup_insertMember key other value.val members.val

theorem lookup_ofList (members : List (String × Json)) (key : String) :
    (ofList members).val.lookup key = (members.reverse.lookup key).map normalize :=
  lookup_normalizeMembers key members

/-- Members put in one after the other, over those that were there before. -/
def insertAll (start : Members) (members : List (String × Json)) : Members :=
  members.foldl (fun inserted (key, j) => inserted.insert key (.ofJson j)) start

theorem lookup_insertAll (start : Members) (members : List (String × Json)) (key : String) :
    (start.insertAll members).val.lookup key =
      ((members.reverse.lookup key).map normalize).or (start.val.lookup key) := by
  induction members generalizing start with
  | nil => rfl
  | cons member rest inductionHypothesis =>
      rcases member with ⟨other, j⟩
      have opened : start.insertAll ((other, j) :: rest) =
          (start.insert other (.ofJson j)).insertAll rest := rfl
      have normal : (Value.ofJson j).val = j.normalize := rfl
      rw [opened, inductionHypothesis, lookup_insert, List.reverse_cons, List.lookup_append,
        lookup_cons_eq, Option.map_or, Option.or_assoc, normal]
      split <;> rfl

theorem insertAll_empty (members : List (String × Json)) :
    empty.insertAll members = ofList members := by
  apply ext
  intro key
  rw [lookup_insertAll, lookup_ofList]
  exact Option.or_none

/-- The object with these members. -/
def toValue (members : Members) : Value :=
  ⟨.object members.val, members.property⟩

end Members

/-! ### Parts of members -/

theorem membersDepth_filter_le (keep : String × Json → Bool) (members : List (String × Json)) :
    membersDepth (members.filter keep) ≤ membersDepth members := by
  rw [membersDepth_le_iff]
  intro member membership
  exact depth_le_of_mem (List.mem_filter.mp membership).1

theorem membersFloatFree_filter (keep : String × Json → Bool) {members : List (String × Json)}
    (plain : MembersFloatFree members) : MembersFloatFree (members.filter keep) := by
  rw [membersFloatFree_iff] at plain ⊢
  intro member membership
  exact plain member (List.mem_filter.mp membership).1

end ShellBridge.Json
