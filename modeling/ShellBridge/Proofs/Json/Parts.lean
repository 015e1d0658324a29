import ShellBridge.Proofs.Json.Records
import ShellBridge.Proofs.Json.Members
import ShellBridge.Proofs.Json.Writing

/-!
Parts of documents.

A part stands in an object under its key, which no other member has, or in a list at its place.  The
fields of a record that was accepted were taken from such parts.
-/

namespace ShellBridge.Json

/-- The value of the only member with the key. -/
def only? (key : String) (members : List (String × Json)) : Option Json :=
  match members.filter fun member => member.1 == key with
  | [(_, j)] => some j
  | _ => none

/-- The part of a document with the key, or at the place. -/
def part? (key : String) (place : Nat) : Json → Option Json
  | .object members => only? key members
  | .array items => items[place]?
  | _ => none

theorem only?_of_filter {key key' : String} {members : List (String × Json)} {j : Json}
    (taken : (members.filter fun member => member.1 == key) = [(key', j)]) :
    only? key members = some j := by
  rw [only?, taken]

theorem filter_of_only? {key : String} {members : List (String × Json)} {j : Json}
    (found : only? key members = some j) :
    (members.filter fun member => member.1 == key) = [(key, j)] := by
  unfold only? at found
  split at found
  · next key' j' taken =>
      have membership : (key', j') ∈ members.filter fun member => member.1 == key := by
        rw [taken]
        exact List.mem_singleton_self _
      have same : key' = key := by simpa using (List.mem_filter.mp membership).2
      cases found
      rw [taken, same]
  · cases found

theorem mem_of_only? {key : String} {members : List (String × Json)} {j : Json}
    (found : only? key members = some j) : (key, j) ∈ members := by
  have membership : (key, j) ∈ members.filter fun member => member.1 == key := by
    rw [filter_of_only? found]
    exact List.mem_singleton_self _
  exact (List.mem_filter.mp membership).1

/-- The last member with the key is the only one. -/
theorem lookup_reverse_of_only? {key : String} {members : List (String × Json)} {j : Json}
    (found : only? key members = some j) : members.reverse.lookup key = some j := by
  have kept := lookup_filter key members.reverse fun other => other == key
  rw [if_pos (beq_self_eq_true key), List.filter_reverse, filter_of_only? found] at kept
  rw [← kept]
  exact List.lookup_cons_self

theorem depth_lt_of_part? {key : String} {place : Nat} {whole part : Json}
    (found : whole.part? key place = some part) : part.depth < whole.depth := by
  cases whole with
  | object members => exact Nat.lt_succ_of_le (depth_le_of_mem (mem_of_only? found))
  | array items => exact Nat.lt_succ_of_le (depth_le_of_mem_items (List.mem_of_getElem? found))
  | null | bool b | number n | string s => cases found

namespace Record

variable {F α : Type} {record : Record F α} [DecidableEq F]

/-- A field is left as it was if no member has its key, or it is taken from the only one. -/
theorem fieldsOfMembers_cases {f : F} (known : record.field? (record.key f) = some f)
    {draft last : record.Draft} {members : List (String × Json)}
    (read : record.fieldsOfMembers draft members = .ok last) :
    ((members.filter fun member => member.1 == record.key f) = [] ∧ last f = draft f) ∨
      (draft f = none ∧ ∃ j x, (members.filter fun member => member.1 == record.key f) =
        [(record.key f, j)] ∧ (record.format f).ofJson j = .ok x ∧ last f = some x) := by
  induction members generalizing draft with
  | nil =>
      cases read
      exact .inl ⟨rfl, rfl⟩
  | cons member rest inductionHypothesis =>
      rcases member with ⟨key, j⟩
      rw [fieldsOfMembers] at read
      by_cases here : key = record.key f
      · subst here
        simp only [known] at read
        split_ifs at read with again
        obtain ⟨x, one, read⟩ := bind_eq_ok read
        have vacant : draft f = none := by simpa using again
        rcases inductionHypothesis read with ⟨noOther, same⟩ | ⟨impossible, _⟩
        · refine .inr ⟨vacant, j, x, ?_, one, ?_⟩
          · simp [noOther]
          · rw [same, Draft.set_self]
        · rw [Draft.set_self] at impossible
          cases impossible
      · have passed : (((key, j) :: rest).filter fun member => member.1 == record.key f) =
            rest.filter fun member => member.1 == record.key f := by
          simp [here]
        rw [passed]
        split at read
        · next g taken =>
            split_ifs at read
            obtain ⟨x, one, read⟩ := bind_eq_ok read
            have different : f ≠ g := by
              rintro rfl
              have same : record.key f = key := by simpa using List.find?_some taken
              exact here same.symm
            have further := inductionHypothesis read
            rw [Draft.set_of_ne draft different] at further
            exact further
        · exact inductionHypothesis read

theorem fieldsOfMembers_append (draft : record.Draft) (members more : List (String × Json)) :
    record.fieldsOfMembers draft (members ++ more) =
      record.fieldsOfMembers draft members >>= fun next => record.fieldsOfMembers next more := by
  induction members generalizing draft with
  | nil => rfl
  | cons member rest inductionHypothesis =>
      rcases member with ⟨key, j⟩
      rw [List.cons_append, fieldsOfMembers, fieldsOfMembers]
      cases record.field? key with
      | none => exact inductionHypothesis draft
      | some f =>
          by_cases again : (draft f).isSome
          · simp only [again, if_true]
            rfl
          · simp only [again, Bool.false_eq_true, if_false, bind_assoc, inductionHypothesis]

theorem vacant_of_fieldsOfMembers {f : F} (known : record.field? (record.key f) = some f)
    {draft : record.Draft} {members : List (String × Json)}
    (read : record.fieldsOfMembers record.noFields members = .ok draft)
    (fresh : ∀ member ∈ members, member.1 ≠ record.key f) : draft f = none := by
  rcases fieldsOfMembers_cases known read with ⟨_, same⟩ | ⟨_, part, y, taken, _, _⟩
  · exact same
  · have membership : (record.key f, part) ∈
        members.filter fun member => member.1 == record.key f := by
      rw [taken]
      exact List.mem_singleton_self _
    exact absurd rfl (fresh _ (List.mem_filter.mp membership).1)

/-- A field that is left out reads like one with the value for its absence. -/
theorem ofJson_append_absent {f : F} {x : record.Ty f} {j : Json}
    {members : List (String × Json)} (known : record.field? (record.key f) = some f)
    (absent : record.absent f = some x) (given : (record.format f).ofJson j = .ok x)
    (fresh : ∀ member ∈ members, member.1 ≠ record.key f) :
    record.ofJson (.object (members ++ [(record.key f, j)])) = record.ofJson (.object members) := by
  have opened : ∀ members, record.ofJson (.object members) =
      record.fieldsOfMembers record.noFields members >>= record.finish := fun _ => rfl
  rw [opened, opened, fieldsOfMembers_append]
  cases read : record.fieldsOfMembers record.noFields members with
  | error cause => rfl
  | ok draft =>
      have vacant := vacant_of_fieldsOfMembers known read fresh
      have same : record.valueOf (draft.set f x) = record.valueOf draft := by
        funext g
        by_cases here : g = f
        · subst here
          rw [valueOf, valueOf, Draft.set_self, vacant, absent]
        · rw [valueOf, valueOf, Draft.set_of_ne draft here]
      have last : record.fieldsOfMembers draft [(record.key f, j)] = .ok (draft.set f x) := by
        simp [fieldsOfMembers, known, vacant, given, bind, Except.bind]
      show (record.fieldsOfMembers draft [(record.key f, j)] >>= record.finish) =
        record.finish draft
      rw [last]
      show record.build (record.valueOf (draft.set f x)) = record.build (record.valueOf draft)
      rw [same]

/-- The fields of a list are taken from the items at their places. -/
theorem fieldsInOrder_getElem? {fs : List F} (distinct : fs.Nodup) {index : Nat}
    {draft last : record.Draft} {items left : List Json}
    (read : record.fieldsInOrder fs index draft items = .ok (last, left)) :
    (∀ f, f ∉ fs → last f = draft f) ∧
      ∀ (place : Nat) (f : F), fs[place]? = some f → record.absent f = none →
        ∃ j x, items[place]? = some j ∧ (record.format f).ofJson j = .ok x ∧ last f = some x := by
  induction fs generalizing index draft items with
  | nil =>
      cases read
      exact ⟨fun f _ => rfl, fun place f impossible => nomatch impossible⟩
  | cons g fs inductionHypothesis =>
      obtain ⟨fresh, distinct⟩ := List.nodup_cons.mp distinct
      have before : ∀ {draft : record.Draft} {x : record.Ty g},
          (∀ f, f ∉ fs → last f = draft.set g x f) → ∀ f, f ∉ g :: fs → last f = draft f := by
        intro draft x same f outside
        obtain ⟨different, outside⟩ := List.ne_and_not_mem_of_not_mem_cons outside
        rw [same f outside, Draft.set_of_ne draft different]
      cases items with
      | nil =>
          rw [fieldsInOrder] at read
          split at read
          · next x absent =>
              obtain ⟨same, further⟩ := inductionHypothesis distinct read
              refine ⟨before same, ?_⟩
              intro place f present required
              cases place with
              | zero =>
                  cases present
                  rw [absent] at required
                  cases required
              | succ place =>
                  obtain ⟨j, y, impossible, _⟩ := further place f present required
                  cases impossible
          · cases read
      | cons j rest =>
          obtain ⟨x, one, read⟩ := bind_eq_ok read
          obtain ⟨same, further⟩ := inductionHypothesis distinct read
          refine ⟨before same, ?_⟩
          intro place f present required
          cases place with
          | zero =>
              cases present
              refine ⟨j, x, rfl, one, ?_⟩
              rw [same g fresh, Draft.set_self]
          | succ place => exact further place f present required

/-- A record that was accepted is made of values for its fields, and each field that cannot be left
out was taken from its part of the document. -/
theorem exists_draft_of_ofJson {j : Json} {x : α} (accepted : record.ofJson j = .ok x)
    (keys : (record.fields.map record.key).Nodup) :
    ∃ draft : record.Draft, record.finish draft = .ok x ∧
      ∀ (place : Nat) (f : F) (y : record.Ty f), record.fields[place]? = some f →
        record.absent f = none → record.valueOf draft f = .ok y →
        ∃ part, j.part? (record.key f) place = some part ∧
          (record.format f).ofJson part = .ok y := by
  have required : ∀ {draft : record.Draft} {f : F} {y : record.Ty f}, record.absent f = none →
      record.valueOf draft f = .ok y → draft f = some y := by
    intro draft f y required given
    rw [valueOf, required] at given
    cases entry : draft f with
    | none =>
        rw [entry] at given
        cases given
    | some z =>
        rw [entry] at given
        cases given
        rfl
  cases j with
  | object members =>
      obtain ⟨draft, read, finished⟩ := bind_eq_ok accepted
      refine ⟨draft, finished, ?_⟩
      intro place f y present mandatory given
      have entry := required mandatory given
      have known := field?_key keys (List.mem_of_getElem? present)
      rcases fieldsOfMembers_cases known read with ⟨_, vacant⟩ | ⟨_, part, z, taken, one, same⟩
      · rw [entry] at vacant
        cases vacant
      · rw [entry] at same
        cases same
        exact ⟨part, only?_of_filter taken, one⟩
  | array items =>
      obtain ⟨⟨draft, left⟩, read, accepted⟩ := bind_eq_ok accepted
      obtain ⟨z, finished, accepted⟩ := bind_eq_ok accepted
      have same : z = x := by
        split_ifs at accepted
        exact Except.ok.inj accepted
      subst same
      refine ⟨draft, finished, ?_⟩
      intro place f y present mandatory given
      obtain ⟨part, z, found, one, entry⟩ :=
        (fieldsInOrder_getElem? keys.of_map read).2 place f present mandatory
      rw [required mandatory given] at entry
      cases entry
      exact ⟨part, found, one⟩
  | null | bool b | number n | string s => cases accepted

end Record

end ShellBridge.Json
