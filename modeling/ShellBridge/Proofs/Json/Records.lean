import ShellBridge.Proofs.Json.Formats

/-!
Records and documents.

A record is read field by field, and so are the members of an object and the items of a list.  Both
loops keep step, so a record agrees with the reader of documents as its fields do.
-/

namespace ShellBridge.Json.Record

open Scan

variable {F α : Type} {record : Record F α}

/-- The room that a member needs: nothing if it is passed over. -/
def memberNeed (record : Record F α) (needs : F → Json → Nat) (member : String × Json) : Nat :=
  match record.field? member.1 with
  | some f => needs f member.2
  | none => 0

/-- The room that the items of a list need for the fields in their order. -/
def orderNeed (needs : F → Json → Nat) : List F → List Json → Nat
  | f :: fs, j :: rest => max (needs f j) (orderNeed needs fs rest)
  | _, _ => 0

/-- The room that a record needs: that of its fields, and the object or list around them. -/
def need (record : Record F α) (needs : F → Json → Nat) : Json → Nat
  | .object members => greatest (record.memberNeed needs) members + 1
  | .array items => orderNeed needs record.fields items + 1
  | _ => 0

/-- The end of a list, behind the items that the fields took. -/
theorem endList_of_readItems {room budget : Nat} {first : Bool} {input rest : Bytes}
    {items : List Json}
    (read : Json.readItems (document room) budget first input = .ok (items, rest)) :
    (endList input).toOption = if items.isEmpty then some rest else none := by
  cases budget with
  | zero => cases read
  | succ budget =>
      rcases readItems_cases read with
        ⟨next, turn, rfl, rfl⟩ | ⟨next, j, after, others, turn, one, loop, rfl⟩
      · rcases nextItem_cases turn with
          ⟨_, tail, ended, rfl⟩ | ⟨impossible, _⟩ | ⟨impossible, _⟩
        · rw [endList, ended]
          rfl
        · cases impossible
        · cases impossible
      · have refused : ∀ b tail, skipBlanks input = b :: tail → b ≠ 0x5D →
            (endList input).toOption = none := by
          intro b tail begins more
          rw [endList, begins]
          simp only [more, if_false]
          split_ifs
          · split <;> rfl
          · rfl
        rcases nextItem_cases turn with
          ⟨impossible, _⟩ | ⟨_, _, b, tail, begins, more, _⟩ | ⟨_, _, tail, comma, _⟩
        · cases impossible
        · exact refused b tail begins more
        · exact refused 0x2C tail comma (by decide)

theorem ofJson_array [DecidableEq F] (items : List Json) :
    record.toFormat.ofJson (.array items) =
      record.fieldsInOrder record.fields 0 record.noFields items >>= fun (draft, rest) =>
        record.finish draft >>= fun x =>
          if rest.isEmpty then .ok x
          else .error (.invalidLength items.length record.expectedInSequence) := rfl

/-- Items are left over if there are more of them than fields. -/
theorem isEmpty_of_fieldsInOrder [DecidableEq F] {fs : List F} {index : Nat}
    {draft : record.Draft} {items : List Json} {taken : record.Draft × List Json}
    (read : record.fieldsInOrder fs index draft items = .ok taken) :
    taken.2.isEmpty = decide (items.length ≤ fs.length) := by
  induction fs generalizing index draft items with
  | nil =>
      cases read
      cases items <;> rfl
  | cons f fs inductionHypothesis =>
      cases items with
      | nil =>
          rw [fieldsInOrder] at read
          cases absent : record.absent f with
          | none =>
              rw [absent] at read
              cases read
          | some x =>
              rw [absent] at read
              simpa using inductionHypothesis read
      | cons j rest =>
          obtain ⟨x, _, others⟩ := bind_eq_ok read
          simpa using inductionHypothesis others

section Fields

variable [DecidableEq F] {needs : F → Json → Nat} (fields : ∀ f, (record.format f).Agrees (needs f))
  {room : Nat} {input rest : Bytes}
include fields

/-- Reading the fields of an object keeps step with reading its members, and stops in front of the
closing bracket. -/
theorem readFields_toOption {budget : Nat} {first : Bool} {members : List (String × Json)}
    (read : Json.readMembers (document room) budget first input = .ok (members, rest))
    (other : Nat) :
    ∃ tail, tail.drop 1 = rest ∧ ∀ draft,
      (record.readFields other budget first draft input).toOption =
        (if greatest (record.memberNeed needs) members ≤ other then
          (record.fieldsOfMembers draft members).toOption else none).map (·, tail) := by
  induction budget generalizing first input members with
  | zero => cases read
  | succ budget inductionHypothesis =>
      rcases readMembers_cases read with
        ⟨next, turn, rfl, rfl⟩ |
        ⟨key, next, start, j, after, others, turn, separator, one, loop, rfl⟩
      · refine ⟨next, rfl, ?_⟩
        intro draft
        rw [readFields, turn]
        rfl
      · obtain ⟨tail, dropped, further⟩ := inductionHypothesis loop
        refine ⟨tail, dropped, ?_⟩
        intro draft
        rw [readFields, turn, greatest_cons, memberNeed, fieldsOfMembers]
        simp only [toOption_bind, toOption_ok, Option.bind_some]
        cases known : record.field? key with
        | none =>
            simp only [toOption_bind, separator, skip_of_document one, toOption_ok,
              Option.bind_some, further, Nat.zero_max]
        | some f =>
            by_cases again : (draft f).isSome
            · simp [again, toOption_error]
            · simp only [again, Bool.false_eq_true, if_false, toOption_bind, separator,
                toOption_ok, Option.bind_some, (fields f room other).toOption_eq one,
                Format.accept]
              cases (record.format f).ofJson j with
              | error cause => simp [toOption_error]
              | ok x =>
                  simp only [Nat.max_le]
                  by_cases fits : needs f j ≤ other <;> simp [fits, toOption_ok, further]

/-- Reading the fields of a list keeps step with reading its items; behind them stands the end of
the list if no item is left over. -/
theorem readInOrder_toOption (fs : List F) {index budget : Nat} {items : List Json}
    (read : Json.readItems (document room) budget (index == 0) input = .ok (items, rest))
    (other : Nat) :
    ∃ place, (endList place).toOption = (if items.length ≤ fs.length then some rest else none) ∧
      ∀ draft, (record.readInOrder other fs index draft input).toOption =
        (if orderNeed needs fs items ≤ other then
          (record.fieldsInOrder fs index draft items).toOption else none).map
            fun (draft, _) => (draft, place) := by
  induction fs generalizing index budget input items with
  | nil =>
      refine ⟨input, ?_, ?_⟩
      · rw [endList_of_readItems read]
        cases items <;> rfl
      · intro draft
        simp [readInOrder, orderNeed, fieldsInOrder, toOption_ok]
  | cons f fs inductionHypothesis =>
      cases budget with
      | zero => cases read
      | succ budget =>
          rcases readItems_cases read with
            ⟨next, turn, rfl, rfl⟩ | ⟨next, j, after, others, turn, one, loop, rfl⟩
          · -- No item is left: this field and all behind it take their values in absence.
            have ended : Json.readItems (document room) 1 (index + 1 == 0) next =
                .ok ([], next.drop 1) := by
              rcases nextItem_cases turn with
                ⟨_, tail, _, rfl⟩ | ⟨impossible, _⟩ | ⟨impossible, _⟩
              · rfl
              · cases impossible
              · cases impossible
            obtain ⟨place, last, further⟩ := inductionHypothesis ended
            refine ⟨place, ?_, ?_⟩
            · simpa using last
            · intro draft
              rw [readInOrder, turn]
              simp only [toOption_bind, toOption_ok, Option.bind_some, Bool.false_eq_true,
                if_false, fieldsInOrder, orderNeed, Nat.zero_le, if_true]
              cases record.absent f with
              | none => rfl
              | some x =>
                  have same : orderNeed needs fs [] = 0 := by cases fs <;> rfl
                  have turned := further (draft.set f x)
                  rw [same, if_pos (Nat.zero_le _)] at turned
                  exact turned
          · have goesOn : Json.readItems (document room) budget (index + 1 == 0) after =
                .ok (others, rest) := loop
            obtain ⟨place, last, further⟩ := inductionHypothesis goesOn
            refine ⟨place, ?_, ?_⟩
            · simpa using last
            · intro draft
              rw [readInOrder, turn]
              simp only [toOption_bind, toOption_ok, Option.bind_some, if_true, fieldsInOrder,
                orderNeed, (fields f room other).toOption_eq one, Format.accept]
              cases (record.format f).ofJson j with
              | error cause => simp [toOption_error]
              | ok x =>
                  simp only [Nat.max_le]
                  by_cases fits : needs f j ≤ other <;> simp [fits, toOption_ok, further]

/-- A record agrees as its fields do. -/
theorem agrees : record.toFormat.Agrees (record.need needs) := by
  intro room other
  constructor
  intro input rest j read
  obtain ⟨nested, opens, inside⟩ := document_opens read
  obtain ⟨b, tail, skipped, opener⟩ := opens.starts
  cases j with
  | object members =>
      cases opens with
      | @object tail _ value _ skipped given loop =>
          obtain ⟨inner, rfl⟩ := inside value given
          show (record.read other input).toOption = _
          rw [Record.read, skipped]
          cases other with
          | zero => simp [Format.accept, need, toOption_error]
          | succ other =>
              obtain ⟨last, dropped, further⟩ := readFields_toOption fields loop other
              rw [List.drop_one] at dropped
              have same : record.toFormat.ofJson (.object members) =
                  record.fieldsOfMembers record.noFields members >>= record.finish := rfl
              simp only [if_true, toOption_bind, further, Format.accept, need, same,
                Nat.add_le_add_iff_right]
              by_cases fits : greatest (record.memberNeed needs) members ≤ other
              · cases record.fieldsOfMembers record.noFields members with
                | error cause => simp [fits, toOption_error]
                | ok draft =>
                    cases finished : record.finish draft <;>
                      simp [fits, finished, dropped, toOption_ok, toOption_error]
              · simp [fits]
  | array items =>
      cases opens with
      | @list tail _ item _ skipped given loop =>
          obtain ⟨inner, rfl⟩ := inside item given
          show (record.read other input).toOption = _
          rw [Record.read, skipped]
          cases other with
          | zero => simp [Format.accept, need, toOption_error]
          | succ other =>
              have begins : Json.readItems (document inner) (budgetFor tail) (0 == 0) tail =
                  .ok (items, rest) := loop
              obtain ⟨place, ended, further⟩ :=
                readInOrder_toOption fields record.fields begins other
              simp only [if_neg (show ¬(0x5B : UInt8) = 0x7B by decide), if_true, toOption_bind,
                further, Format.accept, need, ofJson_array, Nat.add_le_add_iff_right]
              by_cases fits : orderNeed needs record.fields items ≤ other
              · cases taken : record.fieldsInOrder record.fields 0 record.noFields items with
                | error cause => simp [fits, toOption_error]
                | ok pair =>
                    have left := isEmpty_of_fieldsInOrder taken
                    cases finished : record.finish pair.1 with
                    | error cause => simp [fits, finished, toOption_ok, toOption_error]
                    | ok x =>
                        simp only [fits, if_true, toOption_ok, Option.map_some, Option.bind_some,
                          finished, toOption_bind, ended, left]
                        by_cases short : items.length ≤ record.fields.length <;>
                          simp [short, toOption_ok, toOption_error]
              · simp [fits]
  | null | bool b' | number n | string s =>
      have noObject : b ≠ 0x7B := by
        rintro rfl
        simp [IsOpener] at opener
      have noList : b ≠ 0x5B := by
        rintro rfl
        simp [IsOpener] at opener
      show (record.read other input).toOption = _
      rw [Record.read, skipped, Format.accept_of_error rfl]
      simp [noObject, noList, toOption_error]

end Fields

/-- A member that a field takes counts in full. -/
theorem lt_need_of_mem [DecidableEq F] {needs : F → Json → Nat} {members : List (String × Json)}
    {key : String} {j : Json} {f : F} (membership : (key, j) ∈ members)
    (known : record.field? key = some f) : needs f j < record.need needs (.object members) := by
  have counted : record.memberNeed needs (key, j) = needs f j := by
    simp only [memberNeed, known]
  rw [← counted]
  exact Nat.lt_succ_of_le (le_greatest membership)

/-- A record needs no more room than the whole document if its fields do not. -/
theorem need_le_depth {needs : F → Json → Nat} (least : ∀ f j, needs f j ≤ j.depth) (j : Json) :
    record.need needs j ≤ j.depth := by
  have members : ∀ members, greatest (record.memberNeed needs) members ≤ membersDepth members := by
    intro members
    rw [greatest_le_iff]
    intro member membership
    apply Nat.le_trans _ (depth_le_of_mem membership)
    unfold memberNeed
    split
    · exact least _ member.2
    · exact Nat.zero_le _
  have items : ∀ fs items, orderNeed needs fs items ≤ itemsDepth items := by
    intro fs
    induction fs with
    | nil => exact fun items => Nat.zero_le _
    | cons f fs inductionHypothesis =>
        intro items
        cases items with
        | nil => exact Nat.le_refl _
        | cons j rest =>
            have first := least f j
            have others := inductionHypothesis rest
            simp only [orderNeed, itemsDepth]
            omega
  cases j with
  | object list => exact Nat.succ_le_succ (members list)
  | array list => exact Nat.succ_le_succ (items record.fields list)
  | null | bool b | number n | string s => exact Nat.le_refl _

section Origins

/-- Every field of the draft was read with the given room, or is the value for its absence. -/
def Draft.ReadWith (draft : record.Draft) (room : Nat) : Prop :=
  ∀ f x, draft f = some x →
    (∃ input rest, (record.format f).read room input = .ok (x, rest)) ∨ record.absent f = some x

/-- The value of a field was read, or it is the one for its absence. -/
theorem Draft.ReadWith.origin {draft : record.Draft} {room : Nat}
    (origins : draft.ReadWith room) {f : F} {x : record.Ty f}
    (given : record.valueOf draft f = .ok x) :
    (∃ input rest, (record.format f).read room input = .ok (x, rest)) ∨
      record.absent f = some x := by
  unfold valueOf at given
  split at given
  · next y entry =>
      cases given
      exact origins f _ entry
  · next y entry absent =>
      cases given
      exact .inr absent
  · cases given

/-- A field that cannot be left out was read. -/
theorem Draft.ReadWith.exists_read {draft : record.Draft} {room : Nat}
    (origins : draft.ReadWith room) {f : F} {x : record.Ty f} (required : record.absent f = none)
    (given : record.valueOf draft f = .ok x) :
    ∃ input rest, (record.format f).read room input = .ok (x, rest) := by
  rcases origins.origin given with read | absent
  · exact read
  · rw [required] at absent
    cases absent

variable [DecidableEq F]

theorem Draft.ReadWith.set {draft : record.Draft} {room : Nat} (before : draft.ReadWith room)
    {f : F} {x : record.Ty f}
    (origin : (∃ input rest, (record.format f).read room input = .ok (x, rest)) ∨
      record.absent f = some x) : (draft.set f x).ReadWith room := by
  intro g y given
  unfold Draft.set at given
  by_cases same : g = f
  · subst same
    simp only [dif_pos] at given
    cases given
    exact origin
  · simp only [same, dif_neg, not_false_eq_true] at given
    exact before g y given

theorem readWith_of_readFields {room budget : Nat} {first : Bool} {draft last : record.Draft}
    {input rest : Bytes} (before : draft.ReadWith room)
    (read : record.readFields room budget first draft input = .ok (last, rest)) :
    last.ReadWith room := by
  induction budget generalizing first draft input with
  | zero => cases read
  | succ budget inductionHypothesis =>
      obtain ⟨⟨key?, next⟩, _, read⟩ := bind_eq_ok read
      cases key? with
      | none =>
          cases read
          exact before
      | some key =>
          simp only at read
          split at read
          · next f _ =>
              split_ifs at read
              obtain ⟨start, _, read⟩ := bind_eq_ok read
              obtain ⟨⟨x, after⟩, one, read⟩ := bind_eq_ok read
              exact inductionHypothesis (before.set (.inl ⟨start, after, one⟩)) read
          · obtain ⟨start, _, read⟩ := bind_eq_ok read
            obtain ⟨after, _, read⟩ := bind_eq_ok read
            exact inductionHypothesis before read

theorem readWith_of_readInOrder {room index : Nat} {fs : List F} {draft last : record.Draft}
    {input rest : Bytes} (before : draft.ReadWith room)
    (read : record.readInOrder room fs index draft input = .ok (last, rest)) :
    last.ReadWith room := by
  induction fs generalizing index draft input with
  | nil =>
      cases read
      exact before
  | cons f fs inductionHypothesis =>
      obtain ⟨⟨more, next⟩, _, read⟩ := bind_eq_ok read
      cases more with
      | true =>
          obtain ⟨⟨x, after⟩, one, read⟩ := bind_eq_ok read
          exact inductionHypothesis (before.set (.inl ⟨next, after, one⟩)) read
      | false =>
          simp only [Bool.false_eq_true, if_false] at read
          split at read
          · next x absent => exact inductionHypothesis (before.set (.inr absent)) read
          · cases read

/-- A record that was read is made of fields that were read with less room. -/
theorem exists_draft_of_read {room : Nat} {input rest : Bytes} {x : α}
    (read : record.read (room + 1) input = .ok (x, rest)) :
    ∃ draft : record.Draft, draft.ReadWith room ∧ record.finish draft = .ok x := by
  have empty : record.noFields.ReadWith room := fun f y given => nomatch given
  rw [Record.read] at read
  split at read
  · cases read
  · simp only at read
    split_ifs at read
    · obtain ⟨⟨draft, after⟩, fields, read⟩ := bind_eq_ok read
      refine ⟨draft, readWith_of_readFields empty fields, ?_⟩
      cases finished : record.finish draft with
      | error cause =>
          simp only [finished] at read
          cases read
      | ok y =>
          simp only [finished] at read
          cases read
          rfl
    · obtain ⟨⟨draft, after⟩, fields, read⟩ := bind_eq_ok read
      refine ⟨draft, readWith_of_readInOrder empty fields, ?_⟩
      cases finished : record.finish draft with
      | error cause =>
          simp only [finished] at read
          cases read
      | ok y =>
          simp only [finished] at read
          obtain ⟨last, _, read⟩ := bind_eq_ok read
          cases read
          rfl

end Origins

end ShellBridge.Json.Record
