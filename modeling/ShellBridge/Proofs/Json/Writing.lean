import ShellBridge.Json.Format
import Mathlib.Data.List.Nodup

/-!
Records written as objects.

A record is written field by field, in order; a field that is left out must have a value for its
absence.  What was written so is accepted for the values that were written.
-/

namespace ShellBridge.Json.Record

variable {F α : Type} (record : Record F α)

/-- The document and the value of each field that is written. -/
def Written : Type :=
  (f : F) → Option (Json × record.Ty f)

variable {record}

/-- The members of the given fields, as far as they are written. -/
def Written.members (written : record.Written) (fields : List F) : List (String × Json) :=
  fields.filterMap fun f => (written f).map fun (j, _) => (record.key f, j)

/-- The value of a field, as it was written or for its absence. -/
def Written.valueOf (written : record.Written) : (f : F) → Except Cause (record.Ty f) :=
  record.valueOf fun f => (written f).map Prod.snd

/-- Every field is found by its key if no two have the same. -/
theorem field?_key {fields : List F} (distinct : (fields.map record.key).Nodup) {f : F}
    (membership : f ∈ fields) :
    (fields.find? fun g => record.key g == record.key f) = some f := by
  induction fields with
  | nil => cases membership
  | cons g fields inductionHypothesis =>
      rw [List.map_cons, List.nodup_cons] at distinct
      rw [List.find?_cons]
      rcases List.mem_cons.mp membership with rfl | behind
      · simp
      · have different : (record.key g == record.key f) = false := by
          rw [beq_eq_false_iff_ne]
          intro equality
          exact distinct.1 (equality ▸ List.mem_map_of_mem behind)
        rw [different]
        exact inductionHypothesis distinct.2 behind

section Draft

variable [DecidableEq F] (draft : record.Draft)

@[simp] theorem Draft.set_self (f : F) (x : record.Ty f) : draft.set f x f = some x := by
  simp [Draft.set]

theorem Draft.set_of_ne {f g : F} (different : g ≠ f) (x : record.Ty f) :
    draft.set f x g = draft g := by
  simp [Draft.set, different]

end Draft

variable [DecidableEq F]

theorem fieldsOfMembers_written {written : record.Written}
    (reads : ∀ f j x, written f = some (j, x) → (record.format f).ofJson j = .ok x)
    {fields : List F} (known : ∀ f ∈ fields, record.field? (record.key f) = some f)
    (distinct : fields.Nodup) {draft : record.Draft} (vacant : ∀ f ∈ fields, draft f = none) :
    ∃ last : record.Draft, record.fieldsOfMembers draft (written.members fields) = .ok last ∧
      ∀ f, last f = if f ∈ fields then (written f).map Prod.snd else draft f := by
  induction fields generalizing draft with
  | nil => exact ⟨draft, rfl, fun f => rfl⟩
  | cons f fields inductionHypothesis =>
      obtain ⟨fresh, distinct⟩ := List.nodup_cons.mp distinct
      have knownBehind := fun g behind => known g (List.mem_cons_of_mem f behind)
      have vacantBehind := fun g behind => vacant g (List.mem_cons_of_mem f behind)
      cases entry : written f with
      | none =>
          obtain ⟨last, read, contents⟩ := inductionHypothesis knownBehind distinct vacantBehind
          refine ⟨last, ?_, ?_⟩
          · rw [Written.members, List.filterMap_cons, entry]
            exact read
          · intro g
            by_cases same : g = f
            · subst same
              rw [contents, if_neg fresh, if_pos List.mem_cons_self, entry]
              exact vacant g List.mem_cons_self
            · simp [contents, same]
      | some pair =>
          rcases pair with ⟨j, x⟩
          have vacantNext : ∀ g ∈ fields, draft.set f x g = none := by
            intro g behind
            have different : g ≠ f := fun same => fresh (same ▸ behind)
            rw [Draft.set_of_ne draft different]
            exact vacantBehind g behind
          obtain ⟨last, read, contents⟩ := inductionHypothesis knownBehind distinct vacantNext
          refine ⟨last, ?_, ?_⟩
          · have open' : (draft f).isSome = false := by
              rw [vacant f List.mem_cons_self]
              rfl
            rw [Written.members, List.filterMap_cons, entry]
            simp only [Option.map_some, fieldsOfMembers, known f List.mem_cons_self, open',
              Bool.false_eq_true, if_false, reads f j x entry]
            exact read
          · intro g
            by_cases same : g = f
            · subst same
              rw [contents, if_neg fresh, if_pos List.mem_cons_self, entry, Draft.set_self]
              rfl
            · rw [contents, Draft.set_of_ne draft same]
              simp [same]

/-- What was written field by field is read for the same values. -/
theorem ofJson_members (written : record.Written)
    (reads : ∀ f j x, written f = some (j, x) → (record.format f).ofJson j = .ok x)
    (outside : ∀ f, f ∉ record.fields → written f = none)
    (keys : (record.fields.map record.key).Nodup) :
    record.ofJson (.object (written.members record.fields)) = record.build written.valueOf := by
  have distinct : record.fields.Nodup := keys.of_map
  obtain ⟨last, read, contents⟩ :=
    fieldsOfMembers_written reads (fun f membership => field?_key keys membership) distinct
      (show ∀ f ∈ record.fields, record.noFields f = none from fun f _ => rfl)
  have same : last = fun f => (written f).map Prod.snd := by
    funext f
    rw [contents]
    split
    · rfl
    · next absent =>
        rw [outside f absent]
        rfl
  have opened : record.ofJson (.object (written.members record.fields)) =
      record.fieldsOfMembers record.noFields (written.members record.fields) >>= record.finish :=
    rfl
  rw [opened, read, same]
  rfl

theorem ofJson_written (written : record.Written)
    (reads : ∀ f j x, written f = some (j, x) → (record.format f).ofJson j = .ok x)
    (all : ∀ f, f ∈ record.fields) (keys : (record.fields.map record.key).Nodup) :
    record.ofJson (.object (written.members record.fields)) = record.build written.valueOf :=
  ofJson_members written reads (fun f absent => absurd (all f) absent) keys

/-! ### Lists -/

/-- The documents of the given fields, without their keys. -/
def Written.values (written : record.Written) (fields : List F) : List Json :=
  fields.filterMap fun f => (written f).map Prod.fst

theorem fieldsInOrder_written {written : record.Written}
    (reads : ∀ f j x, written f = some (j, x) → (record.format f).ofJson j = .ok x)
    {fields : List F} (present : ∀ f ∈ fields, (written f).isSome) (distinct : fields.Nodup)
    (index : Nat) (draft : record.Draft) :
    ∃ last : record.Draft,
      record.fieldsInOrder fields index draft (written.values fields) = .ok (last, []) ∧
      ∀ f, last f = if f ∈ fields then (written f).map Prod.snd else draft f := by
  induction fields generalizing index draft with
  | nil => exact ⟨draft, rfl, fun f => rfl⟩
  | cons f fields inductionHypothesis =>
      obtain ⟨fresh, distinct⟩ := List.nodup_cons.mp distinct
      have presentBehind := fun g behind => present g (List.mem_cons_of_mem f behind)
      obtain ⟨⟨j, x⟩, entry⟩ := Option.isSome_iff_exists.mp (present f List.mem_cons_self)
      obtain ⟨last, read, contents⟩ :=
        inductionHypothesis presentBehind distinct (index + 1) (draft.set f x)
      refine ⟨last, ?_, ?_⟩
      · rw [Written.values, List.filterMap_cons, entry]
        simp only [Option.map_some, fieldsInOrder, reads f j x entry]
        exact read
      · intro g
        by_cases same : g = f
        · subst same
          rw [contents, if_neg fresh, if_pos List.mem_cons_self, entry, Draft.set_self]
          rfl
        · rw [contents, Draft.set_of_ne draft same]
          simp [same]

/-- What was written as a list of all fields is read for the same values. -/
theorem ofJson_values (written : record.Written)
    (reads : ∀ f j x, written f = some (j, x) → (record.format f).ofJson j = .ok x)
    (present : ∀ f, f ∈ record.fields ↔ (written f).isSome) (distinct : record.fields.Nodup) :
    record.ofJson (.array (written.values record.fields)) = record.build written.valueOf := by
  obtain ⟨last, read, contents⟩ := fieldsInOrder_written reads
    (fun f membership => (present f).mp membership) distinct 0 record.noFields
  have same : last = fun f => (written f).map Prod.snd := by
    funext f
    rw [contents]
    split
    · rfl
    · next absent =>
        rw [present, Bool.not_eq_true, Option.isSome_eq_false_iff, Option.isNone_iff_eq_none]
          at absent
        rw [absent]
        rfl
  have opened : record.ofJson (.array (written.values record.fields)) =
      (record.fieldsInOrder record.fields 0 record.noFields (written.values record.fields) >>=
        fun read => record.finish read.1 >>= fun x =>
          if read.2.isEmpty then .ok x
          else .error (.invalidLength (written.values record.fields).length
            record.expectedInSequence)) := rfl
  rw [opened, read, same]
  show (record.build written.valueOf >>= fun x => .ok x) = _
  cases record.build written.valueOf <;> rfl

end ShellBridge.Json.Record
