import Mathlib.Data.List.Forall2
import ShellBridge.Proofs.Json.Parts

/-!
What a record accepts.

A record is accepted of an object just if each of its fields is given: by the only member with its
key, or, where it may be left out, by the lack of such members.  Members that no field takes do not
matter.  Where no field may be left out, the parts of a list may stand for the members.
-/

namespace ShellBridge.Json

/-- An object, or a list with so many items. -/
def HasParts (count : Nat) : Json → Prop
  | .object _ => True
  | .array items => items.length = count
  | _ => False

theorem Format.listOfJson_eq_ok_iff {α : Type} {format : Format α} {items : List Json}
    {xs : List α} :
    listOfJson format items = .ok xs ↔
      List.Forall₂ (fun j x => format.ofJson j = .ok x) items xs := by
  induction items generalizing xs with
  | nil => simp [listOfJson, eq_comm]
  | cons j rest inductionHypothesis =>
      constructor
      · intro read
        obtain ⟨x, one, read⟩ := bind_eq_ok read
        obtain ⟨others, behind, read⟩ := bind_eq_ok read
        cases read
        exact .cons one (inductionHypothesis.mp behind)
      · rintro (_ | ⟨one, behind⟩)
        rw [listOfJson, one, inductionHypothesis.mpr behind]
        rfl

namespace Record

variable {F α : Type} {record : Record F α}

/-- The members give the field this value. -/
def Gives (record : Record F α) (members : List (String × Json)) (f : F) (x : record.Ty f) : Prop :=
  (∃ j, only? (record.key f) members = some j ∧ (record.format f).ofJson j = .ok x) ∨
    (record.absent f = some x ∧ ∀ member ∈ members, member.1 ≠ record.key f)

/-- What is built consists of the given values of all fields, and their keys are different. -/
structure Strict (record : Record F α) (value : α → (f : F) → record.Ty f) : Prop where
  complete : ∀ f, f ∈ record.fields
  keys : (record.fields.map record.key).Nodup
  builds : ∀ get x, record.build get = .ok x ↔ ∀ f, get f = .ok (value x f)

variable {value : α → (f : F) → record.Ty f}

theorem Strict.field? (strict : record.Strict value) (f : F) :
    record.field? (record.key f) = some f :=
  field?_key strict.keys (strict.complete f)

variable [DecidableEq F]

theorem filter_eq_nil_iff {key : String} {members : List (String × Json)} :
    (members.filter fun member => member.1 == key) = [] ↔ ∀ member ∈ members, member.1 ≠ key := by
  simp [List.filter_eq_nil_iff]

/-- The fields of an object are those of its members. -/
theorem fieldsOfMembers_of_forall (known : ∀ f, record.field? (record.key f) = some f)
    {draft last : record.Draft} {members : List (String × Json)}
    (given : ∀ f,
      ((members.filter fun member => member.1 == record.key f) = [] ∧ last f = draft f) ∨
        (draft f = none ∧ ∃ j x, (members.filter fun member => member.1 == record.key f) =
          [(record.key f, j)] ∧ (record.format f).ofJson j = .ok x ∧ last f = some x)) :
    record.fieldsOfMembers draft members = .ok last := by
  induction members generalizing draft with
  | nil =>
      have same : last = draft := by
        funext f
        rcases given f with ⟨_, same⟩ | ⟨_, j, x, taken, _⟩
        · exact same
        · cases taken
      rw [same, fieldsOfMembers]
  | cons member rest inductionHypothesis =>
      rcases member with ⟨key, j⟩
      rw [fieldsOfMembers]
      cases taken : record.field? key with
      | none =>
          apply inductionHypothesis
          intro f
          have different : key ≠ record.key f := by
            rintro rfl
            rw [known f] at taken
            cases taken
          simpa [different] using given f
      | some g =>
          have same : record.key g = key := by simpa using List.find?_some taken
          subst same
          rcases given g with ⟨impossible, _⟩ | ⟨vacant, j', x, only, one, entry⟩
          · simp at impossible
          · rw [List.filter_cons_of_pos (by simp)] at only
            obtain ⟨first, noOther⟩ := List.cons.inj only
            cases first
            simp only [vacant, Option.isSome_none, Bool.false_eq_true, if_false, one]
            apply inductionHypothesis
            intro f
            by_cases here : f = g
            · subst here
              exact .inl ⟨noOther, by rw [entry, Draft.set_self]⟩
            · have different : record.key g ≠ record.key f := by
                intro same
                have found := known g
                rw [same, known f] at found
                exact here (Option.some.inj found)
              rw [Draft.set_of_ne draft here]
              simpa [different] using given f

/-- A record is accepted of an object just if its members give all fields. -/
theorem Strict.ofJson_object_iff (strict : record.Strict value) {members : List (String × Json)}
    {x : α} :
    record.ofJson (.object members) = .ok x ↔ ∀ f, record.Gives members f (value x f) := by
  constructor
  · intro accepted f
    obtain ⟨draft, read, finished⟩ := bind_eq_ok accepted
    have got := (strict.builds _ _).mp finished f
    rw [valueOf] at got
    rcases fieldsOfMembers_cases (strict.field? f) read with
      ⟨missing, vacant⟩ | ⟨_, j, y, taken, one, entry⟩
    · rw [vacant, noFields] at got
      refine .inr ⟨?_, filter_eq_nil_iff.mp missing⟩
      cases absent : record.absent f with
      | none =>
          rw [absent] at got
          cases got
      | some y =>
          rw [absent] at got
          cases got
          rfl
    · rw [entry] at got
      cases got
      exact .inl ⟨j, only?_of_filter taken, one⟩
  · intro given
    let draft : record.Draft := fun f =>
      if (members.filter fun member => member.1 == record.key f) = [] then none
      else some (value x f)
    have read : record.fieldsOfMembers record.noFields members = .ok draft := by
      apply fieldsOfMembers_of_forall strict.field?
      intro f
      rcases given f with ⟨j, only, one⟩ | ⟨_, missing⟩
      · have taken := filter_of_only? only
        exact .inr ⟨rfl, j, value x f, taken, one, by simp [draft, taken]⟩
      · have none := filter_eq_nil_iff.mpr missing
        exact .inl ⟨none, by simp [draft, none, noFields]⟩
    have finished : record.finish draft = .ok x := by
      apply (strict.builds _ _).mpr
      intro f
      rw [valueOf]
      rcases given f with ⟨j, only, _⟩ | ⟨absent, missing⟩
      · simp [draft, filter_of_only? only]
      · simp [draft, filter_eq_nil_iff.mpr missing, absent]
    show (record.fieldsOfMembers record.noFields members >>= record.finish) = .ok x
    rw [read]
    exact finished

theorem fieldsInOrder_of_forall (values : (f : F) → record.Ty f) {fs : List F} {items : List Json}
    (given : ∀ (place : Nat) (f : F), fs[place]? = some f →
      ∃ j, items[place]? = some j ∧ (record.format f).ofJson j = .ok (values f))
    (index : Nat) (draft : record.Draft) :
    ∃ last, record.fieldsInOrder fs index draft items = .ok (last, items.drop fs.length) ∧
      ∀ f, f ∈ fs ∨ draft f = some (values f) → last f = some (values f) := by
  induction fs generalizing index draft items with
  | nil =>
      refine ⟨draft, rfl, ?_⟩
      intro f before
      exact before.resolve_left List.not_mem_nil
  | cons g fs inductionHypothesis =>
      obtain ⟨j, first, one⟩ := given 0 g rfl
      cases items with
      | nil => cases first
      | cons item rest =>
          cases first
          have others : ∀ (place : Nat) (f : F), fs[place]? = some f → ∃ j, rest[place]? = some j ∧
              (record.format f).ofJson j = .ok (values f) :=
            fun place f found => given (place + 1) f found
          obtain ⟨last, read, entries⟩ :=
            inductionHypothesis others (index + 1) (draft.set g (values g))
          refine ⟨last, ?_, ?_⟩
          · rw [fieldsInOrder, one]
            exact read
          · intro f before
            apply entries
            by_cases here : f = g
            · subst here
              exact .inr (Draft.set_self draft f (values f))
            · rw [Draft.set_of_ne draft here]
              refine before.imp_left fun membership => ?_
              exact (List.mem_cons.mp membership).resolve_left here

/-- A record all of whose fields are mandatory is accepted of a list just if its items give the
fields in their order and none is left over. -/
theorem Strict.ofJson_array_iff (strict : record.Strict value)
    (mandatory : ∀ f, record.absent f = none) {items : List Json} {x : α} :
    record.ofJson (.array items) = .ok x ↔
      items.length = record.fields.length ∧
        ∀ (place : Nat) (f : F), record.fields[place]? = some f →
          ∃ j, items[place]? = some j ∧ (record.format f).ofJson j = .ok (value x f) := by
  have opened : record.ofJson (.array items) = _ := ofJson_array items
  constructor
  · intro accepted
    rw [opened] at accepted
    obtain ⟨⟨draft, left⟩, read, accepted⟩ := bind_eq_ok accepted
    obtain ⟨y, finished, accepted⟩ := bind_eq_ok accepted
    split_ifs at accepted with nothing
    cases accepted
    have taken := (fieldsInOrder_getElem? strict.keys.of_map read).2
    have given : ∀ (place : Nat) (f : F), record.fields[place]? = some f →
        ∃ j, items[place]? = some j ∧ (record.format f).ofJson j = .ok (value x f) := by
      intro place f found
      obtain ⟨j, y, item, one, entry⟩ := taken place f found (mandatory f)
      have got := (strict.builds _ _).mp finished f
      rw [valueOf, entry] at got
      cases got
      exact ⟨j, item, one⟩
    refine ⟨Nat.le_antisymm ?_ ?_, given⟩
    · have few := isEmpty_of_fieldsInOrder read
      rw [nothing] at few
      exact of_decide_eq_true few.symm
    · by_contra short
      have inside := Nat.lt_of_not_le short
      obtain ⟨j, item, _⟩ := given items.length _ (List.getElem?_eq_getElem inside)
      rw [List.getElem?_eq_none (Nat.le_refl _)] at item
      cases item
  · rintro ⟨same, given⟩
    obtain ⟨draft, read, entries⟩ :=
      fieldsInOrder_of_forall (value x) given 0 record.noFields
    have finished : record.finish draft = .ok x := by
      apply (strict.builds _ _).mpr
      intro f
      rw [valueOf, entries f (.inl (strict.complete f))]
    have nothing : (items.drop record.fields.length).isEmpty = true := by simp [same]
    rw [opened, read]
    show (record.finish draft >>= fun x => _) = _
    rw [finished]
    exact if_pos nothing

/-- A record all of whose fields are mandatory is accepted of a document just if its parts give the
fields, under their keys in an object, or at their places in a list. -/
theorem Strict.ofJson_iff (strict : record.Strict value) (mandatory : ∀ f, record.absent f = none)
    {j : Json} {x : α} :
    record.ofJson j = .ok x ↔
      j.HasParts record.fields.length ∧
        ∀ f, ∃ part, j.part? (record.key f) (record.fields.idxOf f) = some part ∧
          (record.format f).ofJson part = .ok (value x f) := by
  cases j with
  | object members =>
      rw [strict.ofJson_object_iff]
      constructor
      · intro given
        refine ⟨trivial, ?_⟩
        intro f
        rcases given f with one | ⟨absent, _⟩
        · exact one
        · rw [mandatory f] at absent
          cases absent
      · rintro ⟨_, given⟩ f
        exact .inl (given f)
  | array items =>
      rw [strict.ofJson_array_iff mandatory]
      constructor
      · rintro ⟨length, given⟩
        refine ⟨length, ?_⟩
        intro f
        exact given _ f (List.getElem?_idxOf (strict.complete f))
      · rintro ⟨length, given⟩
        refine ⟨length, ?_⟩
        intro place f found
        obtain ⟨inside, rfl⟩ := List.getElem?_eq_some_iff.mp found
        have given := given record.fields[place]
        rw [strict.keys.of_map.idxOf_getElem place inside] at given
        exact given
  | null | bool b | number n | string s =>
      constructor
      · intro accepted
        cases accepted
      · rintro ⟨impossible, _⟩
        exact impossible.elim

end Record

end ShellBridge.Json
