import Mathlib.Logic.Relation
import ShellBridge.Proofs.Json.Parts

/-!
Objects with their members rearranged.

The members of an object may change places, and foreign ones may join them.  A record takes each
field from the member with its key, so two members either stand for different fields, and may be
taken in any order, or for the same field, and are refused in any order.
-/

namespace ShellBridge.Json

variable {α β ε : Type}

/-- The text of an object turns into that of another one: with the members in another order, or with
one more that is foreign to them, such that it still reads as a value. -/
inductive Rearranges (Foreign : List (String × Json) → String → Prop) : Bytes → Bytes → Prop
  | permute {text text' : Bytes} {members others : List (String × Json)} :
      Spells text (.object members) → Spells text' (.object others) → members.Perm others →
        Rearranges Foreign text text'
  | insert {text text' : Bytes} {before behind : List (String × Json)} {key : String} {j : Json}
      {value : Value} :
      Spells text (.object (before ++ behind)) →
        Spells text' (.object (before ++ (key, j) :: behind)) →
        Foreign (before ++ behind) key → Value.parse text' = .ok value →
        Rearranges Foreign text text'

/-- The same is accepted of a text after any number of rearrangements. -/
def Unmoved (Foreign : List (String × Json) → String → Prop) (read : Bytes → Except ε α) : Prop :=
  ∀ text text', Relation.ReflTransGen (Rearranges Foreign) text text' →
    (read text').toOption = (read text).toOption

/-- What is accepted of the members of an object depends neither on their order nor on foreign ones
that keep the limit of nesting. -/
structure Orderless (Foreign : List (String × Json) → String → Prop)
    (accept : List (String × Json) → Option α) : Prop where
  perm : ∀ members others, members.Perm others → accept members = accept others
  foreign : ∀ members key j, Foreign members key →
    (Json.object ((key, j) :: members)).depth ≤ depthLimit →
    accept ((key, j) :: members) = accept members

theorem greatest_perm {need : α → Nat} {xs ys : List α} (perm : xs.Perm ys) :
    greatest need xs = greatest need ys := by
  apply Nat.le_antisymm <;> rw [greatest_le_iff] <;> intro x membership
  · exact le_greatest (perm.mem_iff.mp membership)
  · exact le_greatest (perm.mem_iff.mpr membership)

theorem depth_object_perm {members others : List (String × Json)} (perm : members.Perm others) :
    (Json.object members).depth = (Json.object others).depth := by
  rw [depth, depth, membersDepth_eq, membersDepth_eq, greatest_perm perm]

/-- The only member with a key stays the only one. -/
theorem only?_perm {key : String} {members others : List (String × Json)}
    (perm : members.Perm others) : only? key members = only? key others := by
  have kept := perm.filter fun member => member.1 == key
  cases found : only? key members with
  | some j =>
      rw [filter_of_only? found, List.singleton_perm] at kept
      exact (only?_of_filter kept.symm).symm
  | none =>
      cases found' : only? key others with
      | none => rfl
      | some j =>
          rw [filter_of_only? found', List.perm_singleton] at kept
          rw [only?_of_filter kept] at found
          cases found

theorem only?_cons_of_ne {key other : String} (different : other ≠ key) (j : Json)
    (members : List (String × Json)) : only? key ((other, j) :: members) = only? key members := by
  simp [only?, different]

/-- A text that reads as a value keeps the limit of nesting. -/
theorem Spells.depth_le_of_parse {text : Bytes} {j : Json} {value : Value}
    (spells : Spells text j) (accepted : Value.parse text = .ok value) : j.depth ≤ depthLimit := by
  have read := Format.value_agrees.parse_toOption spells
  have parsed : Format.value.parse text = .ok value := accepted
  by_contra deep
  rw [parsed, Format.accept, if_neg deep] at read
  cases read

namespace Orderless

variable {Foreign : List (String × Json) → String → Prop}
  {accept : List (String × Json) → Option α}

theorem bind (orderless : Orderless Foreign accept) (further : α → Option β) :
    Orderless Foreign fun members => (accept members).bind further where
  perm members others perm := by rw [orderless.perm members others perm]
  foreign members key j foreign fits := by rw [orderless.foreign members key j foreign fits]

section Readers

variable {read : Bytes → Except ε α}
  (reads : ∀ text members, Spells text (.object members) →
    (read text).toOption = accept members)
include reads

theorem toOption_of_rearranges (orderless : Orderless Foreign accept) {text text' : Bytes}
    (step : Rearranges Foreign text text') : (read text').toOption = (read text).toOption := by
  cases step with
  | @permute members others spells spells' perm =>
      rw [reads text' others spells', reads text members spells, orderless.perm members others perm]
  | @insert before behind key j value spells spells' foreign accepted =>
      have first : (before ++ (key, j) :: behind).Perm ((key, j) :: (before ++ behind)) :=
        List.perm_middle
      have fits := spells'.depth_le_of_parse accepted
      rw [depth_object_perm first] at fits
      rw [reads text' _ spells', reads text _ spells, orderless.perm _ _ first,
        orderless.foreign _ key j foreign fits]

/-- A reader that accepts of a text what is accepted of its members is not moved. -/
theorem unmoved (orderless : Orderless Foreign accept) : Unmoved Foreign read := by
  intro text text' steps
  induction steps with
  | refl => rfl
  | tail _ step inductionHypothesis =>
      exact (orderless.toOption_of_rearranges reads step).trans inductionHypothesis

end Readers

end Orderless

namespace Record

variable {F : Type} {record : Record F α}

/-- No field has the key. -/
def Foreign (record : Record F α) (key : String) : Prop :=
  key ∉ record.fields.map record.key

theorem Foreign.field?_eq_none {key : String} (foreign : record.Foreign key) :
    record.field? key = none := by
  rw [field?, List.find?_eq_none]
  intro f membership same
  exact foreign (List.mem_map.mpr ⟨f, membership, eq_of_beq same⟩)

variable [DecidableEq F]

theorem Draft.set_comm {f g : F} (different : f ≠ g) (draft : record.Draft) (x : record.Ty f)
    (y : record.Ty g) : (draft.set f x).set g y = (draft.set g y).set f x := by
  funext h
  by_cases first : h = f
  · subst first
    rw [set_of_ne _ different, set_self, set_self]
  · by_cases second : h = g
    · subst second
      rw [set_self, set_of_ne _ first, set_self]
    · rw [set_of_ne _ second, set_of_ne _ first, set_of_ne _ first, set_of_ne _ second]

/-- The draft with the field of one member. -/
def take? (record : Record F α) (draft : record.Draft) (member : String × Json) :
    Option record.Draft :=
  match record.field? member.1 with
  | some f =>
      if (draft f).isSome then none
      else ((record.format f).ofJson member.2).toOption.map (draft.set f)
  | none => some draft

theorem toOption_fieldsOfMembers_cons (draft : record.Draft) (member : String × Json)
    (rest : List (String × Json)) :
    (record.fieldsOfMembers draft (member :: rest)).toOption =
      (record.take? draft member).bind fun next => (record.fieldsOfMembers next rest).toOption := by
  rw [fieldsOfMembers, take?]
  cases record.field? member.1 with
  | none => rfl
  | some f =>
      by_cases again : (draft f).isSome
      · simp [again, toOption_error]
      · simp only [again, Bool.false_eq_true, if_false, toOption_bind]
        cases ((record.format f).ofJson member.2).toOption <;> rfl

/-- Two members are taken in any order, or refused in any order. -/
theorem take?_comm (draft : record.Draft) (first second : String × Json) :
    (record.take? draft first).bind (record.take? · second) =
      (record.take? draft second).bind (record.take? · first) := by
  cases taken : record.field? first.1 with
  | none => simp [take?, taken]
  | some f =>
      cases taken' : record.field? second.1 with
      | none => simp [take?, taken, taken']
      | some g =>
          simp only [take?, taken, taken']
          by_cases same : f = g
          · -- whichever comes second finds the field taken
            subst same
            cases ((record.format f).ofJson first.2).toOption <;>
              cases ((record.format f).ofJson second.2).toOption <;>
              by_cases again : (draft f).isSome <;> simp [again]
          · have left {x : record.Ty f} : draft.set f x g = draft g :=
              Draft.set_of_ne draft (Ne.symm same) x
            have right {y : record.Ty g} : draft.set g y f = draft f :=
              Draft.set_of_ne draft same y
            cases ((record.format f).ofJson first.2).toOption <;>
              cases ((record.format g).ofJson second.2).toOption <;>
              by_cases again : (draft f).isSome <;> by_cases again' : (draft g).isSome <;>
              simp [again, again', left, right, Draft.set_comm same]

theorem fieldsOfMembers_perm {members others : List (String × Json)} (perm : members.Perm others)
    (draft : record.Draft) :
    (record.fieldsOfMembers draft members).toOption =
      (record.fieldsOfMembers draft others).toOption := by
  induction perm generalizing draft with
  | nil => rfl
  | cons member _ inductionHypothesis =>
      simp only [toOption_fieldsOfMembers_cons, inductionHypothesis]
  | swap first second rest =>
      simp only [toOption_fieldsOfMembers_cons, ← Option.bind_assoc, take?_comm draft first second]
  | trans _ _ firstHypothesis secondHypothesis =>
      exact (firstHypothesis draft).trans (secondHypothesis draft)

theorem ofJson_perm {members others : List (String × Json)} (perm : members.Perm others) :
    (record.ofJson (.object members)).toOption = (record.ofJson (.object others)).toOption := by
  show (record.fieldsOfMembers _ members >>= _).toOption =
    (record.fieldsOfMembers _ others >>= _).toOption
  rw [toOption_bind, toOption_bind, fieldsOfMembers_perm perm]

theorem ofJson_cons_foreign {key : String} (foreign : record.Foreign key) (j : Json)
    (members : List (String × Json)) :
    record.ofJson (.object ((key, j) :: members)) = record.ofJson (.object members) := by
  show (record.fieldsOfMembers _ ((key, j) :: members) >>= _) =
    (record.fieldsOfMembers _ members >>= _)
  simp only [fieldsOfMembers, foreign.field?_eq_none]

/-- A record that has enough room for its fields is accepted of its members in any order. -/
theorem orderless (record : Record F α) (needs : F → Json → Nat) (room : Nat) :
    Orderless (fun _ => record.Foreign) fun members =>
      record.toFormat.accept (record.need needs) room (.object members) where
  perm members others perm := by
    have read : (record.toFormat.ofJson (.object members)).toOption =
        (record.toFormat.ofJson (.object others)).toOption := ofJson_perm perm
    rw [Format.accept, Format.accept, need, need, greatest_perm perm, read]
  foreign members key j foreign _ := by
    have read : record.toFormat.ofJson (.object ((key, j) :: members)) =
        record.toFormat.ofJson (.object members) := ofJson_cons_foreign foreign j members
    have nothing : record.memberNeed needs (key, j) = 0 := by
      simp only [memberNeed, foreign.field?_eq_none]
    rw [Format.accept, Format.accept, need, need, greatest_cons, nothing, Nat.zero_max, read]

end Record

end ShellBridge.Json
