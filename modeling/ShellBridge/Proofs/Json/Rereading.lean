import ShellBridge.Proofs.Json.Floats
import ShellBridge.Proofs.Json.Formats
import ShellBridge.Proofs.Json.Members

/-!
Documents with floats, written and read again.

The compact text of a document with finite floats reads back as the document with its floats read
again, and with everything else as it was.
-/

namespace ShellBridge.Json

open Scan

mutual

/-- Every float of the document is a finite binary64 number. -/
def Finite : Json → Prop
  | .array items => ItemsFinite items
  | .object members => MembersFinite members
  | .number (.float x) => x.IsFinite
  | .null | .bool _ | .number (.int _) | .string _ => True

def ItemsFinite : List Json → Prop
  | [] => True
  | item :: rest => item.Finite ∧ ItemsFinite rest

def MembersFinite : List (String × Json) → Prop
  | [] => True
  | (_, value) :: rest => value.Finite ∧ MembersFinite rest

end

mutual

/-- The document with its floats read again. -/
def reread : Json → Json
  | .array items => .array (rereadItems items)
  | .object members => .object (rereadMembers members)
  | .number (.float x) => .number (.float (Numeral.reread x))
  | .number (.int i) => .number (.int i)
  | .null => .null
  | .bool b => .bool b
  | .string s => .string s

def rereadItems : List Json → List Json
  | [] => []
  | item :: rest => item.reread :: rereadItems rest

def rereadMembers : List (String × Json) → List (String × Json)
  | [] => []
  | (key, value) :: rest => (key, value.reread) :: rereadMembers rest

end

theorem membersFinite_iff {members : List (String × Json)} :
    MembersFinite members ↔ ∀ member ∈ members, member.2.Finite := by
  induction members with
  | nil => simp [MembersFinite]
  | cons member rest inductionHypothesis => simp [MembersFinite, inductionHypothesis]

theorem rereadMembers_eq (members : List (String × Json)) :
    rereadMembers members = members.map fun member => (member.1, member.2.reread) := by
  induction members with
  | nil => rfl
  | cons member rest inductionHypothesis => rw [rereadMembers, inductionHypothesis, List.map_cons]

theorem lookup_rereadMembers (key : String) (members : List (String × Json)) :
    (rereadMembers members).lookup key = (members.lookup key).map reread := by
  induction members with
  | nil => rfl
  | cons member rest inductionHypothesis =>
      rcases member with ⟨other, value⟩
      rw [rereadMembers, lookup_cons_eq, lookup_cons_eq, inductionHypothesis]
      split <;> rfl

mutual

theorem depth_reread : (j : Json) → j.reread.depth = j.depth
  | .null | .bool _ | .number (.int _) | .number (.float _) | .string _ => rfl
  | .array items => congrArg (· + 1) (itemsDepth_reread items)
  | .object members => congrArg (· + 1) (membersDepth_reread members)

theorem itemsDepth_reread : (items : List Json) → itemsDepth (rereadItems items) = itemsDepth items
  | [] => rfl
  | item :: rest => by
      rw [rereadItems, itemsDepth, itemsDepth, depth_reread item, itemsDepth_reread rest]

theorem membersDepth_reread : (members : List (String × Json)) →
    membersDepth (rereadMembers members) = membersDepth members
  | [] => rfl
  | (key, value) :: rest => by
      rw [rereadMembers, membersDepth, membersDepth, depth_reread value, membersDepth_reread rest]

end

mutual

theorem isCanonical_reread : (j : Json) → j.IsCanonical → j.reread.IsCanonical
  | .null, _ | .bool _, _ | .number (.int _), _ | .number (.float _), _ | .string _, _ => trivial
  | .array items, canonical => allCanonical_rereadItems items canonical
  | .object members, canonical => membersCanonical_rereadMembers members canonical

theorem allCanonical_rereadItems : (items : List Json) → AllCanonical items →
    AllCanonical (rereadItems items)
  | [], _ => trivial
  | item :: rest, canonical =>
      ⟨isCanonical_reread item canonical.1, allCanonical_rereadItems rest canonical.2⟩

theorem membersCanonical_rereadMembers : (members : List (String × Json)) →
    MembersCanonical members → MembersCanonical (rereadMembers members)
  | [], _ => trivial
  | (key, value) :: rest, canonical => by
      refine ⟨isCanonical_reread value canonical.1, ?_,
        membersCanonical_rereadMembers rest canonical.2.2⟩
      intro member membership
      rw [rereadMembers_eq] at membership
      obtain ⟨former, inside, rfl⟩ := List.mem_map.mp membership
      exact canonical.2.1 former inside

end

theorem reread_eq_null_iff {j : Json} : j.reread = .null ↔ j = .null := by
  cases j with
  | number n => cases n <;> simp [reread]
  | null | bool b | string s | array items | object members => simp [reread]

theorem reread_eq_string_iff {j : Json} {s : String} : j.reread = .string s ↔ j = .string s := by
  cases j with
  | number n => cases n <;> simp [reread]
  | null | bool b | string s' | array items | object members => simp [reread]

/-! ### The compact text -/

theorem ends_itemsBytes (items : List Json) (rest : Bytes) :
    Numeral.Ends (itemsBytes items ++ rest) := by
  cases items with
  | nil => exact ends_of_mark (by decide) _
  | cons item items => exact ends_of_mark (by decide) _

theorem ends_membersBytes (members : List (String × Json)) (rest : Bytes) :
    Numeral.Ends (membersBytes members ++ rest) := by
  cases members with
  | nil => exact ends_of_mark (by decide) _
  | cons member members => exact ends_of_mark (by decide) _

theorem length_lt_itemsBytes (items : List Json) : items.length < (itemsBytes items).length := by
  induction items with
  | nil => decide
  | cons item rest inductionHypothesis =>
      rw [itemsBytes_cons, List.length_cons, List.length_cons, List.length_append]
      omega

theorem length_lt_membersBytes (members : List (String × Json)) :
    members.length < (membersBytes members).length := by
  induction members with
  | nil => decide
  | cons member rest inductionHypothesis =>
      rw [membersBytes_cons, List.length_cons, List.length_cons, List.length_append]
      omega

theorem document_float {x : Binary64} (finite : x.IsFinite) (room : Nat) {rest : Bytes}
    (ends : Numeral.Ends rest) :
    document room (bytes (.number (.float x)) ++ rest) =
      .ok (.number (.float (Numeral.reread x)), rest) := by
  obtain ⟨nested, equality⟩ := document_eq_readWith room
  obtain ⟨⟨b, tail, written, sign⟩, _⟩ := Numeral.exists_read_float finite
  have read := Numeral.read_float finite ends
  have same : bytes (.number (.float x)) = Utf8.encode (Number.float x).chars := rfl
  rw [written, List.cons_append] at read
  rw [same, equality, written, List.cons_append, readWith_number nested _ sign, read]
  rfl

mutual

/-- The compact text of a document reads back, up to its floats. -/
theorem document_bytes : (j : Json) → j.Finite → ∀ {room : Nat} {rest : Bytes}, j.depth ≤ room →
    Numeral.Ends rest → document room (bytes j ++ rest) = .ok (j.reread, rest)
  | .null, _, _, _, enough, ends => Layout.null.document_eq enough ends
  | .bool b, _, _, _, enough, ends => (Layout.bool b).document_eq enough ends
  | .number (.int i), _, _, _, enough, ends => (Layout.int i).document_eq enough ends
  | .number (.float _), finite, room, _, _, ends => document_float finite room ends
  | .string s, _, _, _, enough, ends => (Layout.string s).document_eq enough ends
  | .array [], _, _, _, enough, ends => (Layout.empty .nil).document_eq enough ends
  | .object [], _, _, _, enough, ends => (Layout.emptyObject .nil).document_eq enough ends
  | .array (item :: items), finite, room, rest, enough, _ => by
      cases room with
      | zero => cases enough
      | succ room =>
          have fits := Nat.max_le.mp (Nat.le_of_succ_le_succ enough)
          rw [bytes_array]
          exact document_list (document_bytes item finite.1 fits.1 (ends_itemsBytes items rest))
            (readItems_itemsBytes items finite.2 fits.2)
            (length_lt_itemsBytes items)
  | .object ((key, value) :: members), finite, room, rest, enough, _ => by
      cases room with
      | zero => cases enough
      | succ room =>
          have fits := Nat.max_le.mp (Nat.le_of_succ_le_succ enough)
          obtain ⟨tail, skipped, string⟩ :=
            opens_key key (0x3A :: (bytes value ++ (membersBytes members ++ rest)))
          rw [bytes_object]
          refine document_object ?_ string
            (document_bytes value finite.1 fits.1 (ends_membersBytes members rest))
            (readMembers_membersBytes members finite.2 fits.2) (length_lt_membersBytes members)
          rw [List.append_assoc, List.cons_append]
          exact skipped

theorem readItems_itemsBytes : (items : List Json) → ItemsFinite items →
    ∀ {room budget : Nat} {rest : Bytes}, itemsDepth items ≤ room → items.length ≤ budget →
      readItems (document room) (budget + 1) false (itemsBytes items ++ rest) =
        .ok (rereadItems items, rest)
  | [], _, _, _, _, _, _ => rfl
  | item :: items, finite, room, budget, rest, enough, long => by
      have fits := Nat.max_le.mp enough
      cases budget with
      | zero => cases long
      | succ budget =>
          rw [itemsBytes_cons]
          exact readItems_next (document_bytes item finite.1 fits.1 (ends_itemsBytes items rest))
            (readItems_itemsBytes items finite.2 fits.2 (Nat.le_of_succ_le_succ long))

theorem readMembers_membersBytes : (members : List (String × Json)) → MembersFinite members →
    ∀ {room budget : Nat} {rest : Bytes}, membersDepth members ≤ room →
      members.length ≤ budget →
      readMembers (document room) (budget + 1) false (membersBytes members ++ rest) =
        .ok (rereadMembers members, rest)
  | [], _, _, _, _, _, _ => rfl
  | (key, value) :: members, finite, room, budget, rest, enough, long => by
      have fits := Nat.max_le.mp enough
      obtain ⟨tail, skipped, string⟩ :=
        opens_key key (0x3A :: (bytes value ++ (membersBytes members ++ rest)))
      cases budget with
      | zero => cases long
      | succ budget =>
          rw [membersBytes_cons]
          refine readMembers_next ?_ string
            (document_bytes value finite.1 fits.1 (ends_membersBytes members rest))
            (readMembers_membersBytes members finite.2 fits.2 (Nat.le_of_succ_le_succ long))
          rw [List.append_assoc, List.cons_append]
          exact skipped

end

/-- The compact text of a document with finite floats is that of the document, up to its floats. -/
theorem spells_reread {j : Json} (finite : j.Finite) : Spells j.bytes j.reread := by
  have read := document_bytes j finite (Nat.le_refl j.depth) Numeral.ends_nil
  rw [List.append_nil] at read
  exact ⟨j.depth, [], read, rfl⟩

end ShellBridge.Json
