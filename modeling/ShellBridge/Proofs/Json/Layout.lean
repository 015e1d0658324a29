import ShellBridge.Proofs.Json.Numerals
import ShellBridge.Proofs.Json.Steps
import ShellBridge.Proofs.Json.Strings

/-!
Texts of a document.

A layout of a document writes its tokens in order, with any blanks in front of them.  A reader with
room enough reads the document back from each of its layouts.  The compact text is a layout of every
document without floats.
-/

namespace ShellBridge.Json

mutual

/-- The number of lists and objects that a document opens inside each other. -/
def depth : Json → Nat
  | .array items => itemsDepth items + 1
  | .object members => membersDepth members + 1
  | .null | .bool _ | .number _ | .string _ => 0

def itemsDepth : List Json → Nat
  | [] => 0
  | item :: rest => max item.depth (itemsDepth rest)

def membersDepth : List (String × Json) → Nat
  | [] => 0
  | (_, value) :: rest => max value.depth (membersDepth rest)

end

mutual

/-- No number of the document is a float. -/
def FloatFree : Json → Prop
  | .array items => ItemsFloatFree items
  | .object members => MembersFloatFree members
  | .number (.float _) => False
  | .null | .bool _ | .number (.int _) | .string _ => True

def ItemsFloatFree : List Json → Prop
  | [] => True
  | item :: rest => item.FloatFree ∧ ItemsFloatFree rest

def MembersFloatFree : List (String × Json) → Prop
  | [] => True
  | (_, value) :: rest => value.FloatFree ∧ MembersFloatFree rest

end

/-- The greatest need of a list. -/
def greatest {α : Type} (need : α → Nat) (xs : List α) : Nat :=
  xs.foldr (fun x n => max (need x) n) 0

section Greatest

variable {α : Type} {need : α → Nat}

@[simp] theorem greatest_nil : greatest need [] = 0 := rfl

@[simp] theorem greatest_cons (x : α) (xs : List α) :
    greatest need (x :: xs) = max (need x) (greatest need xs) := rfl

theorem greatest_le_iff {xs : List α} {n : Nat} :
    greatest need xs ≤ n ↔ ∀ x ∈ xs, need x ≤ n := by
  induction xs with
  | nil => simp
  | cons x xs inductionHypothesis =>
      rw [greatest_cons, Nat.max_le, inductionHypothesis, List.forall_mem_cons]

theorem le_greatest {xs : List α} {x : α} (membership : x ∈ xs) : need x ≤ greatest need xs :=
  greatest_le_iff.mp (Nat.le_refl _) x membership

theorem greatest_append (xs ys : List α) :
    greatest need (xs ++ ys) = max (greatest need xs) (greatest need ys) := by
  induction xs with
  | nil => simp
  | cons x xs inductionHypothesis => simp [inductionHypothesis, Nat.max_assoc]

theorem greatest_congr {need' : α → Nat} {xs : List α} (same : ∀ x ∈ xs, need x = need' x) :
    greatest need xs = greatest need' xs := by
  induction xs with
  | nil => rfl
  | cons x xs inductionHypothesis =>
      rw [greatest_cons, greatest_cons, same x List.mem_cons_self, inductionHypothesis]
      intro y behind
      exact same y (List.mem_cons_of_mem x behind)

end Greatest

theorem itemsDepth_eq (items : List Json) : itemsDepth items = greatest depth items := by
  induction items with
  | nil => rfl
  | cons item rest inductionHypothesis => rw [itemsDepth, inductionHypothesis, greatest_cons]

theorem membersDepth_eq (members : List (String × Json)) :
    membersDepth members = greatest (fun member => member.2.depth) members := by
  induction members with
  | nil => rfl
  | cons member rest inductionHypothesis => rw [membersDepth, inductionHypothesis, greatest_cons]

theorem itemsDepth_le_iff {items : List Json} {n : Nat} :
    itemsDepth items ≤ n ↔ ∀ item ∈ items, item.depth ≤ n := by
  rw [itemsDepth_eq, greatest_le_iff]

theorem membersDepth_le_iff {members : List (String × Json)} {n : Nat} :
    membersDepth members ≤ n ↔ ∀ member ∈ members, member.2.depth ≤ n := by
  rw [membersDepth_eq, greatest_le_iff]

theorem depth_le_of_mem_items {item : Json} {items : List Json} (membership : item ∈ items) :
    item.depth ≤ itemsDepth items :=
  itemsDepth_le_iff.mp (Nat.le_refl _) item membership

theorem depth_le_of_mem {member : String × Json} {members : List (String × Json)}
    (membership : member ∈ members) : member.2.depth ≤ membersDepth members :=
  membersDepth_le_iff.mp (Nat.le_refl _) member membership

theorem membersDepth_append (members more : List (String × Json)) :
    membersDepth (members ++ more) = max (membersDepth members) (membersDepth more) := by
  simp only [membersDepth_eq, greatest_append]

theorem itemsFloatFree_iff {items : List Json} :
    ItemsFloatFree items ↔ ∀ item ∈ items, item.FloatFree := by
  induction items with
  | nil => simp [ItemsFloatFree]
  | cons item rest inductionHypothesis => simp [ItemsFloatFree, inductionHypothesis]

theorem membersFloatFree_iff {members : List (String × Json)} :
    MembersFloatFree members ↔ ∀ member ∈ members, member.2.FloatFree := by
  induction members with
  | nil => simp [MembersFloatFree]
  | cons member rest inductionHypothesis => simp [MembersFloatFree, inductionHypothesis]

theorem membersFloatFree_append {members more : List (String × Json)} :
    MembersFloatFree (members ++ more) ↔ MembersFloatFree members ∧ MembersFloatFree more := by
  simp only [membersFloatFree_iff, List.mem_append, or_imp, forall_and]

open Scan

mutual

/-- The text is a layout of the document. -/
inductive Layout : Json → Bytes → Prop
  | blank {b : UInt8} {j : Json} {text : Bytes} :
      isBlank b = true → Layout j text → Layout j (b :: text)
  | null : Layout .null (bytes .null)
  | bool (b : Bool) : Layout (.bool b) (bytes (.bool b))
  | int (i : Integer) : Layout (.number (.int i)) (bytes (.number (.int i)))
  | string (s : String) : Layout (.string s) (bytes (.string s))
  | empty {text : Bytes} : ItemsLayout [] text → Layout (.array []) (0x5B :: text)
  | array {item : Json} {rest : List Json} {text more : Bytes} :
      Layout item text → ItemsLayout rest more →
        Layout (.array (item :: rest)) (0x5B :: (text ++ more))
  | emptyObject {text : Bytes} : MembersLayout [] text → Layout (.object []) (0x7B :: text)
  | object {member : String × Json} {rest : List (String × Json)} {text more : Bytes} :
      MemberLayout member text → MembersLayout rest more →
        Layout (.object (member :: rest)) (0x7B :: (text ++ more))

/-- The items behind the first one, and the closing bracket. -/
inductive ItemsLayout : List Json → Bytes → Prop
  | blank {b : UInt8} {items : List Json} {text : Bytes} :
      isBlank b = true → ItemsLayout items text → ItemsLayout items (b :: text)
  | nil : ItemsLayout [] [0x5D]
  | cons {item : Json} {rest : List Json} {text more : Bytes} :
      Layout item text → ItemsLayout rest more →
        ItemsLayout (item :: rest) (0x2C :: (text ++ more))

/-- A key, a colon and a value. -/
inductive MemberLayout : String × Json → Bytes → Prop
  | blank {b : UInt8} {member : String × Json} {text : Bytes} :
      isBlank b = true → MemberLayout member text → MemberLayout member (b :: text)
  | member {key : String} {value : Json} {text : Bytes} :
      Layout value text → MemberLayout (key, value) (bytes (.string key) ++ 0x3A :: text)

/-- The members behind the first one, and the closing bracket. -/
inductive MembersLayout : List (String × Json) → Bytes → Prop
  | blank {b : UInt8} {members : List (String × Json)} {text : Bytes} :
      isBlank b = true → MembersLayout members text → MembersLayout members (b :: text)
  | nil : MembersLayout [] [0x7D]
  | cons {member : String × Json} {rest : List (String × Json)} {text more : Bytes} :
      MemberLayout member text → MembersLayout rest more →
        MembersLayout (member :: rest) (0x2C :: (text ++ more))

end

/-! ### The compact text -/

theorem bytes_string (s : String) :
    bytes (.string s) = 0x22 :: (Utf8.encode (s.toList.flatMap escapeChar) ++ [0x22]) := by
  simp only [bytes, chars, stringChars, Utf8.encode_cons, Utf8.encode_append, Utf8.encode_nil]
  rfl

/-- The items behind the first one in writing. -/
def itemsBytes (items : List Json) : Bytes :=
  Utf8.encode (itemsChars items)

/-- The members behind the first one in writing. -/
def membersBytes (members : List (String × Json)) : Bytes :=
  Utf8.encode (membersChars members)

theorem itemsBytes_cons (item : Json) (rest : List Json) :
    itemsBytes (item :: rest) = 0x2C :: (bytes item ++ itemsBytes rest) := by
  simp only [itemsBytes, bytes, itemsChars, Utf8.encode_cons, Utf8.encode_append]
  rfl

theorem membersBytes_cons (key : String) (value : Json) (rest : List (String × Json)) :
    membersBytes ((key, value) :: rest) =
      0x2C :: ((bytes (.string key) ++ 0x3A :: bytes value) ++ membersBytes rest) := by
  simp only [membersBytes, bytes, chars, membersChars, Utf8.encode_cons, Utf8.encode_append,
    List.append_assoc]
  rfl

theorem bytes_array (item : Json) (rest : List Json) :
    bytes (.array (item :: rest)) = 0x5B :: (bytes item ++ itemsBytes rest) := by
  simp only [itemsBytes, bytes, chars, Utf8.encode_cons, Utf8.encode_append]
  rfl

theorem bytes_object (key : String) (value : Json) (rest : List (String × Json)) :
    bytes (.object ((key, value) :: rest)) =
      0x7B :: ((bytes (.string key) ++ 0x3A :: bytes value) ++ membersBytes rest) := by
  simp only [membersBytes, bytes, chars, Utf8.encode_cons, Utf8.encode_append, List.append_assoc]
  rfl

mutual

theorem layout_bytes : (j : Json) → j.FloatFree → Layout j (bytes j)
  | .null, _ => .null
  | .bool b, _ => .bool b
  | .number (.int i), _ => .int i
  | .string s, _ => .string s
  | .array [], _ => .empty .nil
  | .array (item :: rest), plain => by
      rw [bytes_array]
      exact .array (layout_bytes item plain.1) (layout_items rest plain.2)
  | .object [], _ => .emptyObject .nil
  | .object ((key, value) :: rest), plain => by
      rw [bytes_object]
      exact .object (.member (layout_bytes value plain.1)) (layout_members rest plain.2)

theorem layout_items : (items : List Json) → ItemsFloatFree items →
    ItemsLayout items (itemsBytes items)
  | [], _ => .nil
  | item :: rest, plain => by
      rw [itemsBytes_cons]
      exact .cons (layout_bytes item plain.1) (layout_items rest plain.2)

theorem layout_members : (members : List (String × Json)) → MembersFloatFree members →
    MembersLayout members (membersBytes members)
  | [], _ => .nil
  | (key, value) :: rest, plain => by
      rw [membersBytes_cons]
      exact .cons (.member (layout_bytes value plain.1)) (layout_members rest plain.2)

end

/-! ### Reading a layout -/

theorem ends_of_blank {b : UInt8} (blank : isBlank b = true) (rest : Bytes) :
    Numeral.Ends (b :: rest) := by
  intro c membership
  obtain rfl : b = c := Option.some.inj membership
  refine ⟨?_, ?_, ?_, ?_⟩
  · cases digit : isDigit b with
    | false => rfl
    | true =>
        rw [not_isBlank_of_isDigit digit] at blank
        cases blank
  all_goals
    rintro rfl
    exact absurd blank (by decide)

theorem ends_of_mark {b : UInt8} (mark : b = 0x2C ∨ b = 0x5D ∨ b = 0x7D) (rest : Bytes) :
    Numeral.Ends (b :: rest) := by
  intro c membership
  obtain rfl : b = c := Option.some.inj membership
  rcases mark with rfl | rfl | rfl <;> decide

theorem ItemsLayout.ends {items : List Json} {text : Bytes} (layout : ItemsLayout items text)
    (rest : Bytes) : Numeral.Ends (text ++ rest) := by
  cases layout with
  | blank white layout => exact ends_of_blank white _
  | nil => exact ends_of_mark (by decide) _
  | cons item others => exact ends_of_mark (by decide) _

theorem MembersLayout.ends {members : List (String × Json)} {text : Bytes}
    (layout : MembersLayout members text) (rest : Bytes) : Numeral.Ends (text ++ rest) := by
  cases layout with
  | blank white layout => exact ends_of_blank white _
  | nil => exact ends_of_mark (by decide) _
  | cons member others => exact ends_of_mark (by decide) _

theorem ItemsLayout.length_lt {items : List Json} {text : Bytes} :
    ItemsLayout items text → items.length < text.length
  | .blank _ layout => by
      have shorter := layout.length_lt
      rw [List.length_cons]
      omega
  | .nil => by decide
  | .cons _ others => by
      have shorter := others.length_lt
      simp only [List.length_cons, List.length_append]
      omega

theorem MembersLayout.length_lt {members : List (String × Json)} {text : Bytes} :
    MembersLayout members text → members.length < text.length
  | .blank _ layout => by
      have shorter := layout.length_lt
      rw [List.length_cons]
      omega
  | .nil => by decide
  | .cons _ others => by
      have shorter := others.length_lt
      simp only [List.length_cons, List.length_append]
      omega

section Loops

variable {α : Type} {read : Read α} {budget : Nat} {x : α} {input next rest : Bytes}

theorem readItems_blank {b : UInt8} (blank : isBlank b = true) (first : Bool) :
    readItems read (budget + 1) first (b :: input) = readItems read (budget + 1) first input := by
  rw [readItems, readItems, ← nextItem_skipBlanks, skipBlanks_cons_of_blank blank,
    nextItem_skipBlanks]

theorem readMembers_blank {b : UInt8} (blank : isBlank b = true) (first : Bool) :
    readMembers read (budget + 1) first (b :: input) =
      readMembers read (budget + 1) first input := by
  rw [readMembers, readMembers, ← nextKey_skipBlanks, skipBlanks_cons_of_blank blank,
    nextKey_skipBlanks]

theorem readItems_cons {first : Bool} {xs : List α} (more : nextItem first input = .ok (true, next))
    (one : read next = .ok (x, rest)) {after : Bytes}
    (others : readItems read budget false rest = .ok (xs, after)) :
    readItems read (budget + 1) first input = .ok (x :: xs, after) := by
  simp [readItems, more, one, others, bind, Except.bind]

theorem readMembers_cons {first : Bool} {key : String} {xs : List (String × α)}
    (more : nextKey first input = .ok (some key, 0x3A :: next)) (one : read next = .ok (x, rest))
    {after : Bytes} (others : readMembers read budget false rest = .ok (xs, after)) :
    readMembers read (budget + 1) first input = .ok ((key, x) :: xs, after) := by
  have separated : colon (0x3A :: next) = .ok next := rfl
  simp [readMembers, more, separated, one, others, bind, Except.bind]

end Loops

theorem ItemsLayout.readItems_nil {text : Bytes} : ItemsLayout [] text →
    ∀ {α : Type} (read : Read α) (budget : Nat) (first : Bool) (rest : Bytes),
      readItems read (budget + 1) first (text ++ rest) = .ok ([], rest)
  | .blank white layout, _, read, budget, first, rest => by
      rw [List.cons_append, readItems_blank white]
      exact layout.readItems_nil read budget first rest
  | .nil, _, _, _, _, _ => rfl

theorem MembersLayout.readMembers_nil {text : Bytes} : MembersLayout [] text →
    ∀ {α : Type} (read : Read α) (budget : Nat) (first : Bool) (rest : Bytes),
      readMembers read (budget + 1) first (text ++ rest) = .ok ([], rest)
  | .blank white layout, _, read, budget, first, rest => by
      rw [List.cons_append, readMembers_blank white]
      exact layout.readMembers_nil read budget first rest
  | .nil, _, _, _, _, _ => rfl

section Parts

variable {room steps : Nat} {text more rest : Bytes}

/-- A document in a list, and the loop behind it. -/
theorem document_list {item : Json} {items : List Json}
    (one : document room (text ++ (more ++ rest)) = .ok (item, more ++ rest))
    (others : ∀ {budget}, steps ≤ budget →
      readItems (document room) (budget + 1) false (more ++ rest) = .ok (items, rest))
    (short : steps < more.length) :
    document (room + 1) (0x5B :: (text ++ more) ++ rest) = .ok (.array (item :: items), rest) := by
  obtain ⟨budget, length⟩ : ∃ budget, (text ++ (more ++ rest)).length = budget + 1 :=
    Nat.exists_eq_add_one.mpr (by simp only [List.length_append]; omega)
  have loop : readItems (document room) (budget + 2) true (text ++ (more ++ rest)) =
      .ok (item :: items, rest) := by
    refine readItems_cons (nextItem_of_document one) ?_ (others ?_)
    · rw [document_skipBlanks]
      exact one
    · simp only [List.length_append] at length
      omega
  rw [List.cons_append, List.append_assoc, document, readWith_list, budgetFor, length]
  simp only [loop, Except.map]

/-- One more document in a list. -/
theorem readItems_next {item : Json} {items : List Json} {budget : Nat}
    (one : document room (text ++ (more ++ rest)) = .ok (item, more ++ rest))
    (others : readItems (document room) (budget + 1) false (more ++ rest) = .ok (items, rest)) :
    readItems (document room) (budget + 2) false (0x2C :: (text ++ more) ++ rest) =
      .ok (item :: items, rest) := by
  rw [List.cons_append, List.append_assoc]
  refine readItems_cons (nextItem_comma_of_document one) ?_ others
  rw [document_skipBlanks]
  exact one

variable {member : String × Json} {members : List (String × Json)} {tail next : Bytes}
  (skipped : skipBlanks (text ++ (more ++ rest)) = 0x22 :: tail)
  (key : Scan.string tail = .ok (member.1, 0x3A :: next))
  (value : document room next = .ok (member.2, more ++ rest))
include skipped key value

/-- A member in an object, and the loop behind it. -/
theorem document_object
    (others : ∀ {budget}, steps ≤ budget →
      readMembers (document room) (budget + 1) false (more ++ rest) = .ok (members, rest))
    (short : steps < more.length) :
    document (room + 1) (0x7B :: (text ++ more) ++ rest) =
      .ok (.object (member :: members), rest) := by
  obtain ⟨budget, length⟩ : ∃ budget, (text ++ (more ++ rest)).length = budget + 1 :=
    Nat.exists_eq_add_one.mpr (by simp only [List.length_append]; omega)
  have loop : readMembers (document room) (budget + 2) true (text ++ (more ++ rest)) =
      .ok (member :: members, rest) := by
    refine readMembers_cons (nextKey_of_string skipped key) value (others ?_)
    simp only [List.length_append] at length
    omega
  rw [List.cons_append, List.append_assoc, document, readWith_object, budgetFor, length]
  simp only [loop, Except.map]

/-- One more member in an object. -/
theorem readMembers_next {budget : Nat}
    (others : readMembers (document room) (budget + 1) false (more ++ rest) =
      .ok (members, rest)) :
    readMembers (document room) (budget + 2) false (0x2C :: (text ++ more) ++ rest) =
      .ok (member :: members, rest) := by
  rw [List.cons_append, List.append_assoc]
  exact readMembers_cons (nextKey_comma_of_string skipped key) value others

end Parts

/-- A key in writing opens a member, and what follows its string is left. -/
theorem opens_key (key : String) (rest : Bytes) :
    ∃ tail, skipBlanks (bytes (.string key) ++ rest) = 0x22 :: tail ∧
      Scan.string tail = .ok (key, rest) := by
  refine ⟨Utf8.encode (key.toList.flatMap escapeChar) ++ 0x22 :: rest, ?_,
    string_escaped key rest⟩
  rw [bytes_string]
  simp only [List.cons_append, List.append_assoc, List.nil_append]
  exact skipBlanks_cons_of_not_blank rfl _

mutual

/-- Every layout of a document reads back. -/
theorem Layout.document_eq {j : Json} {text : Bytes} :
    Layout j text → ∀ {room : Nat} {rest : Bytes}, j.depth ≤ room → Numeral.Ends rest →
      document room (text ++ rest) = .ok (j, rest)
  | .blank white layout, room, rest, enough, ends => by
      rw [List.cons_append, ← document_skipBlanks, skipBlanks_cons_of_blank white,
        document_skipBlanks]
      exact layout.document_eq enough ends
  | .null, room, rest, _, _ => by cases room <;> rfl
  | .bool b, room, rest, _, _ => by cases b <;> cases room <;> rfl
  | .int i, room, rest, _, ends => by
      obtain ⟨nested, equality⟩ := document_eq_readWith room
      obtain ⟨b, tail, written, sign⟩ := Numeral.int_starts i
      have read := Numeral.read_int i ends
      have same : bytes (.number (.int i)) = Utf8.encode (Number.int i).chars := rfl
      rw [written, List.cons_append] at read
      rw [same, equality, written, List.cons_append, readWith_number nested _ sign, read]
      rfl
  | .string s, room, rest, _, _ => by
      obtain ⟨nested, equality⟩ := document_eq_readWith room
      rw [bytes_string, equality, List.cons_append, List.append_assoc, readWith_string]
      have read := string_escaped s rest
      rw [List.singleton_append, read]
      rfl
  | .empty layout, room, rest, enough, _ => by
      cases room with
      | zero => cases enough
      | succ room =>
          rw [List.cons_append, document, readWith_list, budgetFor]
          simp only [layout.readItems_nil, Except.map]
  | .array first others, room, rest, enough, _ => by
      cases room with
      | zero => cases enough
      | succ room =>
          have fits := Nat.max_le.mp (Nat.le_of_succ_le_succ enough)
          exact document_list (first.document_eq fits.1 (others.ends rest))
            (others.readItems_eq fits.2) others.length_lt
  | .emptyObject layout, room, rest, enough, _ => by
      cases room with
      | zero => cases enough
      | succ room =>
          rw [List.cons_append, document, readWith_object, budgetFor]
          simp only [layout.readMembers_nil, Except.map]
  | .object first others, room, rest, enough, _ => by
      cases room with
      | zero => cases enough
      | succ room =>
          have fits := Nat.max_le.mp (Nat.le_of_succ_le_succ enough)
          obtain ⟨tail, next, skipped, key, value⟩ := first.opens fits.1 (others.ends rest)
          exact document_object skipped key value (others.readMembers_eq fits.2) others.length_lt

theorem ItemsLayout.readItems_eq {items : List Json} {text : Bytes} :
    ItemsLayout items text → ∀ {room budget : Nat} {rest : Bytes}, itemsDepth items ≤ room →
      items.length ≤ budget →
      readItems (document room) (budget + 1) false (text ++ rest) = .ok (items, rest)
  | .blank white layout, room, budget, rest, enough, long => by
      rw [List.cons_append, readItems_blank white]
      exact layout.readItems_eq enough long
  | .nil, _, _, _, _, _ => rfl
  | .cons first others, room, budget, rest, enough, long => by
      have fits := Nat.max_le.mp enough
      cases budget with
      | zero => cases long
      | succ budget =>
          exact readItems_next (first.document_eq fits.1 (others.ends rest))
            (others.readItems_eq fits.2 (Nat.le_of_succ_le_succ long))

theorem MemberLayout.opens {member : String × Json} {text : Bytes} :
    MemberLayout member text → ∀ {room : Nat} {rest : Bytes}, member.2.depth ≤ room →
      Numeral.Ends rest → ∃ tail next, skipBlanks (text ++ rest) = 0x22 :: tail ∧
        Scan.string tail = .ok (member.1, 0x3A :: next) ∧
        document room next = .ok (member.2, rest)
  | .blank white layout, room, rest, enough, ends => by
      rw [List.cons_append, skipBlanks_cons_of_blank white]
      exact layout.opens enough ends
  | @MemberLayout.member key value text layout, room, rest, enough, ends => by
      obtain ⟨tail, skipped, string⟩ := opens_key key (0x3A :: (text ++ rest))
      refine ⟨tail, text ++ rest, ?_, string, layout.document_eq enough ends⟩
      rw [List.append_assoc, List.cons_append]
      exact skipped

theorem MembersLayout.readMembers_eq {members : List (String × Json)} {text : Bytes} :
    MembersLayout members text → ∀ {room budget : Nat} {rest : Bytes},
      membersDepth members ≤ room → members.length ≤ budget →
      readMembers (document room) (budget + 1) false (text ++ rest) = .ok (members, rest)
  | .blank white layout, room, budget, rest, enough, long => by
      rw [List.cons_append, readMembers_blank white]
      exact layout.readMembers_eq enough long
  | .nil, _, _, _, _, _ => rfl
  | .cons first others, room, budget, rest, enough, long => by
      have fits := Nat.max_le.mp enough
      obtain ⟨tail, next, skipped, key, value⟩ := first.opens fits.1 (others.ends rest)
      cases budget with
      | zero => cases long
      | succ budget =>
          exact readMembers_next skipped key value
            (others.readMembers_eq fits.2 (Nat.le_of_succ_le_succ long))

end

end ShellBridge.Json
