import ShellBridge.Proofs.Json.Layout

/-!
Readers that follow each other.

A reader follows another one if, wherever the other reads something, it accepts or refuses by what
was read, and in accepting takes the same part of the text.  Loops follow as their bodies do.  In
this way a reader of documents with little room follows one with much: it accepts what nests no
deeper than its room.
-/

namespace ShellBridge.Json

open Scan

/-! ### How a document starts -/

/-- What stands where a document was read: its first byte, and what was read from there. -/
inductive Opens (nested : Option (Read Json)) (input : Bytes) : Json → Bytes → Prop
  | null {tail rest : Bytes} : skipBlanks input = 0x6E :: tail → word ull tail = .ok rest →
      Opens nested input .null rest
  | true {tail rest : Bytes} : skipBlanks input = 0x74 :: tail → word rue tail = .ok rest →
      Opens nested input (.bool true) rest
  | false {tail rest : Bytes} : skipBlanks input = 0x66 :: tail → word alse tail = .ok rest →
      Opens nested input (.bool false) rest
  | number {b : UInt8} {tail rest : Bytes} {n : Number} : skipBlanks input = b :: tail →
      (b = 0x2D ∨ isDigit b = true) → Numeral.read (b :: tail) = .ok (n, rest) →
      Opens nested input (.number n) rest
  | string {tail rest : Bytes} {s : String} : skipBlanks input = 0x22 :: tail →
      Scan.string tail = .ok (s, rest) → Opens nested input (.string s) rest
  | list {tail rest : Bytes} {item : Read Json} {items : List Json} :
      skipBlanks input = 0x5B :: tail → nested = some item →
      readItems item (budgetFor tail) true tail = .ok (items, rest) →
      Opens nested input (.array items) rest
  | object {tail rest : Bytes} {value : Read Json} {members : List (String × Json)} :
      skipBlanks input = 0x7B :: tail → nested = some value →
      readMembers value (budgetFor tail) true tail = .ok (members, rest) →
      Opens nested input (.object members) rest

theorem readWith_opens {nested : Option (Read Json)} {input rest : Bytes} {j : Json}
    (read : readWith nested input = .ok (j, rest)) : Opens nested input j rest := by
  rw [← readWith_skipBlanks] at read
  cases skipped : skipBlanks input with
  | nil =>
      rw [skipped] at read
      cases read
  | cons b tail =>
      have solid := isBlank_of_skipBlanks_eq skipped
      rw [skipped, readWith.eq_def, skipBlanks_cons_of_not_blank solid] at read
      simp only at read
      split_ifs at read with isNull isTrue isFalse isNumber isString isList isObject
      · obtain ⟨after, word, same⟩ := map_eq_ok read
        cases same
        exact .null (isNull ▸ skipped) word
      · obtain ⟨after, word, same⟩ := map_eq_ok read
        cases same
        exact .true (isTrue ▸ skipped) word
      · obtain ⟨after, word, same⟩ := map_eq_ok read
        cases same
        exact .false (isFalse ▸ skipped) word
      · obtain ⟨⟨n, after⟩, numeral, same⟩ := map_eq_ok read
        cases same
        refine .number skipped ?_ numeral
        simpa using isNumber
      · obtain ⟨⟨s, after⟩, text, same⟩ := map_eq_ok read
        cases same
        exact .string (isString ▸ skipped) text
      · cases nested with
        | none => cases read
        | some item =>
            obtain ⟨⟨items, after⟩, loop, same⟩ := map_eq_ok read
            cases same
            exact .list (isList ▸ skipped) rfl loop
      · cases nested with
        | none => cases read
        | some value =>
            obtain ⟨⟨members, after⟩, loop, same⟩ := map_eq_ok read
            cases same
            exact .object (isObject ▸ skipped) rfl loop

/-! ### Loops -/

section Loops

variable {α β : Type} {p : Read α} {q : Read β} {accept : α → Option β}
  {input rest : Bytes} {budget : Nat} {first : Bool}

/-- What a turn of a list is. -/
theorem readItems_cases {xs : List α}
    (read : readItems p (budget + 1) first input = .ok (xs, rest)) :
    (∃ next, nextItem first input = .ok (false, next) ∧ xs = [] ∧ rest = next.drop 1) ∨
    ∃ next x after ys, nextItem first input = .ok (true, next) ∧ p next = .ok (x, after) ∧
      readItems p budget false after = .ok (ys, rest) ∧ xs = x :: ys := by
  obtain ⟨⟨more, next⟩, turn, read⟩ := bind_eq_ok read
  cases more with
  | false =>
      cases read
      exact .inl ⟨next, turn, rfl, rfl⟩
  | true =>
      obtain ⟨⟨x, after⟩, one, read⟩ := bind_eq_ok read
      obtain ⟨⟨ys, last⟩, others, read⟩ := bind_eq_ok read
      cases read
      exact .inr ⟨next, x, after, ys, turn, one, others, rfl⟩

theorem readMembers_cases {xs : List (String × α)}
    (read : readMembers p (budget + 1) first input = .ok (xs, rest)) :
    (∃ next, nextKey first input = .ok (none, next) ∧ xs = [] ∧ rest = next.drop 1) ∨
    ∃ key next start x after ys, nextKey first input = .ok (some key, next) ∧
      colon next = .ok start ∧ p start = .ok (x, after) ∧
      readMembers p budget false after = .ok (ys, rest) ∧ xs = (key, x) :: ys := by
  obtain ⟨⟨key?, next⟩, turn, read⟩ := bind_eq_ok read
  cases key? with
  | none =>
      cases read
      exact .inl ⟨next, turn, rfl, rfl⟩
  | some key =>
      obtain ⟨start, separated, read⟩ := bind_eq_ok read
      obtain ⟨⟨x, after⟩, one, read⟩ := bind_eq_ok read
      obtain ⟨⟨ys, last⟩, others, read⟩ := bind_eq_ok read
      cases read
      exact .inr ⟨key, next, start, x, after, ys, turn, separated, one, others, rfl⟩

/-- Wherever `p` reads a value, `q` accepts or refuses by that value and takes the same text. -/
structure Follows (p : Read α) (q : Read β) (accept : α → Option β) : Prop where
  toOption_eq {input rest : Bytes} {x : α} (read : p input = .ok (x, rest)) :
    (q input).toOption = (accept x).map (·, rest)

theorem Follows.readItems (follows : Follows p q accept) {xs : List α}
    (read : Json.readItems p budget first input = .ok (xs, rest)) :
    (Json.readItems q budget first input).toOption = (xs.mapM accept).map (·, rest) := by
  induction budget generalizing first input xs with
  | zero => cases read
  | succ budget inductionHypothesis =>
      rcases readItems_cases read with
        ⟨next, turn, rfl, rfl⟩ | ⟨next, x, after, ys, turn, one, others, rfl⟩
      · simp [Json.readItems, turn, bind, Except.bind, toOption_ok]
      · have further := inductionHypothesis others
        rw [Json.readItems, toOption_bind, turn, toOption_ok, Option.bind_some]
        simp only [if_true, toOption_bind, follows.toOption_eq one]
        cases accepted : accept x with
        | none => simp [accepted]
        | some y =>
            simp only [Option.map_some, Option.bind_some, further]
            cases all : ys.mapM accept <;> simp [accepted, all, toOption_ok]

/-- A member is accepted as its value is. -/
def acceptMember (accept : α → Option β) (member : String × α) : Option (String × β) :=
  (accept member.2).map (member.1, ·)

theorem Follows.readMembers (follows : Follows p q accept) {xs : List (String × α)}
    (read : Json.readMembers p budget first input = .ok (xs, rest)) :
    (Json.readMembers q budget first input).toOption =
      (xs.mapM (acceptMember accept)).map (·, rest) := by
  induction budget generalizing first input xs with
  | zero => cases read
  | succ budget inductionHypothesis =>
      rcases readMembers_cases read with
        ⟨next, turn, rfl, rfl⟩ | ⟨key, next, start, x, after, ys, turn, separated, one, others, rfl⟩
      · simp [Json.readMembers, turn, bind, Except.bind, toOption_ok]
      · have further := inductionHypothesis others
        rw [Json.readMembers, toOption_bind, turn, toOption_ok, Option.bind_some]
        simp only [toOption_bind, separated, toOption_ok, Option.bind_some, follows.toOption_eq one]
        cases accepted : accept x with
        | none => simp [accepted, acceptMember]
        | some y =>
            simp only [Option.map_some, Option.bind_some, further]
            cases all : ys.mapM (acceptMember accept) with
            | none => simp [accepted, all, acceptMember]
            | some zs => simp [accepted, all, acceptMember]

end Loops

/-! ### Room -/

/-- A document is accepted where there is room for it. -/
def within (room : Nat) (j : Json) : Option Json :=
  if j.depth ≤ room then some j else none

theorem mapM_within (room : Nat) (items : List Json) :
    items.mapM (within room) = if itemsDepth items ≤ room then some items else none := by
  induction items with
  | nil => rfl
  | cons item rest inductionHypothesis =>
      rw [List.mapM_cons, inductionHypothesis, within]
      simp only [itemsDepth, Nat.max_le]
      by_cases one : item.depth ≤ room <;> by_cases others : itemsDepth rest ≤ room <;>
        simp [one, others]

theorem mapM_members_within (room : Nat) (members : List (String × Json)) :
    members.mapM (acceptMember (within room)) =
      if membersDepth members ≤ room then some members else none := by
  induction members with
  | nil => rfl
  | cons member rest inductionHypothesis =>
      rw [List.mapM_cons, inductionHypothesis]
      rcases member with ⟨key, j⟩
      simp only [acceptMember, within, membersDepth, Nat.max_le]
      by_cases one : j.depth ≤ room <;> by_cases others : membersDepth rest ≤ room <;>
        simp [one, others]

/-- A document that was read is read with other room as well if there is enough of it, given the
same of the documents inside. -/
theorem Opens.document_toOption {nested : Option (Read Json)} {input rest : Bytes} {j : Json}
    (opens : Opens nested input j rest) (room : Nat)
    (inside : ∀ item, nested = some item → ∀ room, Follows item (document room) (within room)) :
    (document room input).toOption = (within room j).map (·, rest) := by
  obtain ⟨nested', equality⟩ := document_eq_readWith room
  rw [← document_skipBlanks]
  cases opens with
  | null skipped word =>
      rw [equality, skipped, readWith_null, word]
      rfl
  | true skipped word =>
      rw [equality, skipped, readWith_true, word]
      rfl
  | false skipped word =>
      rw [equality, skipped, readWith_false, word]
      rfl
  | number skipped sign numeral =>
      rw [equality, skipped, readWith_number nested' _ sign, numeral]
      rfl
  | string skipped text =>
      rw [equality, skipped, readWith_string, text]
      rfl
  | @list tail _ item items skipped given loop =>
      rw [skipped]
      cases room with
      | zero => rfl
      | succ room =>
          rw [document, readWith_list]
          simp only [toOption_map, (inside item given room).readItems loop, mapM_within]
          by_cases fits : itemsDepth items ≤ room <;> simp [within, depth, fits]
  | @object tail _ value members skipped given loop =>
      rw [skipped]
      cases room with
      | zero => rfl
      | succ room =>
          rw [document, readWith_object]
          simp only [toOption_map, (inside value given room).readMembers loop,
            mapM_members_within]
          by_cases fits : membersDepth members ≤ room <;> simp [within, depth, fits]

/-- With any room a document is read if it nests no deeper, and with the same result. -/
theorem document_follows (room other : Nat) :
    Follows (document room) (document other) (within other) := by
  induction room generalizing other with
  | zero =>
      constructor
      intro input rest j read
      apply (readWith_opens read).document_toOption other
      intro item given
      cases given
  | succ room inductionHypothesis =>
      constructor
      intro input rest j read
      apply (readWith_opens read).document_toOption other
      intro item given
      cases given
      exact inductionHypothesis

/-- A document that was read fits the room. -/
theorem depth_le_of_document {room : Nat} {input rest : Bytes} {j : Json}
    (read : document room input = .ok (j, rest)) : j.depth ≤ room := by
  have again := (document_follows room room).toOption_eq read
  rw [read, toOption_ok, within] at again
  by_cases fits : j.depth ≤ room
  · exact fits
  · simp [fits] at again

end ShellBridge.Json
