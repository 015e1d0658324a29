import ShellBridge.Proofs.Json.Canonical

/-!
Formats that pass nothing over.

Where such a format reads a value there stands a document, and if it agrees with the reader of
documents it accepts this document for the value.  So what it reads fits the room.
-/

namespace ShellBridge.Json.Format

open Scan

variable {α : Type}

/-- Wherever the format reads a value, a document is read in the same room. -/
def Full (format : Format α) : Prop :=
  ∀ room input rest x, format.read room input = .ok (x, rest) →
    ∃ j, document room input = .ok (j, rest)

theorem text_full : text.Full := by
  intro room input rest s read
  obtain ⟨nested, equality⟩ := document_eq_readWith room
  have opened : readText room input = .ok (s, rest) := read
  rw [readText] at opened
  split at opened
  · next tail skipped =>
      refine ⟨.string s, ?_⟩
      rw [← document_skipBlanks, equality, skipped, readWith_string, opened]
      rfl
  · cases opened

theorem value_full : value.Full := by
  intro room input rest x read
  obtain ⟨⟨j, after⟩, document, same⟩ := bind_eq_ok read
  cases same
  exact ⟨j, document⟩

theorem optional_full {format : Format α} (full : format.Full) : (optional format).Full := by
  intro room input rest x read
  rw [← document_skipBlanks]
  simp only [optional] at read
  split at read
  · next tail skipped =>
      obtain ⟨after, word, same⟩ := map_eq_ok read
      cases same
      obtain ⟨nested, equality⟩ := document_eq_readWith room
      refine ⟨.null, ?_⟩
      rw [skipped, equality, readWith_null, word]
      rfl
  · obtain ⟨⟨y, after⟩, one, same⟩ := map_eq_ok read
    cases same
    exact full room _ _ y one

theorem members_full : members.Full := by
  intro room input rest x read
  rw [← document_skipBlanks]
  simp only [members] at read
  split at read
  · next tail skipped =>
      cases room with
      | zero => cases read
      | succ room =>
          obtain ⟨⟨list, after⟩, loop, same⟩ := map_eq_ok read
          cases same
          refine ⟨.object list, ?_⟩
          rw [skipped, document, readWith_object]
          simp only [loop]
          rfl
  · cases read

/-- The room that the members of an object need. -/
def membersNeed : Json → Nat
  | .object list => membersDepth list + 1
  | _ => 0

theorem members_agrees : members.Agrees membersNeed := by
  intro room other
  constructor
  intro input rest j read
  obtain ⟨nested, opens, inside⟩ := document_opens read
  obtain ⟨b, tail, skipped, opener⟩ := opens.starts
  cases j with
  | object list =>
      cases opens with
      | @object tail _ value _ skipped given loop =>
          obtain ⟨inner, rfl⟩ := inside value given
          cases other with
          | zero => simp [members, skipped, accept, membersNeed, toOption_error]
          | succ other =>
              have further := (document_follows inner other).readMembers loop
              rw [mapM_members_within] at further
              simp only [members, skipped, toOption_map, further, accept, membersNeed,
                Nat.add_le_add_iff_right]
              by_cases fits : membersDepth list ≤ other <;> simp [fits, toOption_ok]
  | null | bool b' | number n | string s | array items =>
      have different : b ≠ 0x7B := by
        rintro rfl
        simp [IsOpener] at opener
      rw [accept_of_error rfl]
      simp [members, skipped, different, toOption_error]

/-- What is read is accepted of a document that fits the room. -/
theorem Full.exists_json {format : Format α} {need : Json → Nat} (full : format.Full)
    (agrees : format.Agrees need) {room : Nat} {input rest : Bytes} {x : α}
    (read : format.read room input = .ok (x, rest)) :
    ∃ j, j.depth ≤ room ∧ format.ofJson j = .ok x := by
  obtain ⟨j, document⟩ := full room input rest x read
  refine ⟨j, depth_le_of_document document, ?_⟩
  have follows := (agrees room room).toOption_eq document
  rw [read, toOption_ok, accept] at follows
  by_cases fits : need j ≤ room
  · rw [if_pos fits] at follows
    cases accepted : format.ofJson j with
    | error cause =>
        rw [accepted] at follows
        cases follows
    | ok y =>
        rw [accepted] at follows
        cases follows
        rfl
  · rw [if_neg fits] at follows
    cases follows

/-- A member behind its key and the colon, and the members that follow. -/
theorem readMembers_member {value : Read α} {budget : Nat} {first : Bool}
    {input next start after rest : Bytes} {key : String} {x : α} {others : List (String × α)}
    (turn : nextKey first input = .ok (some key, next)) (separator : colon next = .ok start)
    (one : value start = .ok (x, after))
    (loop : readMembers value budget false after = .ok (others, rest)) :
    readMembers value (budget + 1) first input = .ok ((key, x) :: others, rest) := by
  simp [readMembers, turn, separator, one, loop, bind, Except.bind]

theorem exists_read_of_mem_items {item : Read α} {budget : Nat} {first : Bool}
    {input rest : Bytes} {xs : List α}
    (read : readItems item budget first input = .ok (xs, rest)) {x : α} (membership : x ∈ xs) :
    ∃ start after, item start = .ok (x, after) := by
  induction budget generalizing first input xs with
  | zero => cases read
  | succ budget inductionHypothesis =>
      rcases readItems_cases read with
        ⟨next, turn, rfl, rfl⟩ | ⟨next, y, after, ys, turn, one, loop, rfl⟩
      · cases membership
      · rcases List.mem_cons.mp membership with rfl | behind
        · exact ⟨next, after, one⟩
        · exact inductionHypothesis loop behind

/-- Every item of a list was read, with less room than the list. -/
theorem exists_read_of_mem_list {format : Format α} {room : Nat} {input rest : Bytes}
    {xs : List α} (read : (list format).read room input = .ok (xs, rest)) {x : α}
    (membership : x ∈ xs) :
    ∃ inner start after, inner < room ∧ format.read inner start = .ok (x, after) := by
  simp only [list] at read
  split at read
  · cases room with
    | zero => cases read
    | succ room =>
        obtain ⟨start, after, one⟩ := exists_read_of_mem_items read membership
        exact ⟨room, start, after, Nat.lt_succ_self room, one⟩
  · cases read

end ShellBridge.Json.Format
