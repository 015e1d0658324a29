import ShellBridge.Proofs.Event.Documents

/-!
Reading events off documents.

A text is read as an event just as its document says: with the kind set apart, wherever it stands
among the members of an object or in front of a list, the fields of this kind are taken from what is
left.
-/

namespace ShellBridge

open Json Scan

namespace Json.Names

variable {α : Type} (names : Names α)

/-- The name that a document is, if it is a known one. -/
def ofJson? : Json → Option α
  | .string name => names.find? name
  | _ => none

variable {names}

theorem readName_toOption {room : Nat} {input rest : Bytes} {j : Json}
    (read : document room input = .ok (j, rest)) :
    (names.readName input).toOption = (names.ofJson? j).map (·, rest) := by
  obtain ⟨nested, opens, _⟩ := document_opens read
  obtain ⟨b, tail, skipped, opener⟩ := opens.starts
  rw [readName, skipped]
  cases j with
  | string name =>
      cases opens with
      | string begins text =>
          cases skipped.symm.trans begins
          simp only [if_true, toOption_bind, text, toOption_ok, Option.bind_some, ofJson?]
          cases names.find? name <;> rfl
  | null | bool b' | number n | array items | object members =>
      have different : b ≠ 0x22 := by
        rintro rfl
        simp [IsOpener] at opener
      simp [different, ofJson?, toOption_error]

end Json.Names

namespace Event

/-- The document without the kind. -/
def untagged : Json → Json
  | .object members => .object (members.filter fun member => member.1 != "kind")
  | .array items => .array items.tail
  | j => j

/-- The kind that a document holds, and the document without it. -/
def tagged? (j : Json) : Option (EventKind × Json) := do
  let tag ← j.part? "kind" 0
  let kind ← EventKind.names.ofJson? tag
  some (kind, untagged j)

/-- The kind among the members of an object, and the other members; `kind` is the one that stood in
front of them. -/
def collect : Option EventKind → List (String × Json) →
    Option (Option EventKind × List (String × Json))
  | kind, [] => some (kind, [])
  | kind, (key, j) :: rest =>
      if key = "kind" then
        if kind.isSome then none
        else do
          let found ← EventKind.names.ofJson? j
          collect (some found) rest
      else (collect kind rest).map fun (kind, others) => (kind, (key, j) :: others)

theorem readMembers_toOption {room budget : Nat} {first : Bool} {input rest : Bytes}
    {members : List (String × Json)}
    (read : Json.readMembers (document room) budget first input = .ok (members, rest)) :
    ∃ tail, tail.drop 1 = rest ∧ ∀ kind,
      (Event.readMembers room budget first kind input).toOption =
        (collect kind members).map (·, tail) := by
  induction budget generalizing first input members with
  | zero => cases read
  | succ budget inductionHypothesis =>
      rcases readMembers_cases read with
        ⟨next, turn, rfl, rfl⟩ |
        ⟨key, next, start, j, after, others, turn, separator, one, loop, rfl⟩
      · refine ⟨next, rfl, ?_⟩
        intro kind
        rw [Event.readMembers, turn]
        rfl
      · obtain ⟨tail, dropped, further⟩ := inductionHypothesis loop
        refine ⟨tail, dropped, ?_⟩
        intro kind
        rw [Event.readMembers, turn, collect]
        simp only [toOption_bind, toOption_ok, Option.bind_some]
        by_cases here : key = "kind"
        · by_cases again : kind.isSome
          · simp [here, again, toOption_error]
          · simp only [if_pos here, if_neg again, toOption_bind, separator, toOption_ok,
              Option.bind_some, Names.readName_toOption one]
            cases EventKind.names.ofJson? j with
            | none => rfl
            | some found => exact further (some found)
        · simp only [if_neg here, toOption_bind, separator, one, toOption_ok, Option.bind_some,
            further]
          cases collect kind others <;> rfl

theorem collect_some (kind : EventKind) (members : List (String × Json)) :
    collect (some kind) members =
      match members.filter fun member => member.1 == "kind" with
      | [] => some (some kind, members.filter fun member => member.1 != "kind")
      | _ => none := by
  induction members with
  | nil => rfl
  | cons member rest inductionHypothesis =>
      rcases member with ⟨key, j⟩
      by_cases here : key = "kind"
      · simp [collect, here]
      · simp only [collect, if_neg here, inductionHypothesis]
        cases tags : rest.filter fun member => member.1 == "kind" <;> simp [here, tags]

/-- The only member with the key of the kind is taken for it. -/
theorem collect_none (members : List (String × Json)) :
    collect none members =
      match members.filter fun member => member.1 == "kind" with
      | [] => some (none, members.filter fun member => member.1 != "kind")
      | [(_, j)] => (EventKind.names.ofJson? j).map fun kind =>
          (some kind, members.filter fun member => member.1 != "kind")
      | _ => none := by
  induction members with
  | nil => rfl
  | cons member rest inductionHypothesis =>
      rcases member with ⟨key, j⟩
      by_cases here : key = "kind"
      · simp only [collect, if_pos here, collect_some]
        cases tags : rest.filter fun member => member.1 == "kind" with
        | nil => cases known : EventKind.names.ofJson? j <;> simp [here, tags, known]
        | cons tag more => cases EventKind.names.ofJson? j <;> simp [here, tags]
      · simp only [collect, if_neg here, inductionHypothesis]
        rcases tags : rest.filter fun member => member.1 == "kind" with _ | ⟨⟨_, j'⟩, _ | _⟩
        · simp [here, tags]
        · cases known : EventKind.names.ofJson? j' <;> simp [here, tags, known]
        · simp [here, tags]

theorem tagged?_object (members : List (String × Json)) :
    tagged? (.object members) = (collect none members).bind fun (kind?, others) =>
      kind?.map fun kind => (kind, .object others) := by
  rw [collect_none]
  have part : (Json.object members).part? "kind" 0 = only? "kind" members := rfl
  rw [tagged?, part, only?]
  rcases tags : members.filter fun member => member.1 == "kind" with _ | ⟨⟨_, j⟩, _ | _⟩
  · simp [tags]
  · cases known : EventKind.names.ofJson? j <;> simp [tags, known, untagged]
  · simp [tags]

/-- A document is read as it holds a kind. -/
theorem readTagged_toOption {room : Nat} {input rest : Bytes} {j : Json}
    (read : document room input = .ok (j, rest)) :
    (readTagged room input).toOption = (tagged? j).map (·, rest) := by
  obtain ⟨nested, opens, inside⟩ := document_opens read
  obtain ⟨b, tail, skipped, opener⟩ := opens.starts
  rw [readTagged, skipped]
  cases j with
  | object members =>
      cases room with
      | zero => cases readWith_opens read with | object _ given _ => cases given
      | succ room =>
          cases readWith_opens read with
          | object begins given loop =>
              cases given
              cases skipped.symm.trans begins
              obtain ⟨last, dropped, further⟩ := readMembers_toOption loop
              simp only [if_true, toOption_bind, further none, tagged?_object]
              cases collect none members with
              | none => rfl
              | some pair =>
                  rcases pair with ⟨_ | kind, others⟩
                  · rfl
                  · rw [← dropped]
                    rfl
  | array items =>
      cases room with
      | zero => cases readWith_opens read with | list _ given _ => cases given
      | succ room =>
          cases readWith_opens read with
          | list begins given loop =>
              cases given
              cases skipped.symm.trans begins
              simp only [if_neg (show ¬(0x5B : UInt8) = 0x7B by decide), if_true, toOption_bind]
              rcases readItems_cases loop with
                ⟨next, turn, rfl, rfl⟩ | ⟨next, j, after, others, turn, one, further, rfl⟩
              · rw [turn]
                rfl
              · have behind : readItems (document room) (budgetFor after) false after =
                    .ok (others, rest) :=
                  readItems_of_length_lt further
                    (Nat.lt_succ_of_lt (length_lt_of_readItems further))
                have part : (Json.array (j :: others)).part? "kind" 0 = some j := rfl
                simp only [turn, toOption_ok, Option.bind_some, if_true, toOption_bind,
                  Names.readName_toOption one, tagged?, part, untagged, List.tail_cons]
                cases known : EventKind.names.ofJson? j with
                | none => simp [known]
                | some kind => simp [known, behind, toOption_ok]
  | null | bool b' | number n | string s =>
      have noObject : b ≠ 0x7B := by
        rintro rfl
        simp [IsOpener] at opener
      have noList : b ≠ 0x5B := by
        rintro rfl
        simp [IsOpener] at opener
      simp [noObject, noList, toOption_error, tagged?, part?]

/-- A text is accepted for what its document says, up to the limit of nesting. -/
theorem parse_toOption {text : Bytes} {j : Json} (spells : Spells text j) :
    (parse text).toOption =
      if j.depth ≤ depthLimit then
        (tagged? j).bind fun (kind, fields) => ((record kind).ofJson fields).toOption
      else none := by
  split
  · next fits =>
      obtain ⟨room, rest, document, ended⟩ := spells
      have read := (document_follows room depthLimit).toOption_eq document
      rw [within, if_pos fits] at read
      have tagged := readTagged_toOption (eq_ok_of_toOption read)
      rw [parse]
      cases holds : tagged? j with
      | none =>
          rw [holds] at tagged
          obtain ⟨fault, refused⟩ := eq_error_of_toOption tagged
          rw [refused]
          rfl
      | some pair =>
          rcases pair with ⟨kind, fields⟩
          rw [holds] at tagged
          rw [eq_ok_of_toOption tagged]
          simp only [Option.bind_some]
          cases (record kind).ofJson fields with
          | error cause => rfl
          | ok event =>
              simp only [ended]
              rfl
  · next deep =>
      cases accepted : parse text with
      | error refusal => rfl
      | ok event =>
          obtain ⟨j', spells', fits, _⟩ := exists_document_of_parse accepted
          rw [spells.unique spells'] at deep
          exact absurd fits deep

end Event

end ShellBridge
