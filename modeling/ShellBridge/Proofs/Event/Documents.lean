import ShellBridge.Event
import ShellBridge.Proofs.Json.Parts

/-!
Events as documents.

What is read as an event is the text of a document, and what the event says stands in the document:
the kind, then the fields of this kind.
-/

namespace ShellBridge

open Json Scan

namespace Json

theorem Names.name_of_find? {α : Type} {names : Names α} {name : String} {x : α}
    (found : names.find? name = some x) : names.name x = name := by
  simpa using List.find?_some found

/-- A name is read from a string. -/
theorem Names.document_of_readName {α : Type} {names : Names α} {input rest : Bytes} {x : α}
    (read : names.readName input = .ok (x, rest)) (room : Nat) :
    document room input = .ok (.string (names.name x), rest) := by
  rw [Names.readName] at read
  obtain ⟨nested, equality⟩ := document_eq_readWith room
  rw [← document_skipBlanks, equality]
  split at read
  · cases read
  · next b tail skipped =>
      split_ifs at read with quote
      obtain ⟨⟨name, after⟩, text, read⟩ := bind_eq_ok read
      simp only at read
      split at read
      · next y found =>
          cases read
          rw [skipped, quote, readWith_string, text, Names.name_of_find? found]
          rfl
      · cases read

/-- For the items of a list any budget will do that is greater than their number. -/
theorem readItems_of_length_lt {α : Type} {read : Read α} {budget more : Nat} {first : Bool}
    {input rest : Bytes} {xs : List α}
    (items : readItems read budget first input = .ok (xs, rest)) (enough : xs.length < more) :
    readItems read more first input = .ok (xs, rest) := by
  induction budget generalizing more first input xs with
  | zero => cases items
  | succ budget inductionHypothesis =>
      obtain ⟨more, rfl⟩ := Nat.exists_eq_add_one_of_ne_zero (Nat.ne_of_gt (Nat.lt_of_le_of_lt
        (Nat.zero_le _) enough))
      rcases readItems_cases items with
        ⟨next, turn, rfl, rfl⟩ | ⟨next, x, after, others, turn, one, loop, rfl⟩
      · rw [readItems, turn]
        rfl
      · exact readItems_cons turn one (inductionHypothesis loop (Nat.lt_of_succ_lt_succ enough))

theorem length_le_itemsSize (items : List Json) : items.length ≤ itemsSize items := by
  induction items with
  | nil => exact Nat.le_refl _
  | cons item rest inductionHypothesis =>
      have positive := item.size_pos
      rw [List.length_cons, itemsSize]
      omega

/-- Every item takes a byte at least. -/
theorem length_lt_of_readItems {room budget : Nat} {first : Bool} {input rest : Bytes}
    {items : List Json}
    (read : readItems (document room) budget first input = .ok (items, rest)) :
    items.length < input.length := by
  have shorter := ((document_skipped room).readItems_eq read 0 []).2
  have count := length_le_itemsSize items
  omega

theorem length_le_of_nextItem {first : Bool} {input next : Bytes}
    (turn : nextItem first input = .ok (true, next)) : next.length ≤ input.length := by
  have shorter := length_skipBlanks_le input
  rcases nextItem_cases turn with
    ⟨impossible, _⟩ | ⟨_, _, b, tail, begins, _, rfl⟩ | ⟨_, _, tail, begins, rfl⟩
  · cases impossible
  · rw [begins] at shorter
    exact shorter
  · have behind := length_skipBlanks_le tail
    rw [begins, List.length_cons] at shorter
    omega

end Json

namespace Event

/-- The member that holds the kind. -/
def tag : Option EventKind → List (String × Json)
  | some kind => [("kind", kind.toJson)]
  | none => []

/-- The loop reads the members of an object, and sets the kind apart. -/
theorem members_of_readMembers {room budget : Nat} {first : Bool} {kind kind' : Option EventKind}
    {members : List (String × Json)} {input rest : Bytes}
    (read : Event.readMembers room budget first kind input = .ok ((kind', members), rest)) :
    ∃ all, Json.readMembers (document room) budget first input = .ok (all, rest.drop 1) ∧
      (members = all.filter fun member => member.1 != "kind") ∧
      tag kind' = tag kind ++ all.filter fun member => member.1 == "kind" := by
  induction budget generalizing first kind input members with
  | zero => cases read
  | succ budget inductionHypothesis =>
      obtain ⟨⟨key?, next⟩, turn, read⟩ := bind_eq_ok read
      cases key? with
      | none =>
          cases read
          refine ⟨[], ?_, rfl, (List.append_nil _).symm⟩
          rw [Json.readMembers, turn]
          rfl
      | some key =>
          by_cases here : key = "kind"
          · subst here
            simp only [if_true] at read
            split_ifs at read with again
            obtain ⟨start, separator, read⟩ := bind_eq_ok read
            obtain ⟨⟨found, after⟩, one, read⟩ := bind_eq_ok read
            obtain ⟨all, loop, same, tagged⟩ := inductionHypothesis read
            have absent : kind = none := by simpa using again
            have value := Names.document_of_readName one room
            refine ⟨("kind", found.toJson) :: all, ?_, ?_, ?_⟩
            · simp only [Json.readMembers, turn, separator, bind, Except.bind]
              rw [value]
              simp only [loop]
              rfl
            · simp [same]
            · rw [tagged, absent]
              simp [tag]
          · simp only [here, if_false] at read
            obtain ⟨start, separator, read⟩ := bind_eq_ok read
            obtain ⟨⟨j, after⟩, one, read⟩ := bind_eq_ok read
            obtain ⟨⟨⟨found, others⟩, last⟩, loop, read⟩ := bind_eq_ok read
            cases read
            obtain ⟨all, loop, same, tagged⟩ := inductionHypothesis loop
            refine ⟨(key, j) :: all, ?_, ?_, ?_⟩
            · simp only [Json.readMembers, turn, separator, one, loop, bind, Except.bind]
            · simp [same, here]
            · simp [tagged, here]

theorem only?_filter {key other : String} (different : key ≠ other)
    (members : List (String × Json)) :
    only? key (members.filter fun member => member.1 != other) = only? key members := by
  unfold only?
  rw [List.filter_filter]
  congr 1
  apply List.filter_congr
  intro member _
  by_cases here : member.1 = key
  · simp [here, different]
  · simp [here]

/-- A list that starts with a name is read as the name and the items behind it. -/
theorem document_of_readName {α : Type} {names : Names α} {room : Nat} {x : α} {items : List Json}
    {input start after rest : Bytes} (turn : nextItem true input = .ok (true, start))
    (first : names.readName start = .ok (x, after))
    (others : readItems (document room) (budgetFor after) false after = .ok (items, rest)) :
    document (room + 1) (0x5B :: input) = .ok (.array (.string (names.name x) :: items), rest) := by
  have name := Names.document_of_readName first room
  have enough : items.length < input.length := by
    have front := length_le_of_nextItem turn
    have one := (document_skipped room).length_le name
    have behind := length_lt_of_readItems others
    omega
  have all := readItems_cons turn name (readItems_of_length_lt others enough)
  rw [document, readWith_list]
  simp only [budgetFor, all, Except.map]

/-- What is read with the kind set apart is a document that holds the kind and the fields. -/
theorem document_of_readTagged {room : Nat} {input rest : Bytes} {kind : EventKind} {fields : Json}
    (read : readTagged room input = .ok ((kind, fields), rest)) :
    ∃ j, document room input = .ok (j, rest) ∧ j.part? "kind" 0 = some kind.toJson ∧
      ∀ key place, key ≠ "kind" → j.part? key (place + 1) = fields.part? key place := by
  rw [readTagged] at read
  rw [← document_skipBlanks]
  split at read
  · cases read
  · next b tail skipped =>
      rw [skipped]
      split_ifs at read with object list
      · cases room with
        | zero => cases read
        | succ room =>
            obtain ⟨⟨⟨kind?, members⟩, after⟩, loop, read⟩ := bind_eq_ok read
            cases kind? with
            | none => cases read
            | some found =>
                cases read
                obtain ⟨all, loop, same, tagged⟩ := members_of_readMembers loop
                refine ⟨.object all, ?_, ?_, ?_⟩
                · rw [object, document, readWith_object]
                  simp only [loop, Except.map]
                · exact only?_of_filter tagged.symm
                · intro key place different
                  subst same
                  exact (only?_filter different all).symm
      · cases room with
        | zero => cases read
        | succ room =>
            obtain ⟨⟨more, start⟩, turn, read⟩ := bind_eq_ok read
            cases more with
            | false => cases read
            | true =>
                obtain ⟨⟨found, after⟩, one, read⟩ := bind_eq_ok read
                obtain ⟨⟨items, last⟩, loop, read⟩ := bind_eq_ok read
                cases read
                refine ⟨.array (kind.toJson :: items), ?_, rfl, fun key place _ => rfl⟩
                rw [list]
                exact document_of_readName turn one loop

/-! ### What an event says -/

def element? : Event → Option Element
  | elementAdded _ _ element | elementRemoved _ _ element | elementUpdated _ _ element =>
      some element
  | submodelAdded _ | submodelRemoved _ | elementValueChanged _ _ _ => none

def value? : Event → Option Value
  | elementValueChanged _ _ value => some value
  | _ => none

/-- All that the event says stands in the document. -/
structure StandsIn (event : Event) (j : Json) : Prop where
  kind : j.part? "kind" 0 = some event.kind.toJson
  ids : ∃ part, j.part? "ids" 1 = some part ∧ EntityIds.format.ofJson part = .ok event.ids
  path {path : String} : event.path? = some path → j.part? "path" 2 = some (.string path)
  element {element : Element} : event.element? = some element →
    ∃ part, j.part? "element" 3 = some part ∧ Element.ofJson part = .ok element
  value {value : Value} : event.value? = some value →
    ∃ part, j.part? "value" 3 = some part ∧ Value.ofJson part = value

theorem standsIn_of_ofJson {j fields : Json} {kind : EventKind} {event : Event}
    (tagged : j.part? "kind" 0 = some kind.toJson)
    (same : ∀ key place, key ≠ "kind" → j.part? key (place + 1) = fields.part? key place)
    (accepted : (record kind).ofJson fields = .ok event) : event.StandsIn j := by
  have keys : ((record kind).fields.map (record kind).key).Nodup := by
    cases kind <;> decide
  obtain ⟨draft, finished, taken⟩ := (record kind).exists_draft_of_ofJson accepted keys
  have part : ∀ (place : Nat) (f : Field) (x : f.Ty), (Field.ofKind kind)[place]? = some f →
      (record kind).valueOf draft f = .ok x →
      ∃ part, j.part? f.key (place + 1) = some part ∧ f.format.ofJson part = .ok x := by
    intro place f x present given
    obtain ⟨part, found, one⟩ := taken place f x present rfl given
    refine ⟨part, ?_, one⟩
    rw [same f.key place (by cases f <;> decide)]
    exact found
  obtain ⟨ids, first, finished⟩ := bind_eq_ok finished
  have path : ∀ path : String, (Field.ofKind kind)[1]? = some .path →
      (record kind).valueOf draft .path = .ok path → j.part? "path" 2 = some (.string path) := by
    intro path present given
    obtain ⟨found, stands, one⟩ := part 1 .path path present given
    rw [← Format.string_of_ofJson one]
    exact stands
  cases kind with
  | submodelAdded | submodelRemoved =>
      cases finished
      exact ⟨tagged, part 0 .ids ids rfl first, nofun, nofun, nofun⟩
  | elementAdded | elementRemoved | elementUpdated =>
      obtain ⟨path', second, finished⟩ := bind_eq_ok finished
      obtain ⟨element, third, finished⟩ := bind_eq_ok finished
      cases finished
      refine ⟨tagged, part 0 .ids ids rfl first, ?_, ?_, nofun⟩
      · rintro _ ⟨⟩
        exact path path' rfl second
      · rintro _ ⟨⟩
        exact part 2 .element element rfl third
  | elementValueChanged =>
      obtain ⟨path', second, finished⟩ := bind_eq_ok finished
      obtain ⟨value, third, finished⟩ := bind_eq_ok finished
      cases finished
      refine ⟨tagged, part 0 .ids ids rfl first, ?_, nofun, ?_⟩
      · rintro _ ⟨⟩
        exact path path' rfl second
      · rintro _ ⟨⟩
        obtain ⟨found, stands, one⟩ := part 2 .value value rfl third
        exact ⟨found, stands, Except.ok.inj one⟩

/-- An accepted text is that of a document within the limit of nesting, and what the event says
stands in it. -/
theorem exists_document_of_parse {text : Bytes} {event : Event}
    (accepted : parse text = .ok event) :
    ∃ j, Spells text j ∧ j.depth ≤ depthLimit ∧ event.StandsIn j := by
  rw [parse] at accepted
  cases read : readTagged depthLimit text with
  | error fault =>
      rw [read] at accepted
      cases accepted
  | ok result =>
      rcases result with ⟨⟨kind, fields⟩, rest⟩
      rw [read] at accepted
      simp only at accepted
      obtain ⟨j, document, tagged, same⟩ := document_of_readTagged read
      split at accepted
      · cases accepted
      · next event' built =>
          split at accepted
          · cases accepted
          · next ended =>
              cases accepted
              exact ⟨j, ⟨depthLimit, rest, document, ended⟩, depth_le_of_document document,
                standsIn_of_ofJson tagged same built⟩

end Event

end ShellBridge
