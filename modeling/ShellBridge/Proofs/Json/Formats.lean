import ShellBridge.Proofs.Json.Skipping

/-!
Formats and documents.

A format reads a value straight from the text.  It agrees with the reader of documents: where a
document stands, it accepts what the document accepted for a value, provided that there is room for
the parts that it reads.  Members that no field takes are passed over and need no room.
-/

namespace ShellBridge.Json

open Scan

/-- The byte is the first one of a document of this type. -/
def IsOpener (b : UInt8) : Json → Prop
  | .null => b = 0x6E
  | .string _ => b = 0x22
  | .array _ => b = 0x5B
  | .object _ => b = 0x7B
  | .bool _ | .number _ => b ≠ 0x6E ∧ b ≠ 0x22 ∧ b ≠ 0x5B ∧ b ≠ 0x7B

theorem Opens.starts {nested : Option (Read Json)} {input rest : Bytes} {j : Json}
    (opens : Opens nested input j rest) :
    ∃ b tail, skipBlanks input = b :: tail ∧ IsOpener b j := by
  cases opens with
  | null skipped word => exact ⟨_, _, skipped, rfl⟩
  | true skipped word =>
      exact ⟨_, _, skipped, by decide, by decide, by decide, by decide⟩
  | false skipped word =>
      exact ⟨_, _, skipped, by decide, by decide, by decide, by decide⟩
  | @number b tail _ n skipped sign numeral =>
      have different : ∀ c : UInt8, c ≠ 0x2D → isDigit c = Bool.false → b ≠ c := by
        intro c noSign noDigit
        rcases sign with rfl | digit
        · exact Ne.symm noSign
        · exact ne_of_isDigit digit noDigit
      exact ⟨b, tail, skipped, different _ (by decide) (by decide),
        different _ (by decide) (by decide), different _ (by decide) (by decide),
        different _ (by decide) (by decide)⟩
  | string skipped text => exact ⟨_, _, skipped, rfl⟩
  | list skipped given loop => exact ⟨_, _, skipped, rfl⟩
  | object skipped given loop => exact ⟨_, _, skipped, rfl⟩

theorem document_opens {room : Nat} {input rest : Bytes} {j : Json}
    (read : document room input = .ok (j, rest)) :
    ∃ nested, Opens nested input j rest ∧
      ∀ item, nested = some item → ∃ inner, item = document inner := by
  cases room with
  | zero => exact ⟨none, readWith_opens read, fun item given => nomatch given⟩
  | succ room =>
      exact ⟨some (document room), readWith_opens read,
        fun item given => ⟨room, (Option.some.inj given).symm⟩⟩

namespace Format

variable {α : Type}

/-- What a format accepts of a document, if the room is enough for what it needs. -/
def accept (format : Format α) (need : Json → Nat) (room : Nat) (j : Json) : Option α :=
  if need j ≤ room then (format.ofJson j).toOption else none

/-- Where a document stands, the format accepts what it accepts of the document. -/
def Agrees (format : Format α) (need : Json → Nat) : Prop :=
  ∀ room other, Follows (document room) (format.read other) (format.accept need other)

theorem accept_of_error {format : Format α} {need : Json → Nat} {room : Nat} {j : Json}
    {cause : Cause} (refused : format.ofJson j = .error cause) :
    format.accept need room j = none := by
  simp [accept, refused, toOption_error]

theorem value_agrees : value.Agrees depth := by
  intro room other
  constructor
  intro input rest j read
  have again := (document_follows room other).toOption_eq read
  show (Value.reader other input).toOption = _
  rw [Value.reader, toOption_bind, again, within, accept]
  by_cases fits : j.depth ≤ other
  · simp only [fits, if_true, Option.map_some, Option.bind_some, toOption_ok]
    rfl
  · simp [fits]

theorem readText_of_ne {b : UInt8} {input tail : Bytes} (skipped : skipBlanks input = b :: tail)
    (different : b ≠ 0x22) (room : Nat) :
    readText room input = .error (wrongType "a string" (b :: tail)) := by
  rw [readText, skipped]
  simp [different]

theorem text_agrees : text.Agrees fun _ => 0 := by
  intro room other
  constructor
  intro input rest j read
  obtain ⟨nested, opens, _⟩ := document_opens read
  obtain ⟨b, tail, skipped, opener⟩ := opens.starts
  rw [accept, if_pos (Nat.zero_le _)]
  cases j with
  | string s =>
      cases opens with
      | string skipped string =>
          show (readText other input).toOption = _
          rw [readText, skipped]
          simp only [string]
          rfl
  | null | bool b' | number n | array items | object members =>
      have different : b ≠ 0x22 := by
        rintro rfl
        simp [IsOpener] at opener
      show (readText other input).toOption = _
      rw [readText_of_ne skipped different]
      rfl

theorem string_of_ofJson {j : Json} {s : String} (accepted : text.ofJson j = .ok s) :
    j = .string s := by
  cases j with
  | string s' =>
      cases accepted
      rfl
  | null | bool b | number n | array items | object members => cases accepted

theorem readOptional_of_ne {b : UInt8} {input tail : Bytes}
    (skipped : skipBlanks input = b :: tail) (different : b ≠ 0x6E) (format : Format α)
    (room : Nat) :
    (optional format).read room input =
      (format.read room (b :: tail)).map fun (x, rest) => (some x, rest) := by
  simp [optional, skipped, different]

/-- The room that a value needs if it is there. -/
def optionalNeed (need : Json → Nat) (j : Json) : Nat :=
  if j = .null then 0 else need j

theorem optionalNeed_le_depth {need : Json → Nat} (least : ∀ j, need j ≤ j.depth) (j : Json) :
    optionalNeed need j ≤ j.depth := by
  unfold optionalNeed
  split
  · exact Nat.zero_le _
  · exact least j

theorem optional_agrees {format : Format α} {need : Json → Nat} (agrees : format.Agrees need) :
    (optional format).Agrees (optionalNeed need) := by
  intro room other
  constructor
  intro input rest j read
  obtain ⟨nested, opens, _⟩ := document_opens read
  obtain ⟨b, tail, skipped, opener⟩ := opens.starts
  by_cases null : j = .null
  · subst null
    cases opens with
    | null skipped word =>
        simp only [optional, skipped, word, accept, optionalNeed, if_true, Nat.zero_le]
        rfl
  · have different : b ≠ 0x6E := by
      rintro rfl
      cases j <;> simp [IsOpener] at opener null
    have present : (optional format).ofJson j = (format.ofJson j).map some := by
      cases j <;> first | exact absurd rfl null | rfl
    rw [← document_skipBlanks] at read
    have follows := (agrees room other).toOption_eq read
    rw [skipped] at follows
    rw [accept, present, optionalNeed, if_neg null, readOptional_of_ne skipped different,
      toOption_map, follows, accept]
    by_cases fits : need j ≤ other
    · cases accepted : format.ofJson j <;> simp [fits, toOption_map, toOption_ok, toOption_error]
    · simp [fits]

theorem mapM_accept (format : Format α) (need : Json → Nat) (room : Nat) (items : List Json) :
    items.mapM (format.accept need room) =
      if greatest need items ≤ room then (listOfJson format items).toOption else none := by
  induction items with
  | nil => simp [listOfJson, toOption_ok]
  | cons item rest inductionHypothesis =>
      rw [List.mapM_cons, inductionHypothesis, accept, listOfJson]
      simp only [greatest_cons, Nat.max_le]
      by_cases one : need item ≤ room <;> by_cases others : greatest need rest ≤ room <;>
        simp [one, others, toOption_bind, toOption_ok]

/-- What was written item by item is read for the same items. -/
theorem listOfJson_map {format : Format α} {toJson : α → Json} {xs : List α}
    (reads : ∀ x ∈ xs, format.ofJson (toJson x) = .ok x) :
    listOfJson format (xs.map toJson) = .ok xs := by
  induction xs with
  | nil => rfl
  | cons x xs inductionHypothesis =>
      have first := reads x List.mem_cons_self
      have others := inductionHypothesis fun y behind => reads y (List.mem_cons_of_mem x behind)
      rw [List.map_cons, listOfJson, first, others]
      rfl

theorem readList_of_ne {b : UInt8} {input tail : Bytes} (skipped : skipBlanks input = b :: tail)
    (different : b ≠ 0x5B) (format : Format α) (room : Nat) :
    (list format).read room input = .error (wrongType "a sequence" (b :: tail)) := by
  simp [list, skipped, different]

/-- The room that the items of a list need, and the list around them. -/
def listNeed (need : Json → Nat) : Json → Nat
  | .array items => greatest need items + 1
  | _ => 0

theorem listNeed_le_depth {need : Json → Nat} (least : ∀ j, need j ≤ j.depth) (j : Json) :
    listNeed need j ≤ j.depth := by
  cases j with
  | array items =>
      apply Nat.succ_le_succ
      rw [greatest_le_iff]
      intro item membership
      exact Nat.le_trans (least item) (depth_le_of_mem_items membership)
  | null | bool b | number n | string s | object members => exact Nat.zero_le _

theorem list_agrees {format : Format α} {need : Json → Nat} (agrees : format.Agrees need) :
    (list format).Agrees (listNeed need) := by
  intro room other
  constructor
  intro input rest j read
  obtain ⟨nested, opens, inside⟩ := document_opens read
  obtain ⟨b, tail, skipped, opener⟩ := opens.starts
  cases j with
  | array items =>
      cases opens with
      | @list tail _ item _ skipped given loop =>
          obtain ⟨inner, rfl⟩ := inside item given
          cases other with
          | zero => simp [list, skipped, accept, listNeed, toOption_error]
          | succ other =>
              have items := (agrees inner other).readItems loop
              rw [mapM_accept] at items
              simp only [list, skipped, items, accept, listNeed, Nat.add_le_add_iff_right]
  | null | bool b' | number n | string s | object members =>
      have different : b ≠ 0x5B := by
        rintro rfl
        simp [IsOpener] at opener
      rw [readList_of_ne skipped different, accept_of_error rfl]
      rfl

end Format

/-! ### Whole texts -/

theorem Format.exists_read_of_parse {α : Type} {format : Format α} {text : Bytes} {x : α}
    (accepted : format.parse text = .ok x) :
    ∃ rest, format.read depthLimit text = .ok (x, rest) := by
  rw [Format.parse, whole] at accepted
  cases taken : format.read depthLimit text with
  | error fault =>
      rw [taken] at accepted
      cases accepted
  | ok pair =>
      rcases pair with ⟨y, rest⟩
      simp only [taken] at accepted
      split at accepted
      · cases accepted
      · cases accepted
        exact ⟨rest, rfl⟩

/-- The text is that of the document, whatever room this needs. -/
def Spells (text : Bytes) (j : Json) : Prop :=
  ∃ room rest, document room text = .ok (j, rest) ∧ endOfText text rest = none

theorem Layout.spells {j : Json} {text : Bytes} (layout : Layout j text) : Spells text j := by
  have read := layout.document_eq (Nat.le_refl j.depth) Numeral.ends_nil
  rw [List.append_nil] at read
  exact ⟨j.depth, [], read, rfl⟩

theorem spells_bytes {j : Json} (plain : j.FloatFree) : Spells j.bytes j :=
  (layout_bytes j plain).spells

/-- A format accepts the text of a document as it accepts the document, up to the limit of
nesting. -/
theorem Format.Agrees.parse_toOption {α : Type} {format : Format α} {need : Json → Nat}
    (agrees : format.Agrees need) {text : Bytes} {j : Json} (spells : Spells text j) :
    (format.parse text).toOption = format.accept need depthLimit j := by
  obtain ⟨room, rest, read, ended⟩ := spells
  have follows := (agrees room depthLimit).toOption_eq read
  rw [Format.parse, whole]
  cases accepted : format.accept need depthLimit j with
  | none =>
      rw [accepted] at follows
      obtain ⟨fault, refused⟩ := eq_error_of_toOption follows
      rw [refused]
      rfl
  | some x =>
      rw [accepted] at follows
      rw [eq_ok_of_toOption follows]
      simp only [ended]
      rfl

/-- A text is that of one document only. -/
theorem Spells.unique {text : Bytes} {j other : Json} (spells : Spells text j)
    (again : Spells text other) : j = other := by
  obtain ⟨room, rest, read, _⟩ := spells
  obtain ⟨room', rest', read', _⟩ := again
  have follows := (document_follows room room').toOption_eq read
  rw [read', toOption_ok, within] at follows
  split at follows
  · cases follows
    rfl
  · cases follows

/-- The text of a document is read as this document, up to the limit of nesting. -/
theorem Spells.parse_value {text : Bytes} {j : Json} (spells : Spells text j)
    (fits : j.depth ≤ depthLimit) : Value.parse text = .ok (.ofJson j) := by
  apply eq_ok_of_toOption
  have read := Format.value_agrees.parse_toOption spells
  rw [Format.accept, if_pos fits] at read
  exact read

/-- The compact text of a document reads back, up to the limit of nesting. -/
theorem Value.parse_bytes {j : Json} (plain : j.FloatFree) (fits : j.depth ≤ depthLimit) :
    Value.parse j.bytes = .ok (.ofJson j) :=
  (spells_bytes plain).parse_value fits

/-- Documents without floats have different compact texts. -/
theorem bytes_injective {j other : Json} (plain : j.FloatFree) (otherPlain : other.FloatFree)
    (same : j.bytes = other.bytes) : j = other := by
  apply (spells_bytes plain).unique
  rw [same]
  exact spells_bytes otherPlain

theorem Value.bytes_inj {value other : Value} (plain : value.val.FloatFree)
    (otherPlain : other.val.FloatFree) : value.val.bytes = other.val.bytes ↔ value = other := by
  constructor
  · intro same
    exact Subtype.ext (bytes_injective plain otherPlain same)
  · rintro rfl
    rfl

end ShellBridge.Json
