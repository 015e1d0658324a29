import ShellBridge.Proofs.Json.Formats

/-!
The indented text of a document.

Like the compact text it is a layout of its document, in which line breaks and indentation are the
blanks.  So whatever reads documents makes no difference between the two.
-/

namespace ShellBridge.Json

open Scan

section Blanks

/-- What stays when one blank is put in front of a text stays when any are. -/
theorem of_blanks {Holds : Bytes → Prop}
    (blank : ∀ {b : UInt8} {text : Bytes}, isBlank b = true → Holds text → Holds (b :: text))
    {blanks text : Bytes} (white : ∀ b ∈ blanks, isBlank b = true) (given : Holds text) :
    Holds (blanks ++ text) := by
  induction blanks with
  | nil => exact given
  | cons b rest inductionHypothesis =>
      obtain ⟨first, others⟩ := List.forall_mem_cons.mp white
      exact blank first (inductionHypothesis others)

/-- Blanks behind a layout of a document are no part of it. -/
theorem Layout.spells_append {j : Json} {text blanks : Bytes} (layout : Layout j text)
    (white : ∀ b ∈ blanks, isBlank b = true) : Spells (text ++ blanks) j := by
  have nothing : skipBlanks blanks = [] := by
    have skipped : skipBlanks (blanks ++ []) = [] :=
      @of_blanks (fun text => skipBlanks text = [])
        (fun first rest => (skipBlanks_cons_of_blank first _).trans rest) _ _ white rfl
    rwa [List.append_nil] at skipped
  have ends : Numeral.Ends blanks := by
    cases blanks with
    | nil => exact Numeral.ends_nil
    | cons b rest => exact ends_of_blank (white b List.mem_cons_self) rest
  refine ⟨j.depth, blanks, layout.document_eq (Nat.le_refl _) ends, ?_⟩
  rw [endOfText, nothing]

theorem isBlank_of_mem_lineBreak (level : Nat) :
    ∀ b ∈ Utf8.encode (lineBreak level), isBlank b = true := by
  intro b membership
  obtain ⟨c, inside, encoded⟩ := List.mem_flatMap.mp membership
  rcases List.mem_cons.mp inside with rfl | indentation
  · rw [List.mem_singleton.mp encoded]
    rfl
  · rw [List.eq_of_mem_replicate indentation] at encoded
    rw [List.mem_singleton.mp encoded]
    rfl

end Blanks

/-! ### The text level by level -/

def indentedBytes (level : Nat) (j : Json) : Bytes :=
  Utf8.encode (indentedChars level j)

/-- The items behind the first one in indented writing. -/
def indentedItemsBytes (level : Nat) (items : List Json) : Bytes :=
  Utf8.encode (indentedItemsChars level items)

/-- The members behind the first one in indented writing. -/
def indentedMembersBytes (level : Nat) (members : List (String × Json)) : Bytes :=
  Utf8.encode (indentedMembersChars level members)

theorem indentedBytes_array (level : Nat) (item : Json) (rest : List Json) :
    indentedBytes level (.array (item :: rest)) =
      0x5B :: ((Utf8.encode (lineBreak (level + 1)) ++ indentedBytes (level + 1) item) ++
        indentedItemsBytes level rest) := by
  simp only [indentedBytes, indentedItemsBytes, indentedChars, Utf8.encode_cons,
    Utf8.encode_append]
  rfl

theorem indentedItemsBytes_cons (level : Nat) (item : Json) (rest : List Json) :
    indentedItemsBytes level (item :: rest) =
      0x2C :: ((Utf8.encode (lineBreak (level + 1)) ++ indentedBytes (level + 1) item) ++
        indentedItemsBytes level rest) := by
  simp only [indentedBytes, indentedItemsBytes, indentedItemsChars, Utf8.encode_cons,
    Utf8.encode_append]
  rfl

/-- A member in indented writing, with the line break in front of it. -/
def indentedMemberBytes (level : Nat) (key : String) (value : Json) : Bytes :=
  Utf8.encode (lineBreak (level + 1)) ++
    (bytes (.string key) ++ 0x3A :: ([0x20] ++ indentedBytes (level + 1) value))

theorem indentedBytes_object (level : Nat) (key : String) (value : Json)
    (rest : List (String × Json)) :
    indentedBytes level (.object ((key, value) :: rest)) =
      0x7B :: (indentedMemberBytes level key value ++ indentedMembersBytes level rest) := by
  simp only [indentedMemberBytes, indentedBytes, indentedMembersBytes, indentedChars, bytes, chars,
    Utf8.encode_cons, Utf8.encode_append, List.append_assoc]
  rfl

theorem indentedMembersBytes_cons (level : Nat) (key : String) (value : Json)
    (rest : List (String × Json)) :
    indentedMembersBytes level ((key, value) :: rest) =
      0x2C :: (indentedMemberBytes level key value ++ indentedMembersBytes level rest) := by
  simp only [indentedMemberBytes, indentedBytes, indentedMembersBytes, indentedMembersChars, bytes,
    chars, Utf8.encode_cons, Utf8.encode_append, List.append_assoc]
  rfl

theorem memberLayout_indented {level : Nat} {key : String} {value : Json}
    (layout : Layout value (indentedBytes (level + 1) value)) :
    MemberLayout (key, value) (indentedMemberBytes level key value) := by
  apply of_blanks MemberLayout.blank (isBlank_of_mem_lineBreak _)
  exact .member (.blank rfl layout)

mutual

/-- The indented text of a document is one of its layouts, at any level. -/
theorem layout_indented (level : Nat) : (j : Json) → j.FloatFree →
    Layout j (indentedBytes level j)
  | .null, _ => .null
  | .bool true, _ => .bool true
  | .bool false, _ => .bool false
  | .number (.int i), _ => .int i
  | .string s, _ => .string s
  | .array [], _ => .empty .nil
  | .array (item :: rest), plain => by
      rw [indentedBytes_array]
      exact .array (of_blanks Layout.blank (isBlank_of_mem_lineBreak _)
        (layout_indented (level + 1) item plain.1)) (itemsLayout_indented level rest plain.2)
  | .object [], _ => .emptyObject .nil
  | .object ((key, value) :: rest), plain => by
      rw [indentedBytes_object]
      exact .object (memberLayout_indented (layout_indented (level + 1) value plain.1))
        (membersLayout_indented level rest plain.2)

theorem itemsLayout_indented (level : Nat) : (items : List Json) → ItemsFloatFree items →
    ItemsLayout items (indentedItemsBytes level items)
  | [], _ => by
      rw [indentedItemsBytes, indentedItemsChars, Utf8.encode_append]
      exact of_blanks ItemsLayout.blank (isBlank_of_mem_lineBreak level) .nil
  | item :: rest, plain => by
      rw [indentedItemsBytes_cons]
      exact .cons (of_blanks Layout.blank (isBlank_of_mem_lineBreak _)
        (layout_indented (level + 1) item plain.1)) (itemsLayout_indented level rest plain.2)

theorem membersLayout_indented (level : Nat) : (members : List (String × Json)) →
    MembersFloatFree members → MembersLayout members (indentedMembersBytes level members)
  | [], _ => by
      rw [indentedMembersBytes, indentedMembersChars, Utf8.encode_append]
      exact of_blanks MembersLayout.blank (isBlank_of_mem_lineBreak level) .nil
  | (key, value) :: rest, plain => by
      rw [indentedMembersBytes_cons]
      exact .cons (memberLayout_indented (layout_indented (level + 1) value plain.1))
        (membersLayout_indented level rest plain.2)

end

theorem utf8_indentedText (j : Json) : utf8 j.indentedText = indentedBytes 0 j := by
  rw [utf8, indentedText, String.toList_ofList, indentedBytes]

/-- The indented text, with any blanks behind it, is that of its document. -/
theorem spells_indented {j : Json} (plain : j.FloatFree) {blanks : Bytes}
    (white : ∀ b ∈ blanks, isBlank b = true) : Spells (utf8 j.indentedText ++ blanks) j := by
  rw [utf8_indentedText]
  exact (layout_indented 0 j plain).spells_append white

end ShellBridge.Json
