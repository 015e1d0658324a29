import ShellBridge.Frame
import ShellBridge.Proofs.Json.Formats

/-!
What a reply tells of the message that it answers.

A reply refers to a message number by a text: a string stands for itself, and anything else is
written out.  Among strings the text tells the message number, and so it does among all others.
But a string may hold the very text of a message number of another type, and a reply does not tell
which of the two it answers.
-/

namespace ShellBridge

open Json

theorem Json.Value.text_injective {value other : Value} (plain : value.val.FloatFree)
    (otherPlain : other.val.FloatFree) (same : value.val.text = other.val.text) :
    value = other := by
  have bytes : value.val.bytes = other.val.bytes := by
    have bytes_text : ∀ j : Json, utf8 j.text = j.bytes := by
      intro j
      rw [utf8, text, String.toList_ofList, Json.bytes]
    rw [← bytes_text, same, bytes_text]
  exact (Value.bytes_inj plain otherPlain).mp bytes

namespace Frame

variable {messageId other : Value}

@[simp] theorem reference_string (id : String) : reference (.string id) = id := rfl

theorem reference_of_ne (noString : ∀ id, messageId ≠ .string id) :
    reference messageId = messageId.val.text := by
  obtain ⟨document, canonical⟩ := messageId
  cases document with
  | string id => exact absurd rfl (noString id)
  | null | bool | number | array | object => rfl

/-- The message number is a string that holds the text of the other one, which is no string. -/
def Quotes (messageId other : Value) : Prop :=
  (∀ id, other ≠ .string id) ∧ messageId = .string other.val.text

theorem Quotes.reference_eq (quotes : Quotes messageId other) :
    reference messageId = reference other := by
  obtain ⟨noString, rfl⟩ := quotes
  exact (reference_of_ne noString).symm

/-- A string and what is no string have one reference only if the string holds its text. -/
theorem quotes_of_reference_eq {id : String} (noString : ∀ id, other ≠ .string id)
    (same : reference (.string id) = reference other) : Quotes (.string id) other :=
  ⟨noString, congrArg Value.string (same.trans (reference_of_ne noString))⟩

theorem reference_eq_iff (plain : messageId.val.FloatFree) (otherPlain : other.val.FloatFree) :
    reference messageId = reference other ↔
      messageId = other ∨ Quotes messageId other ∨ Quotes other messageId := by
  constructor
  · intro same
    by_cases string : ∃ id, messageId = .string id
    · obtain ⟨id, rfl⟩ := string
      by_cases otherString : ∃ id, other = .string id
      · obtain ⟨id', rfl⟩ := otherString
        exact .inl (congrArg Value.string same)
      · exact .inr (.inl (quotes_of_reference_eq (not_exists.mp otherString) same))
    · have noString := not_exists.mp string
      by_cases otherString : ∃ id, other = .string id
      · obtain ⟨id', rfl⟩ := otherString
        exact .inr (.inr (quotes_of_reference_eq noString same.symm))
      · rw [reference_of_ne noString, reference_of_ne (not_exists.mp otherString)] at same
        exact .inl (Value.text_injective plain otherPlain same)
  · rintro (rfl | quotes | quotes)
    · rfl
    · exact quotes.reference_eq
    · exact quotes.reference_eq.symm

/-- A call with the given message number. -/
def numbered (messageId : Value) : Frame :=
  ⟨"call", none, none, "c", messageId, none, none, .global "IRI" "p"⟩

/-- The text is `{"a":[true]}`. -/
def flags : Json :=
  .object [("a", .array [.bool true])]

theorem isCanonical_flags : flags.IsCanonical := by
  simp [flags, IsCanonical, MembersCanonical, AllCanonical]

/-- Replies to two frames refer to them by the same text if and only if their message numbers are
the same, or one is a string that holds the text of the other, which is no string. -/
theorem reply_inReplyTo_eq_iff (frame other : Frame) (plain : frame.messageId.val.FloatFree)
    (otherPlain : other.messageId.val.FloatFree) :
    frame.reply.inReplyTo = other.reply.inReplyTo ↔
      frame.messageId = other.messageId ∨ Quotes frame.messageId other.messageId ∨
        Quotes other.messageId frame.messageId :=
  (Option.some_inj (a := reference frame.messageId)).trans (reference_eq_iff plain otherPlain)

/-- An object is referred to as the string of its text is, and two strings are told apart. -/
theorem reply_inReplyTo_eq_iff_of_object :
    let object : Value := ⟨flags, isCanonical_flags⟩
    object.val.FloatFree ∧ (Value.string "\x7b\"a\":[true]\x7d").val.FloatFree ∧
      (numbered object).reply.inReplyTo =
        (numbered (.string "\x7b\"a\":[true]\x7d")).reply.inReplyTo ∧
      (numbered (.string "1")).reply.inReplyTo ≠ (numbered (.string "01")).reply.inReplyTo := by
  intro object
  have plain : object.val.FloatFree := ⟨⟨trivial, trivial⟩, trivial⟩
  refine ⟨plain, trivial, ?_, ?_⟩
  · apply (reply_inReplyTo_eq_iff (numbered object) (numbered (.string _)) plain trivial).mpr
    refine .inr (.inr ⟨?_, by decide⟩)
    intro id same
    cases congrArg Subtype.val same
  · intro same
    rcases (reply_inReplyTo_eq_iff (numbered (.string "1")) (numbered (.string "01")) trivial
      trivial).mp same with equal | quotes | quotes
    · exact absurd equal (by decide)
    · exact quotes.1 _ rfl
    · exact quotes.1 _ rfl

/-- The number one and the string of this digit are different message numbers of valid frames in
one conversation, and replies refer to both by the same text. -/
theorem not_distinguished_of_digit :
    let number : Value := .ofInteger ⟨1, by decide, by decide⟩
    let digit : Value := .string "1"
    (¬ ∀ frame other : Frame, frame.validate = .ok () → other.validate = .ok () →
        frame.messageId.val.FloatFree → other.messageId.val.FloatFree →
        frame.messageId ≠ other.messageId → frame.reply.inReplyTo ≠ other.reply.inReplyTo) ∧
      (numbered number).validate = .ok () ∧ (numbered digit).validate = .ok () ∧
      number ≠ digit ∧ (numbered number).reply.inReplyTo = some "1" ∧
      (numbered digit).reply.inReplyTo = some "1" := by
  intro number digit
  have different : number ≠ digit := by decide
  have text : (numbered number).reply.inReplyTo = some "1" := by decide
  refine ⟨?_, rfl, rfl, different, text, rfl⟩
  intro distinguished
  exact distinguished (numbered number) (numbered digit) rfl rfl trivial trivial different text

end Frame

end ShellBridge
