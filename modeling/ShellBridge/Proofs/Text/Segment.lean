import ShellBridge.Proofs.Text.Identifier

/-!
Which texts are segments of identifiers.

Identifiers and their segments stand one for one: a segment is read as the identifier that it was
written for, and a text that was written for none is refused.  Such a text has a sign that is not of
the alphabet, or a length that no bytes are written with, or bits behind its last byte, or its bytes
are not UTF-8; nothing else is wrong with any.
-/

namespace ShellBridge.Identifier

/-- The signs of segments.  Each of them stands for the number of its place. -/
def alphabet : List Char :=
  "ABCDEFGHIJKLMNOPQRSTUVWXYZabcdefghijklmnopqrstuvwxyz0123456789-_".toList

/-- The sign that stands for a number below 64. -/
def sign (n : Nat) : Char :=
  .ofNat (Base64Url.symbol n).toNat

theorem alphabet_eq : alphabet = (List.range 64).map sign := by
  decide

theorem mem_alphabet_iff {c : Char} : c ∈ alphabet ↔ ∃ n < 64, sign n = c := by
  rw [alphabet_eq, List.mem_map]
  simp only [List.mem_range]

theorem idxOf_sign : ∀ n < 64, alphabet.idxOf (sign n) = n := by
  decide

theorem sign_idxOf {c : Char} (known : c ∈ alphabet) : sign (alphabet.idxOf c) = c := by
  obtain ⟨n, small, rfl⟩ := mem_alphabet_iff.mp known
  rw [idxOf_sign n small]

theorem idxOf_lt {c : Char} (known : c ∈ alphabet) : alphabet.idxOf c < 64 :=
  List.idxOf_lt_length_of_mem known

theorem toList_asciiText_encode (bytes : Bytes) :
    (asciiText (Base64Url.encode bytes)).toList = (Base64Url.split bytes).map sign := by
  rw [asciiText, String.toList_ofList, Base64Url.encode_eq_map, List.map_map]
  rfl

/-- The signs that bytes are written with stand for their sextets. -/
theorem map_idxOf_asciiText_encode (bytes : Bytes) :
    (asciiText (Base64Url.encode bytes)).toList.map alphabet.idxOf = Base64Url.split bytes := by
  rw [toList_asciiText_encode, List.map_map]
  calc (Base64Url.split bytes).map (alphabet.idxOf ∘ sign) = (Base64Url.split bytes).map id := by
        apply List.map_congr_left
        intro n membership
        exact idxOf_sign n (Base64Url.lt_of_mem_split membership)
    _ = Base64Url.split bytes := List.map_id _

theorem bytes_eq_of_asciiText_encode {bytes others : Bytes}
    (same : asciiText (Base64Url.encode bytes) = asciiText (Base64Url.encode others)) :
    bytes = others := by
  have sextets := map_idxOf_asciiText_encode bytes
  rw [same, map_idxOf_asciiText_encode] at sextets
  have grouped := Base64Url.regroup_split bytes
  rw [← sextets, Base64Url.regroup_split] at grouped
  exact (Option.some.inj grouped).symm

theorem mem_alphabet_of_mem_encode {id : String} {c : Char} (membership : c ∈ (encode id).toList) :
    c ∈ alphabet := by
  rw [encode, toList_asciiText_encode] at membership
  obtain ⟨n, inSplit, rfl⟩ := List.mem_map.mp membership
  exact mem_alphabet_iff.mpr ⟨n, Base64Url.lt_of_mem_split inSplit, rfl⟩

/-- What keeps a text from being the segment of an identifier. -/
inductive Faulty (segment : String) : Prop
  /-- A sign that is not of the alphabet, such as one of padding. -/
  | foreign (c : Char) : c ∈ segment.toList → c ∉ alphabet → Faulty segment
  /-- A sign stands alone behind the groups of four. -/
  | length : segment.toList.length % 4 = 1 → Faulty segment
  | strayBits : Base64Url.StrayBits (segment.toList.map alphabet.idxOf) → Faulty segment
  /-- The bytes are those of no text. -/
  | bytes (bytes : Bytes) : segment = asciiText (Base64Url.encode bytes) →
      (∀ id, ShellBridge.utf8 id ≠ bytes) → Faulty segment

/-- With sound signs, length and bits, a text is the one that some bytes are written as. -/
theorem exists_bytes {segment : String} (signs : ∀ c ∈ segment.toList, c ∈ alphabet)
    (length : segment.toList.length % 4 ≠ 1)
    (whole : ¬ Base64Url.StrayBits (segment.toList.map alphabet.idxOf)) :
    ∃ bytes, segment = asciiText (Base64Url.encode bytes) := by
  have small : ∀ n ∈ segment.toList.map alphabet.idxOf, n < 64 := by
    intro n membership
    obtain ⟨c, inSegment, rfl⟩ := List.mem_map.mp membership
    exact idxOf_lt (signs c inSegment)
  cases grouped : Base64Url.regroup (segment.toList.map alphabet.idxOf) with
  | none =>
      rcases (Base64Url.regroup_eq_none_iff _).mp grouped with alone | stray
      · rw [List.length_map] at alone
        exact absurd alone length
      · exact absurd stray whole
  | some bytes =>
      refine ⟨bytes, ?_⟩
      apply String.toList_injective
      rw [toList_asciiText_encode, Base64Url.split_of_regroup small grouped, List.map_map]
      calc segment.toList = segment.toList.map id := (List.map_id _).symm
        _ = segment.toList.map (sign ∘ alphabet.idxOf) := by
            apply List.map_congr_left
            intro c membership
            exact (sign_idxOf (signs c membership)).symm

/-- Nothing is refused but for a fault. -/
theorem faulty_of_refused {segment : String} {refusal : Refusal}
    (refused : decode segment = .error refusal) : Faulty segment := by
  apply Classical.byContradiction
  intro sound
  obtain ⟨bytes, written⟩ : ∃ bytes, segment = asciiText (Base64Url.encode bytes) := by
    apply exists_bytes
    · intro c membership
      apply Classical.byContradiction
      intro unknown
      exact sound (.foreign c membership unknown)
    · intro alone
      exact sound (.length alone)
    · intro stray
      exact sound (.strayBits stray)
  by_cases text : ∃ id, ShellBridge.utf8 id = bytes
  · obtain ⟨id, rfl⟩ := text
    have read : decode segment = .ok id := decode_eq_ok_iff.mpr written
    rw [refused] at read
    cases read
  · exact sound (.bytes bytes written (not_exists.mp text))

/-- The segments that are written have no fault. -/
theorem not_faulty_encode (id : String) : ¬ Faulty (encode id) := by
  have sextets := map_idxOf_asciiText_encode (ShellBridge.utf8 id)
  intro faulty
  cases faulty with
  | foreign c membership unknown => exact unknown (mem_alphabet_of_mem_encode membership)
  | length alone =>
      apply Base64Url.length_split_mod (ShellBridge.utf8 id)
      rw [← sextets, List.length_map]
      exact alone
  | strayBits stray =>
      rw [encode, sextets] at stray
      have refused := (Base64Url.regroup_eq_none_iff _).mpr (.inr stray)
      rw [Base64Url.regroup_split] at refused
      cases refused
  | bytes bytes written foreign => exact foreign id (bytes_eq_of_asciiText_encode written)

theorem refused_iff_faulty {segment : String} :
    (∃ refusal, decode segment = .error refusal) ↔ Faulty segment := by
  constructor
  · rintro ⟨refusal, refused⟩
    exact faulty_of_refused refused
  · intro faulty
    cases read : decode segment with
    | error refusal => exact ⟨refusal, rfl⟩
    | ok id =>
        rw [← encode_of_decode read] at faulty
        exact absurd faulty (not_faulty_encode id)

/-- Identifiers and segments stand one for one.  Every identifier is written with the signs of the
alphabet and reads back; every text that is read is the segment of the identifier that it is read
as, so no two are read alike; and just the texts with a fault are refused. -/
theorem segments_exact :
    (∀ id, (∀ c ∈ (encode id).toList, c ∈ alphabet) ∧ decode (encode id) = .ok id) ∧
    (∀ segment id, decode segment = .ok id → encode id = segment) ∧
    (∀ segment segment' id, decode segment = .ok id → decode segment' = .ok id →
      segment = segment') ∧
    ∀ segment, (∃ refusal, decode segment = .error refusal) ↔ Faulty segment := by
  refine ⟨?_, ?_, ?_, ?_⟩
  · intro id
    exact ⟨fun c membership => mem_alphabet_of_mem_encode membership, decode_encode id⟩
  · intro segment id read
    exact encode_of_decode read
  · intro segment segment' id read read'
    rw [← encode_of_decode read, ← encode_of_decode read']
  · intro segment
    exact refused_iff_faulty

/-- A segment, and texts that are refused: with padding, with a sign too many, with a bit behind the
last byte, and with half a character. -/
theorem segments_exact_of_faults :
    decode (encode "ü/") = .ok "ü/" ∧ encode "ü/" = "w7wv" ∧
      (∃ refusal, decode "UQ==" = .error refusal) ∧ (∃ refusal, decode "w7wvU" = .error refusal) ∧
      (∃ refusal, decode "UR" = .error refusal) ∧ ∃ refusal, decode "ww" = .error refusal := by
  obtain ⟨written, read, -, refused⟩ := segments_exact
  have segment : encode "ü/" = "w7wv" := by decide
  refine ⟨(written "ü/").2, segment, ?_, ?_, ?_, ?_⟩
  · exact (refused "UQ==").mpr (.foreign '=' (by decide) (by decide))
  · exact (refused "w7wvU").mpr (.length (by decide))
  · exact (refused "UR").mpr (.strayBits ⟨17, by decide, .inl (by decide)⟩)
  · apply (refused "ww").mpr
    apply Faulty.bytes [0xC3] (by decide)
    intro id half
    have text := Utf8.decode_encode id.toList
    rw [show Utf8.encode id.toList = [0xC3] from half] at text
    cases text

end ShellBridge.Identifier
