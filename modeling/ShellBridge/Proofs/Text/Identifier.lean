import ShellBridge.Identifier
import ShellBridge.Proofs.Text.Base64Url

/-!
Identifiers as topic segments: every identifier reads back from its segment and from no other, and
no segment holds a separator.
-/

namespace ShellBridge.Identifier

theorem utf8_asciiText {bytes : Bytes} (ascii : ∀ b ∈ bytes, b.toNat < 0x80) :
    ShellBridge.utf8 (asciiText bytes) = bytes := by
  rw [ShellBridge.utf8, asciiText, String.toList_ofList]
  induction bytes with
  | nil => rfl
  | cons b rest inductionHypothesis =>
      have small := ascii b (by simp)
      rw [List.map_cons, Utf8.encode_cons, Utf8.encodeChar_one small,
        inductionHypothesis fun c membership => ascii c (List.mem_cons_of_mem b membership)]
      rfl

theorem ascii_encode (id : String) :
    ∀ b ∈ Base64Url.encode (ShellBridge.utf8 id), b.toNat < 0x80 := by
  intro b membership
  apply Base64Url.lt_of_isSome_sextet?
  exact Base64Url.isSome_sextet?_of_mem_encode membership

/-- Every identifier reads back from its segment. -/
theorem decode_encode (id : String) : decode (encode id) = .ok id := by
  simp only [decode, encode, utf8_asciiText (ascii_encode id), Base64Url.decode_encode]
  rw [ShellBridge.utf8, Utf8.decode_encode]
  simp only [String.ofList_toList]

/-- No two identifiers have the same segment. -/
theorem encode_inj {id other : String} : encode id = encode other ↔ id = other := by
  constructor
  · intro same
    have read := decode_encode id
    rw [same, decode_encode] at read
    exact (Except.ok.inj read).symm
  · rintro rfl
    rfl

theorem separator_not_mem_encode (id : String) : '/' ∉ (encode id).toList := by
  intro membership
  rw [encode, asciiText, String.toList_ofList] at membership
  rcases List.mem_map.mp membership with ⟨b, inEncoding, equality⟩
  have symbol := Base64Url.isSome_sextet?_of_mem_encode inEncoding
  have small := Base64Url.lt_of_isSome_sextet? symbol
  have character := Utf8.toNat_ofNat_of_valid (n := b.toNat) (.inl (by omega))
  have value : b = 0x2F := by
    apply UInt8.toNat_inj.mp
    rw [← character, equality]
    rfl
  rw [value] at symbol
  revert symbol
  decide

theorem utf8_injective {s t : String} (same : ShellBridge.utf8 s = ShellBridge.utf8 t) : s = t := by
  have read := Utf8.decode_encode s.toList
  rw [show Utf8.encode s.toList = Utf8.encode t.toList from same, Utf8.decode_encode] at read
  rw [← String.ofList_toList (s := s), ← Except.ok.inj read, String.ofList_toList]

/-- A segment that is read as an identifier is the one that is written of it. -/
theorem encode_of_decode {segment id : String} (read : decode segment = .ok id) :
    encode id = segment := by
  rw [decode] at read
  split at read
  · cases read
  · next bytes symbols =>
      split at read
      · cases read
      · next cs text =>
          cases read
          have written : Base64Url.encode (ShellBridge.utf8 (.ofList cs)) =
              ShellBridge.utf8 segment := by
            rw [ShellBridge.utf8, String.toList_ofList, Utf8.encode_of_decode text]
            exact Base64Url.encode_of_decode symbols
          apply utf8_injective
          rw [encode, utf8_asciiText (ascii_encode _), written]

theorem decode_eq_ok_iff {segment id : String} : decode segment = .ok id ↔ segment = encode id := by
  constructor
  · intro read
    exact (encode_of_decode read).symm
  · rintro rfl
    exact decode_encode id

end ShellBridge.Identifier
