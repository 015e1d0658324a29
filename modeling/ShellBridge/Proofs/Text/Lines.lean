import ShellBridge.Proofs.Text.Stripping
import ShellBridge.Proofs.Text.Utf8
import ShellBridge.Text.Lines

/-!
Lines read back.

However an input is cut into pieces, the lines that a reader finds are those of the whole input.
Texts without line feeds that were written as lines are found again, up to the carriage returns at
their ends.
-/

namespace ShellBridge

/-! ### Splitting at line feeds -/

namespace Text

theorem splitLines_feed (bytes : Bytes) :
    splitLines (0x0A :: bytes) = ([] :: (splitLines bytes).1, (splitLines bytes).2) :=
  rfl

theorem splitLines_of_ne {b : UInt8} (other : b ≠ 0x0A) (bytes : Bytes) :
    splitLines (b :: bytes) =
      match (splitLines bytes).1 with
      | [] => ([], b :: (splitLines bytes).2)
      | line :: lines => ((b :: line) :: lines, (splitLines bytes).2) := by
  rw [splitLines]
  exact if_neg other

theorem splitLines_append (bytes more : Bytes) :
    splitLines (bytes ++ more) =
      ((splitLines bytes).1 ++ (splitLines ((splitLines bytes).2 ++ more)).1,
        (splitLines ((splitLines bytes).2 ++ more)).2) := by
  induction bytes with
  | nil => rfl
  | cons b rest inductionHypothesis =>
      rw [List.cons_append]
      by_cases feed : b = 0x0A
      · rw [feed, splitLines_feed, splitLines_feed, inductionHypothesis]
        rfl
      · rw [splitLines_of_ne feed, splitLines_of_ne feed, inductionHypothesis]
        cases (splitLines rest).1 with
        | nil => exact (splitLines_of_ne feed ((splitLines rest).2 ++ more)).symm
        | cons line lines => rfl

theorem splitLines_of_not_mem {bytes : Bytes} (plain : 0x0A ∉ bytes) :
    splitLines bytes = ([], bytes) := by
  induction bytes with
  | nil => rfl
  | cons b rest inductionHypothesis =>
      have other : b ≠ 0x0A := fun feed => plain (by simp [feed])
      rw [splitLines_of_ne other, inductionHypothesis (List.not_mem_of_not_mem_cons plain)]

theorem splitLines_line {line : Bytes} (plain : 0x0A ∉ line) (rest : Bytes) :
    splitLines (line ++ 0x0A :: rest) = (line :: (splitLines rest).1, (splitLines rest).2) := by
  induction line with
  | nil => rfl
  | cons b more inductionHypothesis =>
      have other : b ≠ 0x0A := fun feed => plain (by simp [feed])
      rw [List.cons_append, splitLines_of_ne other,
        inductionHypothesis (List.not_mem_of_not_mem_cons plain)]

theorem readLines_append (lines more : List Bytes) :
    readLines (lines ++ more) =
      if (readLines lines).2 then ((readLines lines).1 ++ (readLines more).1, (readLines more).2)
      else readLines lines := by
  induction lines with
  | nil => rfl
  | cons line rest inductionHypothesis =>
      rw [List.cons_append, readLines, readLines, inductionHypothesis]
      cases Utf8.decode? line with
      | none => rfl
      | some text =>
          dsimp only
          split <;> rfl

namespace LineReader

theorem take_of_ended {reader : LineReader} (ended : reader.ended = true) (piece : Bytes) :
    reader.take piece = (reader, []) := by
  rw [take, if_pos ended]

theorem take_of_going {reader : LineReader} (going : reader.ended = false) (piece : Bytes) :
    reader.take piece =
      (⟨(splitLines (reader.rest ++ piece)).2,
          !(readLines ((splitLines (reader.rest ++ piece)).1.map dropCarriageReturn)).2⟩,
        (readLines ((splitLines (reader.rest ++ piece)).1.map dropCarriageReturn)).1) := by
  rw [take, going]
  rfl

/-- Taking two pieces is taking both at once, unless the first one ends the input. -/
theorem take_append {reader : LineReader} {piece : Bytes}
    (going : (reader.take piece).1.ended = false) (more : Bytes) :
    reader.take (piece ++ more) =
      (((reader.take piece).1.take more).1,
        (reader.take piece).2 ++ ((reader.take piece).1.take more).2) := by
  cases started : reader.ended with
  | true =>
      rw [take_of_ended started, started] at going
      cases going
  | false =>
      rw [take_of_going going, take_of_going started]
      rw [take_of_going started] at going ⊢
      rw [← List.append_assoc, splitLines_append, List.map_append, readLines_append,
        if_pos (by simpa using going)]

/-- Behind the end of an input nothing is read. -/
theorem take_append_of_ended {reader : LineReader} {piece : Bytes}
    (ended : (reader.take piece).1.ended = true) (more : Bytes) :
    (reader.take (piece ++ more)).2 = (reader.take piece).2 ∧
      (reader.take (piece ++ more)).1.ended = true := by
  cases started : reader.ended with
  | true =>
      rw [take_of_ended started, take_of_ended started]
      exact ⟨rfl, started⟩
  | false =>
      rw [take_of_going started] at ended ⊢
      rw [take_of_going started, ← List.append_assoc, splitLines_append, List.map_append,
        readLines_append, if_neg (by simpa using ended)]
      exact ⟨rfl, ended⟩

end LineReader

end Text

/-! ### Lines of UTF-8 -/

namespace Utf8

/-- A small byte stands for a character by itself. -/
theorem toNat_eq_of_mem_encodeChar {c : Char} {b : UInt8} (membership : b ∈ encodeChar c)
    (small : b.toNat < 0x80) : b.toNat = c.toNat := by
  have valid := toNat_valid c
  unfold encodeChar at membership
  simp only at membership
  split at membership
  next one =>
    rw [List.mem_singleton.mp membership]
    exact toNat_ofNat (by omega)
  next one =>
    exfalso
    have tail (n : Nat) : (UInt8.ofNat (0x80 + n % 64)).toNat = 0x80 + n % 64 :=
      toNat_ofNat (by omega)
    split at membership
    next two =>
      have lead := toNat_ofNat (show 0xC0 + c.toNat / 64 < 256 by omega)
      simp only [List.mem_cons, List.not_mem_nil, or_false] at membership
      rcases membership with rfl | rfl <;> simp only [lead, tail] at small <;> omega
    next two =>
      split at membership
      next three =>
        have lead := toNat_ofNat (show 0xE0 + c.toNat / 4096 < 256 by omega)
        simp only [List.mem_cons, List.not_mem_nil, or_false] at membership
        rcases membership with rfl | rfl | rfl <;> simp only [lead, tail] at small <;> omega
      next three =>
        have lead := toNat_ofNat (show 0xF0 + c.toNat / 262144 < 256 by omega)
        simp only [List.mem_cons, List.not_mem_nil, or_false] at membership
        rcases membership with rfl | rfl | rfl | rfl <;> simp only [lead, tail] at small <;> omega

theorem encodeChar_ne_nil (c : Char) : encodeChar c ≠ [] := by
  unfold encodeChar
  simp only
  split
  · simp
  · split
    · simp
    · split <;> simp

theorem mem_of_mem_encode {cs : List Char} {b : UInt8} {c : Char} (membership : b ∈ encode cs)
    (small : b.toNat < 0x80) (value : b.toNat = c.toNat) : c ∈ cs := by
  obtain ⟨d, inside, written⟩ := List.mem_flatMap.mp membership
  have same : c.toNat = d.toNat := value.symm.trans (toNat_eq_of_mem_encodeChar written small)
  rw [Char.toNat_inj.mp same]
  exact inside

theorem decode?_utf8 (s : String) : decode? (utf8 s) = some s := by
  rw [decode?, utf8, decode_encode]
  exact congrArg some String.ofList_toList

theorem decode?_eq_some_iff {bytes : Bytes} {text : String} :
    decode? bytes = some text ↔ bytes = utf8 text := by
  constructor
  · intro read
    unfold decode? at read
    split at read
    next cs decoded =>
      cases read
      rw [utf8, String.toList_ofList, encode_of_decode decoded]
    next => cases read
  · rintro rfl
    exact decode?_utf8 text

end Utf8

namespace Text

/-- The text without a carriage return at its end. -/
def withoutReturn (s : String) : String :=
  if s.toList.getLast? = some '\r' then .ofList s.toList.dropLast else s

theorem not_mem_utf8 {s : String} (plain : '\n' ∉ s.toList) : 0x0A ∉ utf8 s := by
  intro membership
  exact plain (Utf8.mem_of_mem_encode membership (by decide) rfl)

theorem dropCarriageReturn_utf8 (s : String) :
    dropCarriageReturn (utf8 s) = utf8 (withoutReturn s) := by
  rcases List.eq_nil_or_concat s.toList with empty | ⟨cs, c, split⟩
  · simp [dropCarriageReturn, withoutReturn, utf8, empty]
  · rw [List.concat_eq_append] at split
    have written : utf8 s = Utf8.encode cs ++ Utf8.encodeChar c := by
      rw [utf8, split, Utf8.encode_append, Utf8.encode_cons, Utf8.encode_nil, List.append_nil]
    rw [withoutReturn, split, List.getLast?_concat, List.dropLast_concat]
    by_cases returns : c = '\r'
    · have alone : Utf8.encodeChar '\r' = [0x0D] := rfl
      rw [dropCarriageReturn, written, returns, alone, List.getLast?_concat, if_pos rfl, if_pos rfl,
        List.dropLast_concat, utf8, String.toList_ofList]
    · rw [if_neg (by simpa using returns), dropCarriageReturn, if_neg]
      rw [written, List.getLast?_append, List.getLast?_eq_some_getLast (Utf8.encodeChar_ne_nil c)]
      intro ends
      have inside : 0x0D ∈ Utf8.encodeChar c := by
        rw [← Option.some.inj ends]
        exact List.getLast_mem (Utf8.encodeChar_ne_nil c)
      have same := Utf8.toNat_eq_of_mem_encodeChar inside (by decide)
      exact returns (Char.toNat_inj.mp same.symm)

theorem trim_withoutReturn (s : String) : trim (withoutReturn s) = trim s := by
  rw [withoutReturn]
  split
  next returns =>
    obtain ⟨cs, split⟩ := List.getLast?_eq_some_iff.mp returns
    rw [trim, trim, split, List.dropLast_concat, String.toList_ofList,
      stripChars_concat (show isBlank '\r' = true by decide)]
  next returns => rfl

/-- Lines with their line feeds, and what is left behind the last one. -/
def joinBytes (lines : List Bytes) (rest : Bytes) : Bytes :=
  lines.flatMap (· ++ [0x0A]) ++ rest

theorem splitLines_joinBytes {lines : List Bytes} {rest : Bytes}
    (plain : ∀ line ∈ lines, 0x0A ∉ line) (plainRest : 0x0A ∉ rest) :
    splitLines (joinBytes lines rest) = (lines, rest) := by
  induction lines with
  | nil => exact splitLines_of_not_mem plainRest
  | cons line more inductionHypothesis =>
      obtain ⟨plainLine, plainMore⟩ := List.forall_mem_cons.mp plain
      have joined : joinBytes (line :: more) rest = line ++ 0x0A :: joinBytes more rest := by
        simp [joinBytes]
      rw [joined, splitLines_line plainLine, inductionHypothesis plainMore]

/-- Texts as lines with their line feeds, and what is left behind the last one. -/
def joinLines (lines : List String) (last : String) : Bytes :=
  lines.flatMap (fun line => utf8 line ++ [0x0A]) ++ utf8 last

theorem splitLines_joinLines {lines : List String} {last : String}
    (plain : ∀ line ∈ lines, '\n' ∉ line.toList) (plainLast : '\n' ∉ last.toList) :
    splitLines (joinLines lines last) = (lines.map utf8, utf8 last) := by
  have joined : joinLines lines last = joinBytes (lines.map utf8) (utf8 last) := by
    rw [joinLines, joinBytes, List.flatMap_map]
  rw [joined]
  apply splitLines_joinBytes
  · intro line membership
    obtain ⟨text, present, rfl⟩ := List.mem_map.mp membership
    exact not_mem_utf8 (plain text present)
  · exact not_mem_utf8 plainLast

theorem readLines_utf8 (lines : List String) : readLines (lines.map utf8) = (lines, true) := by
  induction lines with
  | nil => rfl
  | cons line rest inductionHypothesis =>
      rw [List.map_cons, readLines, Utf8.decode?_utf8, inductionHypothesis]

/-- A reader finds all the lines. -/
theorem take_joinLines {lines : List String} {last : String}
    (plain : ∀ line ∈ lines, '\n' ∉ line.toList) (plainLast : '\n' ∉ last.toList) :
    LineReader.start.take (joinLines lines last) =
      (⟨utf8 last, false⟩, lines.map withoutReturn) := by
  have dropped : (lines.map utf8).map dropCarriageReturn = (lines.map withoutReturn).map utf8 := by
    simp [dropCarriageReturn_utf8]
  rw [LineReader.take_of_going rfl, LineReader.start, List.nil_append,
    splitLines_joinLines plain plainLast, dropped, readLines_utf8]
  rfl

theorem lines_joinLines {lines : List String} {last : String}
    (plain : ∀ line ∈ lines, '\n' ∉ line.toList) (plainLast : '\n' ∉ last.toList) :
    Text.lines (joinLines lines last) =
      lines.map withoutReturn ++ if last = "" then [] else [last] := by
  rw [Text.lines, take_joinLines plain plainLast]
  by_cases empty : last = ""
  · rw [empty]
    rfl
  · have some : (utf8 last).isEmpty = false := by
      rw [List.isEmpty_eq_false_iff]
      intro none
      have read := Utf8.decode?_utf8 last
      rw [none] at read
      exact empty (Option.some.inj read).symm
    rw [if_neg empty]
    simp [LineReader.finish, some, Utf8.decode?_utf8]

end Text

end ShellBridge
