import Mathlib.Data.List.TakeWhile
import ShellBridge.Proofs.Text.Lines

/-!
Lines as they arrive.

A reader of lines stops at the first one that is not UTF-8.  What it finds are the lines in front of
that one, up to the carriage returns at their ends; a line that is empty at the end of the input is
none.
-/

namespace ShellBridge

namespace Text

def isText (line : Bytes) : Bool :=
  (Utf8.decode? line).isSome

/-- The lines of an input, the last of which is what is left behind the last line feed. -/
def rawLines (input : Bytes) : List Bytes :=
  (splitLines input).1 ++ [(splitLines input).2]

/-- The input with the lines that pass the test and no others. -/
def keep (test : Bytes → Bool) (input : Bytes) : Bytes :=
  joinBytes ((splitLines input).1.filter test)
    (if test (splitLines input).2 then (splitLines input).2 else [])

/-- The part of the input in front of the first line that is not UTF-8. -/
def readable (input : Bytes) : Bytes :=
  joinBytes ((splitLines input).1.takeWhile isText)
    (if (rawLines input).all isText then (splitLines input).2 else [])

/-- The lines from the first one on that is not UTF-8. -/
def unread (input : Bytes) : List Bytes :=
  (rawLines input).dropWhile isText

theorem splitLines_plain (input : Bytes) :
    (∀ line ∈ (splitLines input).1, 0x0A ∉ line) ∧ 0x0A ∉ (splitLines input).2 := by
  induction input with
  | nil => simp [splitLines]
  | cons b rest inductionHypothesis =>
      obtain ⟨plain, plainRest⟩ := inductionHypothesis
      by_cases feed : b = 0x0A
      · rw [feed, splitLines_feed]
        exact ⟨List.forall_mem_cons.mpr ⟨List.not_mem_nil, plain⟩, plainRest⟩
      · rw [splitLines_of_ne feed]
        cases found : (splitLines rest).1 with
        | nil => simp [plainRest, Ne.symm feed]
        | cons line lines =>
            rw [found] at plain
            obtain ⟨plainLine, plainLines⟩ := List.forall_mem_cons.mp plain
            refine ⟨List.forall_mem_cons.mpr ⟨?_, plainLines⟩, plainRest⟩
            simp [plainLine, Ne.symm feed]

/-- A line with a carriage return at its end is text just if it is text without. -/
theorem decode?_dropCarriageReturn (line : Bytes) :
    Utf8.decode? (dropCarriageReturn line) = (Utf8.decode? line).map withoutReturn := by
  cases read : Utf8.decode? line with
  | some text =>
      rw [Utf8.decode?_eq_some_iff.mp read, dropCarriageReturn_utf8, Utf8.decode?_utf8]
      rfl
  | none =>
      cases dropped : Utf8.decode? (dropCarriageReturn line) with
      | none => rfl
      | some text =>
          exfalso
          have short := Utf8.decode?_eq_some_iff.mp dropped
          unfold dropCarriageReturn at short
          split at short
          next returns =>
            obtain ⟨front, rfl⟩ := List.getLast?_eq_some_iff.mp returns
            rw [List.dropLast_concat] at short
            have written : utf8 (text ++ "\r") = front ++ [0x0D] := by
              rw [utf8_append, short]
              rfl
            rw [← written, Utf8.decode?_utf8] at read
            cases read
          next returns =>
            rw [short, Utf8.decode?_utf8] at read
            cases read

/-- The lines that a reader finds are those in front of the first one that is not UTF-8. -/
theorem flatMap_readLines {α : Type} (found : String → List α)
    (blind : ∀ line, found (withoutReturn line) = found line) (lines : List Bytes) :
    (readLines (lines.map dropCarriageReturn)).1.flatMap found =
        (lines.takeWhile isText).flatMap (fun line => (Utf8.decode? line).toList.flatMap found) ∧
      (readLines (lines.map dropCarriageReturn)).2 = lines.all isText := by
  induction lines with
  | nil => exact ⟨rfl, rfl⟩
  | cons line rest inductionHypothesis =>
      rw [List.map_cons, readLines, decode?_dropCarriageReturn]
      cases read : Utf8.decode? line with
      | none =>
          have other : isText line = false := by rw [isText, read, Option.isSome_none]
          rw [List.takeWhile_cons_of_neg (by simp [other]), List.all_cons, other]
          exact ⟨rfl, rfl⟩
      | some text =>
          have sound : isText line = true := by rw [isText, read, Option.isSome_some]
          rw [List.takeWhile_cons_of_pos sound, List.all_cons, sound, List.flatMap_cons, read]
          simp [blind, inductionHypothesis]

theorem takeWhile_concat {α : Type} (test : α → Bool) (xs : List α) (x : α) :
    (xs ++ [x]).takeWhile test =
      if xs.all test then xs ++ if test x then [x] else [] else xs.takeWhile test := by
  induction xs with
  | nil => simp [List.takeWhile_cons]
  | cons y rest inductionHypothesis =>
      rw [List.cons_append, List.takeWhile_cons, inductionHypothesis, List.all_cons]
      cases held : test y <;> cases rest.all test <;> simp [held]

theorem flatMap_filter_of_silent {α β : Type} {test : α → Bool} {f : α → List β}
    (silent : ∀ x, test x = false → f x = []) (xs : List α) :
    (xs.filter test).flatMap f = xs.flatMap f := by
  induction xs with
  | nil => rfl
  | cons x rest inductionHypothesis =>
      rw [List.filter_cons, List.flatMap_cons, ← inductionHypothesis]
      cases passes : test x with
      | true => rfl
      | false =>
          rw [silent x passes]
          rfl

theorem flatMap_lines {α : Type} (found : String → List α)
    (blind : ∀ line, found (withoutReturn line) = found line) (blank : found "" = [])
    (input : Bytes) :
    (lines input).flatMap found =
      ((rawLines input).takeWhile isText).flatMap fun line =>
        (Utf8.decode? line).toList.flatMap found := by
  obtain ⟨texts, sound⟩ := flatMap_readLines found blind (splitLines input).1
  rw [lines, LineReader.take_of_going rfl, List.flatMap_append, rawLines, LineReader.start,
    List.nil_append, texts, sound, LineReader.finish, takeWhile_concat]
  cases going : (splitLines input).1.all isText with
  | false => simp
  | true =>
      have behind : (if (splitLines input).2.isEmpty then []
            else (Utf8.decode? (splitLines input).2).toList).flatMap found =
          (if isText (splitLines input).2 then [(splitLines input).2] else []).flatMap fun line =>
            (Utf8.decode? line).toList.flatMap found := by
        cases left : (splitLines input).2 with
        | nil => simp [isText, Utf8.decode?_eq_some_iff.mpr (show [] = utf8 "" from rfl), blank]
        | cons b bytes => cases read : Utf8.decode? (b :: bytes) <;> simp [isText, read]
      rw [List.takeWhile_eq_self_iff.mpr (List.all_eq_true.mp going)]
      simpa using behind

/-- Of an input some lines are left, and maybe what is behind the last line feed. -/
theorem rawLines_joinBytes {input : Bytes} {kept : List Bytes}
    (sublist : kept.Sublist (splitLines input).1) (last : Prop) [Decidable last] :
    rawLines (joinBytes kept (if last then (splitLines input).2 else [])) =
      kept ++ [if last then (splitLines input).2 else []] := by
  obtain ⟨plain, plainRest⟩ := splitLines_plain input
  rw [rawLines, splitLines_joinBytes]
  · intro line membership
    exact plain line (sublist.subset membership)
  · split
    · exact plainRest
    · exact List.not_mem_nil

theorem rawLines_keep (test : Bytes → Bool) (input : Bytes) :
    rawLines (keep test input) = (splitLines input).1.filter test ++
      [if test (splitLines input).2 then (splitLines input).2 else []] :=
  rawLines_joinBytes List.filter_sublist _

theorem rawLines_readable (input : Bytes) :
    rawLines (readable input) = (splitLines input).1.takeWhile isText ++
      [if (rawLines input).all isText then (splitLines input).2 else []] :=
  rawLines_joinBytes (List.takeWhile_sublist isText) _

end Text

end ShellBridge
