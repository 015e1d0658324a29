import ShellBridge.Json.Format
import Mathlib.Tactic.SplitIfs

/-!
The steps of reading: blanks count for nothing, and the first byte behind them decides.
-/

namespace ShellBridge.Json

section Outcomes

variable {ε α β : Type}

theorem toOption_ok (x : α) : (.ok x : Except ε α).toOption = some x := rfl

theorem toOption_error (e : ε) : (.error e : Except ε α).toOption = none := rfl

theorem toOption_bind (x : Except ε α) (f : α → Except ε β) :
    (x >>= f).toOption = x.toOption.bind fun a => (f a).toOption := by
  cases x <;> rfl

theorem toOption_map (x : Except ε α) (f : α → β) : (x.map f).toOption = x.toOption.map f := by
  cases x <;> rfl

theorem eq_ok_of_toOption {x : Except ε α} {a : α} (accepted : x.toOption = some a) :
    x = .ok a := by
  cases x with
  | ok b => rw [Option.some.inj accepted]
  | error e => cases accepted

theorem eq_error_of_toOption {x : Except ε α} (refused : x.toOption = none) :
    ∃ e, x = .error e := by
  cases x with
  | ok b => cases refused
  | error e => exact ⟨e, rfl⟩

theorem bind_eq_ok {x : Except ε α} {f : α → Except ε β} {b : β} (equality : x >>= f = .ok b) :
    ∃ a, x = .ok a ∧ f a = .ok b := by
  cases x with
  | ok a => exact ⟨a, rfl, equality⟩
  | error e => cases equality

theorem map_eq_ok {x : Except ε α} {f : α → β} {b : β} (equality : x.map f = .ok b) :
    ∃ a, x = .ok a ∧ f a = b := by
  cases x with
  | ok a => exact ⟨a, rfl, Except.ok.inj equality⟩
  | error e => cases equality

theorem eq_ok_of_mapError {ε' : Type} {x : Except ε α} {wrap : ε → ε'} {a : α}
    (accepted : x.mapError wrap = .ok a) : x = .ok a := by
  cases x with
  | ok b => rw [Except.ok.inj accepted]
  | error e => cases accepted

theorem map_eq_error_iff {x : Except ε α} {f : α → β} {e : ε} :
    x.map f = .error e ↔ x = .error e := by
  cases x <;> simp [Except.map]

section Checked

variable {ε' : Type} {read : Except ε α} {wrap : ε → ε'} {check : α → Except ε' Unit} {x : α}

/-- What was read is handed on if it passes the check, and else refused by the check. -/
theorem checked_of_ok (given : read = .ok x) :
    (read.mapError wrap >>= fun y => check y >>= fun _ => .ok y) =
      (check x).map fun _ => x := by
  rw [given]
  show (check x >>= fun _ => .ok x) = _
  cases check x <;> rfl

theorem checked_eq_ok_iff :
    (read.mapError wrap >>= fun y => check y >>= fun _ => .ok y) = .ok x ↔
      read = .ok x ∧ check x = .ok () := by
  constructor
  · intro accepted
    obtain ⟨y, given, accepted⟩ := bind_eq_ok accepted
    obtain ⟨_, passed, same⟩ := bind_eq_ok accepted
    cases same
    cases read with
    | error e => cases given
    | ok z =>
        cases given
        exact ⟨rfl, passed⟩
  · rintro ⟨given, passed⟩
    rw [checked_of_ok given, passed]
    rfl

theorem toOption_checked :
    (read.mapError wrap >>= fun y => check y >>= fun _ => .ok y).toOption =
      read.toOption.bind fun y => (check y).toOption.map fun _ => y := by
  cases given : read with
  | error e => rfl
  | ok y =>
      rw [checked_of_ok rfl, toOption_map]
      rfl

end Checked

end Outcomes

namespace Scan

@[simp] theorem skipBlanks_cons_of_blank {b : UInt8} (blank : isBlank b = true) (rest : Bytes) :
    skipBlanks (b :: rest) = skipBlanks rest := by
  rw [skipBlanks, if_pos blank]

theorem skipBlanks_cons_of_not_blank {b : UInt8} (solid : isBlank b = false) (rest : Bytes) :
    skipBlanks (b :: rest) = b :: rest := by
  rw [skipBlanks, solid]
  rfl

/-- What is left behind blanks does not start with one. -/
theorem isBlank_of_skipBlanks_eq {input rest : Bytes} {b : UInt8}
    (skipped : skipBlanks input = b :: rest) : isBlank b = false := by
  induction input with
  | nil => cases skipped
  | cons c input inductionHypothesis =>
      cases blank : isBlank c with
      | true =>
          rw [skipBlanks_cons_of_blank blank] at skipped
          exact inductionHypothesis skipped
      | false =>
          rw [skipBlanks_cons_of_not_blank blank] at skipped
          rw [← (List.cons.inj skipped).1]
          exact blank

@[simp] theorem skipBlanks_skipBlanks (input : Bytes) :
    skipBlanks (skipBlanks input) = skipBlanks input := by
  cases skipped : skipBlanks input with
  | nil => rfl
  | cons b rest => exact skipBlanks_cons_of_not_blank (isBlank_of_skipBlanks_eq skipped) rest

theorem length_skipBlanks_le (input : Bytes) : (skipBlanks input).length ≤ input.length := by
  induction input with
  | nil => exact Nat.le_refl 0
  | cons b input inductionHypothesis =>
      cases blank : isBlank b with
      | true =>
          rw [skipBlanks_cons_of_blank blank, List.length_cons]
          omega
      | false =>
          apply Nat.le_of_eq
          exact congrArg List.length (skipBlanks_cons_of_not_blank blank input)

theorem isDigit_iff {b : UInt8} : isDigit b = true ↔ 0x30 ≤ b.toNat ∧ b.toNat ≤ 0x39 := by
  simp [isDigit, UInt8.le_iff_toNat_le]

theorem not_isBlank_of_isDigit {b : UInt8} (digit : isDigit b = true) : isBlank b = false := by
  rw [isDigit_iff] at digit
  simp only [isBlank, ← UInt8.toNat_inj, Bool.or_eq_false_iff, decide_eq_false_iff_not]
  have : (0x20 : UInt8).toNat = 32 ∧ (0x0A : UInt8).toNat = 10 ∧ (0x09 : UInt8).toNat = 9 ∧
      (0x0D : UInt8).toNat = 13 := ⟨rfl, rfl, rfl, rfl⟩
  omega

theorem ne_of_isDigit {b c : UInt8} (digit : isDigit b = true) (noDigit : isDigit c = false) :
    b ≠ c := by
  rintro rfl
  rw [digit] at noDigit
  cases noDigit

theorem nextItem_skipBlanks (first : Bool) (input : Bytes) :
    nextItem first (skipBlanks input) = nextItem first input := by
  rw [nextItem, nextItem, skipBlanks_skipBlanks]

theorem nextKey_skipBlanks (first : Bool) (input : Bytes) :
    nextKey first (skipBlanks input) = nextKey first input := by
  rw [nextKey, nextKey, skipBlanks_skipBlanks]

end Scan

open Scan

theorem readWith_skipBlanks (nested : Option (Read Json)) (input : Bytes) :
    readWith nested (skipBlanks input) = readWith nested input := by
  rw [readWith.eq_def, readWith.eq_def nested input, skipBlanks_skipBlanks]

theorem document_eq_readWith (room : Nat) : ∃ nested, document room = readWith nested := by
  cases room with
  | zero => exact ⟨none, rfl⟩
  | succ room => exact ⟨some (document room), rfl⟩

@[simp] theorem document_skipBlanks (room : Nat) (input : Bytes) :
    document room (skipBlanks input) = document room input := by
  obtain ⟨nested, equality⟩ := document_eq_readWith room
  rw [equality]
  exact readWith_skipBlanks nested input

section Tokens

variable (nested : Option (Read Json)) (rest : Bytes)

theorem readWith_null : readWith nested (0x6E :: rest) = (word ull rest).map (.null, ·) := rfl

theorem readWith_true : readWith nested (0x74 :: rest) = (word rue rest).map (.bool true, ·) := rfl

theorem readWith_false : readWith nested (0x66 :: rest) = (word alse rest).map (.bool false, ·) :=
  rfl

theorem readWith_string :
    readWith nested (0x22 :: rest) =
      (Scan.string rest).map fun (s, rest) => (.string s, rest) := rfl

theorem readWith_list :
    readWith nested (0x5B :: rest) =
      match nested with
      | none => .error (.behindNext .recursionLimit (0x5B :: rest))
      | some item =>
          (readItems item (budgetFor rest) true rest).map fun (items, rest) =>
            (.array items, rest) := rfl

theorem readWith_object :
    readWith nested (0x7B :: rest) =
      match nested with
      | none => .error (.behindNext .recursionLimit (0x7B :: rest))
      | some value =>
          (readMembers value (budgetFor rest) true rest).map fun (members, rest) =>
            (.object members, rest) := rfl

theorem readWith_number {b : UInt8} (sign : b = 0x2D ∨ isDigit b = true) :
    readWith nested (b :: rest) =
      (Numeral.read (b :: rest)).map fun (n, rest) => (.number n, rest) := by
  rcases sign with rfl | digit
  · rfl
  · have noNull : b ≠ 0x6E := ne_of_isDigit digit rfl
    have noTrue : b ≠ 0x74 := ne_of_isDigit digit rfl
    have noFalse : b ≠ 0x66 := ne_of_isDigit digit rfl
    rw [readWith.eq_def, skipBlanks_cons_of_not_blank (not_isBlank_of_isDigit digit)]
    simp [digit, noNull, noTrue, noFalse]

end Tokens

/-- Where a document stands, no list ends. -/
theorem document_starts {room : Nat} {input rest : Bytes} {j : Json}
    (read : document room input = .ok (j, rest)) :
    ∃ b tail, skipBlanks input = b :: tail ∧ b ≠ 0x5D ∧ b ≠ 0x7D := by
  obtain ⟨nested, equality⟩ := document_eq_readWith room
  rw [equality, ← readWith_skipBlanks] at read
  cases skipped : skipBlanks input with
  | nil =>
      rw [skipped] at read
      cases read
  | cons b tail =>
      rw [skipped] at read
      refine ⟨b, tail, rfl, ?_, ?_⟩
      · rintro rfl
        cases read
      · rintro rfl
        cases read

theorem nextItem_of_document {room : Nat} {input rest : Bytes} {j : Json}
    (read : document room input = .ok (j, rest)) :
    nextItem true input = .ok (true, skipBlanks input) := by
  obtain ⟨b, tail, skipped, noList, _⟩ := document_starts read
  rw [nextItem, skipped]
  simp [noList]

theorem nextItem_comma_of_document {room : Nat} {input rest : Bytes} {j : Json}
    (read : document room input = .ok (j, rest)) :
    nextItem false (0x2C :: input) = .ok (true, skipBlanks input) := by
  obtain ⟨b, tail, skipped, noList, _⟩ := document_starts read
  have comma : skipBlanks (0x2C :: input) = 0x2C :: input := rfl
  rw [nextItem, comma]
  simp [skipped, noList]

theorem nextKey_of_string {input tail rest : Bytes} {key : String}
    (skipped : skipBlanks input = 0x22 :: tail) (read : Scan.string tail = .ok (key, rest)) :
    nextKey true input = .ok (some key, rest) := by
  rw [nextKey, skipped]
  simp [read, Except.map]

theorem nextKey_comma_of_string {input tail rest : Bytes} {key : String}
    (skipped : skipBlanks input = 0x22 :: tail) (read : Scan.string tail = .ok (key, rest)) :
    nextKey false (0x2C :: input) = .ok (some key, rest) := by
  have comma : skipBlanks (0x2C :: input) = 0x2C :: input := rfl
  rw [nextKey, comma]
  simp [skipped, read, Except.map]

/-- What the next item of a list stands behind. -/
theorem nextItem_cases {first more : Bool} {input next : Bytes}
    (turn : nextItem first input = .ok (more, next)) :
    (more = false ∧ ∃ tail, skipBlanks input = 0x5D :: tail ∧ next = 0x5D :: tail) ∨
    (more = true ∧ first = true ∧ ∃ b tail, skipBlanks input = b :: tail ∧ b ≠ 0x5D ∧
      next = b :: tail) ∨
    (more = true ∧ first = false ∧ ∃ tail, skipBlanks input = 0x2C :: tail ∧
      next = skipBlanks tail) := by
  rw [nextItem] at turn
  cases skipped : skipBlanks input with
  | nil =>
      rw [skipped] at turn
      cases turn
  | cons b tail =>
      rw [skipped] at turn
      simp only at turn
      split_ifs at turn with close begins comma
      · cases turn
        exact .inl ⟨rfl, tail, by rw [close], by rw [close]⟩
      · cases turn
        exact .inr (.inl ⟨rfl, begins, b, tail, rfl, close, rfl⟩)
      · cases behind : skipBlanks tail with
        | nil =>
            rw [behind] at turn
            cases turn
        | cons c after =>
            rw [behind] at turn
            simp only at turn
            split_ifs at turn
            cases turn
            exact .inr (.inr ⟨rfl, by simpa using begins, tail, by rw [comma], behind.symm⟩)

/-- Where the next key of an object stands, and what is behind it. -/
theorem nextKey_cases {first : Bool} {key? : Option String} {input next : Bytes}
    (turn : nextKey first input = .ok (key?, next)) :
    (key? = none ∧ ∃ tail, skipBlanks input = 0x7D :: tail ∧ next = 0x7D :: tail) ∨
    (∃ key, key? = some key ∧ first = true ∧ ∃ tail, skipBlanks input = 0x22 :: tail ∧
      Scan.string tail = .ok (key, next)) ∨
    ∃ key, key? = some key ∧ first = false ∧ ∃ behind tail, skipBlanks input = 0x2C :: behind ∧
      skipBlanks behind = 0x22 :: tail ∧ Scan.string tail = .ok (key, next) := by
  rw [nextKey] at turn
  cases skipped : skipBlanks input with
  | nil =>
      rw [skipped] at turn
      cases turn
  | cons b tail =>
      rw [skipped] at turn
      simp only at turn
      split_ifs at turn with close begins quote comma
      · cases turn
        exact .inl ⟨rfl, tail, by rw [close], by rw [close]⟩
      · obtain ⟨⟨key, after⟩, read, same⟩ := map_eq_ok turn
        cases same
        exact .inr (.inl ⟨key, rfl, begins, tail, by rw [quote], read⟩)
      · cases behind : skipBlanks tail with
        | nil =>
            rw [behind] at turn
            cases turn
        | cons c after =>
            rw [behind] at turn
            simp only at turn
            split_ifs at turn with quote
            obtain ⟨⟨key, last⟩, read, same⟩ := map_eq_ok turn
            cases same
            exact .inr (.inr ⟨key, rfl, by simpa using begins, tail, after, by rw [comma],
              by rw [behind, quote], read⟩)

end ShellBridge.Json
