import ShellBridge.Proofs.Json.Following

/-!
Passing over documents.

What is read as a document can be passed over as well, and the same text is left.  While documents
are read with one call inside the other, passing over keeps a stack of open brackets; each value
takes one unit of the budget, and at least one byte of the text.
-/

namespace ShellBridge.Json

namespace Scan

theorem of_prepend {front text rest : Bytes} {read : Except Fault (Bytes × Bytes)}
    (accepted : prepend front read = .ok (text, rest)) : ∃ more, read = .ok (more, rest) := by
  cases read with
  | ok pair =>
      cases accepted
      exact ⟨pair.1, rfl⟩
  | error fault => cases accepted

/-- A string ends here, or goes on behind a piece. -/
theorem stringBytes_cases {input text rest : Bytes} (read : stringBytes input = .ok (text, rest)) :
    input = 0x22 :: rest ∨ ∃ next more, next.length < input.length ∧
      stringBytes next = .ok (more, rest) ∧ skipString input = skipString next := by
  fun_cases stringBytes input with
  | case9 a b c d n first noLow high e f g h after m second low =>
      rw [stringBytes.eq_4, first] at read
      simp only [noLow, high, second, low, if_true] at read
      obtain ⟨more, others⟩ := of_prepend read
      refine .inr ⟨after, more, ?_, others, ?_⟩
      · simp only [List.length_cons]
        omega
      · rw [skipString.eq_4, first]
        simp only
        rw [skipString.eq_4, second]
  | case14 a b c d after n first noLow noHigh =>
      rw [stringBytes.eq_4, first] at read
      simp only [noLow, noHigh] at read
      obtain ⟨more, others⟩ := of_prepend read
      refine .inr ⟨after, more, ?_, others, ?_⟩
      · simp only [List.length_cons]
        omega
      · rw [skipString.eq_4, first]
  | case16 b after noNumber different c known =>
      rw [stringBytes.eq_6 b after noNumber different, known] at read
      obtain ⟨more, others⟩ := of_prepend read
      refine .inr ⟨after, more, ?_, others, ?_⟩
      · simp only [List.length_cons]
        omega
      · rw [skipString.eq_6 b after noNumber different, known]
  | case19 b after noQuote single number short other noControl =>
      rw [stringBytes.eq_7 b after noQuote single number short other, if_neg noControl] at read
      obtain ⟨more, others⟩ := of_prepend read
      refine .inr ⟨after, more, ?_, others, ?_⟩
      · simp only [List.length_cons]
        omega
      · rw [skipString.eq_7 b after noQuote single number short other, if_neg noControl]
  | _ => simp_all [stringBytes]

/-- What is read as a string can be passed over. -/
theorem skipString_of_stringBytes (n : Nat) {input text rest : Bytes} (bounded : input.length ≤ n)
    (read : stringBytes input = .ok (text, rest)) :
    skipString input = .ok rest ∧ rest.length < input.length := by
  induction n generalizing input text with
  | zero =>
      rw [List.eq_nil_of_length_eq_zero (Nat.le_zero.mp bounded)] at read
      cases read
  | succ n inductionHypothesis =>
      rcases stringBytes_cases read with ended | ⟨next, more, shorter, others, same⟩
      · subst ended
        exact ⟨rfl, Nat.lt_succ_self _⟩
      · have further := inductionHypothesis (by omega) others
        rw [same]
        exact ⟨further.1, Nat.lt_trans further.2 shorter⟩

theorem skipString_of_string {input rest : Bytes} {s : String}
    (read : Scan.string input = .ok (s, rest)) :
    skipString input = .ok rest ∧ rest.length < input.length := by
  obtain ⟨⟨text, after⟩, bytes, decoded⟩ := bind_eq_ok read
  cases unicode : Utf8.decode text with
  | error refusal =>
      simp only [unicode] at decoded
      cases decoded
  | ok cs =>
      simp only [unicode] at decoded
      cases decoded
      exact skipString_of_stringBytes input.length (Nat.le_refl _) bytes

theorem length_le_of_word {letters input rest : Bytes} (read : word letters input = .ok rest) :
    rest.length ≤ input.length := by
  induction letters generalizing input with
  | nil =>
      cases read
      exact Nat.le_refl _
  | cons l letters inductionHypothesis =>
      cases input with
      | nil => cases read
      | cons b input =>
          rw [word] at read
          split_ifs at read
          have shorter := inductionHypothesis read
          rw [List.length_cons]
          omega

end Scan

namespace Numeral

open Scan

theorem takeDigits_cons_of_isDigit {b : UInt8} (digit : isDigit b = true) (rest : Bytes) :
    takeDigits (b :: rest) = (b :: (takeDigits rest).1, (takeDigits rest).2) := by
  rw [takeDigits, if_pos digit]

theorem length_takeDigits_le (input : Bytes) : (takeDigits input).2.length ≤ input.length := by
  induction input with
  | nil => exact Nat.le_refl _
  | cons b input inductionHypothesis =>
      rw [takeDigits]
      split
      · simp only [List.length_cons]
        omega
      · exact Nat.le_refl _

theorem of_orOutOfRange {negative : Bool} {x? : Option Binary64} {input rest : Bytes} {n : Number}
    (read : orOutOfRange negative x? input = .ok (n, rest)) : input = rest := by
  cases x? with
  | none => cases read
  | some x =>
      cases read
      rfl

/-- An exponent with its sign set apart. -/
def splitSign : Bytes → Bool × Bytes
  | 0x2B :: rest => (false, rest)
  | 0x2D :: rest => (true, rest)
  | input => (false, input)

theorem length_splitSign_le (input : Bytes) : (splitSign input).2.length ≤ input.length := by
  unfold splitSign
  split
  · exact Nat.le_succ _
  · exact Nat.le_succ _
  · exact Nat.le_refl _

theorem exponent_eq (negative : Bool) (significand : Nat) (shift : Int) (input : Bytes) :
    exponent negative significand shift input =
      match (splitSign input).2 with
      | [] => .error (.before .endInValue [])
      | b :: rest =>
          if isDigit b then
            let (digits, rest) := takeDigits (b :: rest)
            let e := natValue digits
            if e < exponentBound then
              orOutOfRange negative
                (float? significand (if (splitSign input).1 then shift - e else shift + e)) rest
            else
              orOutOfRange negative (farFloat? significand (splitSign input).1) rest
          else .error (.before .invalidNumber rest) := by
  cases input with
  | nil => rfl
  | cons b rest =>
      by_cases plus : b = 0x2B
      · subst plus
        rfl
      · by_cases minus : b = 0x2D
        · subst minus
          rfl
        · simp [exponent, splitSign, plus, minus]

theorem skipExponent_eq (input : Bytes) :
    skipExponent input =
      match (splitSign input).2 with
      | [] => .error (.before .invalidNumber [])
      | b :: rest =>
          if isDigit b then .ok (takeDigits rest).2
          else .error (.before .invalidNumber rest) := by
  cases input with
  | nil => rfl
  | cons b rest =>
      by_cases plus : b = 0x2B
      · subst plus
        rfl
      · by_cases minus : b = 0x2D
        · subst minus
          rfl
        · simp [skipExponent, splitSign, plus, minus]

theorem skipExponent_of_exponent {negative : Bool} {significand : Nat} {shift : Int}
    {input rest : Bytes} {n : Number}
    (read : exponent negative significand shift input = .ok (n, rest)) :
    skipExponent input = .ok rest ∧ rest.length ≤ input.length := by
  have behindSign := length_splitSign_le input
  rw [exponent_eq] at read
  rw [skipExponent_eq]
  cases unsigned : (splitSign input).2 with
  | nil =>
      rw [unsigned] at read
      cases read
  | cons b tail =>
      rw [unsigned, List.length_cons] at behindSign
      simp only [unsigned] at read
      split_ifs at read with digit small
      all_goals
        have ended := of_orOutOfRange read
        rw [takeDigits_cons_of_isDigit digit] at ended
        have shorter := length_takeDigits_le tail
        simp only [digit, if_true, ← ended, true_and]
        omega

theorem skipTail_of_floatTail {negative : Bool} {significand : Nat} {shift : Int}
    {input rest : Bytes} {n : Number}
    (read : floatTail negative significand shift input = .ok (n, rest)) :
    skipTail input = .ok rest ∧ rest.length ≤ input.length := by
  unfold floatTail at read
  split at read
  · obtain ⟨skipped, shorter⟩ := skipExponent_of_exponent read
    exact ⟨skipped, Nat.le_succ_of_le shorter⟩
  · obtain ⟨skipped, shorter⟩ := skipExponent_of_exponent read
    exact ⟨skipped, Nat.le_succ_of_le shorter⟩
  · next noSmall noLarge =>
      rw [skipTail.eq_3 _ noSmall noLarge, of_orOutOfRange read]
      exact ⟨rfl, Nat.le_refl _⟩

theorem skipFraction_of_fraction {negative : Bool} {significand omitted : Nat}
    {input rest : Bytes} {n : Number}
    (read : fraction negative significand omitted input = .ok (n, rest)) :
    skipFraction input = .ok rest ∧ rest.length ≤ input.length := by
  have shorter := length_takeDigits_le input
  unfold fraction at read
  split at read
  · cases read
  · cases read
  · next digits after none other taken =>
      rw [taken] at shorter
      obtain ⟨skipped, less⟩ := skipTail_of_floatTail read
      refine ⟨?_, Nat.le_trans less shorter⟩
      rw [skipFraction, taken]
      cases digits with
      | nil => exact absurd rfl other
      | cons d digits => exact skipped

theorem skipBehindWhole_of_behindWhole {negative : Bool} {gathered : Gathered}
    {input rest : Bytes} {n : Number}
    (read : behindWhole negative gathered input = .ok (n, rest)) :
    skipBehindWhole input = .ok rest ∧ rest.length ≤ input.length := by
  unfold behindWhole at read
  split at read
  · obtain ⟨skipped, shorter⟩ := skipFraction_of_fraction read
    exact ⟨skipped, Nat.le_succ_of_le shorter⟩
  · obtain ⟨skipped, shorter⟩ := skipExponent_of_exponent read
    exact ⟨skipped, Nat.le_succ_of_le shorter⟩
  · obtain ⟨skipped, shorter⟩ := skipExponent_of_exponent read
    exact ⟨skipped, Nat.le_succ_of_le shorter⟩
  · next noPoint noSmall noLarge =>
      have ended : input = rest := by
        split at read
        · cases read
          rfl
        · exact of_orOutOfRange read
      rw [skipBehindWhole.eq_2 _ noPoint, skipTail.eq_3 _ noSmall noLarge, ended]
      exact ⟨rfl, Nat.le_refl _⟩

theorem skipUnsigned_of_unsigned {negative : Bool} {input rest : Bytes} {n : Number}
    (read : unsigned negative input = .ok (n, rest)) :
    skipUnsigned input = .ok rest ∧ rest.length < input.length := by
  cases input with
  | nil => cases read
  | cons b tail =>
      rw [unsigned.eq_def] at read
      simp only at read
      split_ifs at read with zero digit
      · cases tail with
        | nil =>
            obtain ⟨skipped, shorter⟩ := skipBehindWhole_of_behindWhole read
            refine ⟨?_, Nat.lt_succ_of_le shorter⟩
            rw [List.eq_nil_of_length_eq_zero (Nat.le_zero.mp shorter), skipUnsigned.eq_def]
            simp [zero]
        | cons c tail =>
            simp only at read
            split_ifs at read with digit
            obtain ⟨skipped, shorter⟩ := skipBehindWhole_of_behindWhole read
            refine ⟨?_, Nat.lt_succ_of_le shorter⟩
            rw [skipUnsigned.eq_def]
            simp [zero, digit, skipped]
      · rw [takeDigits_cons_of_isDigit digit] at read
        obtain ⟨skipped, shorter⟩ := skipBehindWhole_of_behindWhole read
        have less := length_takeDigits_le tail
        constructor
        · rw [skipUnsigned.eq_def]
          simp [zero, digit, skipped]
        · rw [List.length_cons]
          exact Nat.lt_succ_of_le (Nat.le_trans shorter less)

/-- What is read as a number can be passed over. -/
theorem skip_of_read {input rest : Bytes} {n : Number} (read : Numeral.read input = .ok (n, rest)) :
    Numeral.skip input = .ok rest ∧ rest.length < input.length := by
  unfold Numeral.read at read
  split at read
  · obtain ⟨skipped, shorter⟩ := skipUnsigned_of_unsigned read
    exact ⟨skipped, Nat.lt_succ_of_lt shorter⟩
  · next noSign =>
      rw [Numeral.skip.eq_2 _ noSign]
      exact skipUnsigned_of_unsigned read

end Numeral

open Scan

/-! ### Passing over documents -/

mutual

/-- The number of values of a document: itself, and all that is inside. -/
def size : Json → Nat
  | .array items => itemsSize items + 1
  | .object members => membersSize members + 1
  | .null | .bool _ | .number _ | .string _ => 1

def itemsSize : List Json → Nat
  | [] => 0
  | item :: rest => itemsSize rest + item.size

def membersSize : List (String × Json) → Nat
  | [] => 0
  | (_, value) :: rest => membersSize rest + value.size

end

/-- Goes on inside the open brackets, behind a value or a bracket. -/
def goOn (budget : Nat) (separated : Bool) (outer : List Bracket) (input : Bytes) :
    Except Fault Bytes := do
  let (outer, rest) ← skipToValue separated outer input
  if outer.isEmpty then .ok rest else skipFrom budget outer rest

/-- A reader of documents is passed over: what it reads takes its size of the budget. -/
structure Skipped (read : Read Json) : Prop where
  skipFrom_eq {input rest : Bytes} {j : Json} (accepted : read input = .ok (j, rest))
    (budget : Nat) (outer : List Bracket) :
    skipFrom (budget + j.size) outer input = goOn budget true outer rest
  length_le {input rest : Bytes} {j : Json} (accepted : read input = .ok (j, rest)) :
    rest.length + j.size ≤ input.length

section Brackets

variable {budget : Nat} {outer : List Bracket} {input tail : Bytes} {separated : Bool}

theorem goOn_outside (budget : Nat) (input : Bytes) : goOn budget true [] input = .ok input := rfl

theorem goOn_close_list (skipped : skipBlanks input = 0x5D :: tail) :
    goOn budget separated (.list :: outer) input = goOn budget true outer tail := by
  rw [goOn, goOn, skipToValue, skipped]
  rfl

theorem goOn_close_object (skipped : skipBlanks input = 0x7D :: tail) :
    goOn budget separated (.object :: outer) input = goOn budget true outer tail := by
  rw [goOn, goOn, skipToValue, skipped]
  rfl

theorem goOn_first_item {b : UInt8} (skipped : skipBlanks input = b :: tail)
    (more : b ≠ 0x5D) :
    goOn budget false (.list :: outer) input = skipFrom budget (.list :: outer) (b :: tail) := by
  rw [goOn, skipToValue, skipped]
  simp [Bracket.close, more, bind, Except.bind]

theorem goOn_next_item (skipped : skipBlanks input = 0x2C :: tail) :
    goOn budget true (.list :: outer) input = skipFrom budget (.list :: outer) tail := by
  rw [goOn, skipToValue, skipped]
  rfl

theorem skipKey_of_string {key : String} {next start : Bytes}
    (skipped : skipBlanks input = 0x22 :: tail) (read : Scan.string tail = .ok (key, next))
    (separator : colon next = .ok start) : skipKey input = .ok start := by
  rw [skipKey, skipped]
  simp [(skipString_of_string read).1, separator, bind, Except.bind]

theorem goOn_first_member {key : String} {next start : Bytes}
    (skipped : skipBlanks input = 0x22 :: tail) (read : Scan.string tail = .ok (key, next))
    (separator : colon next = .ok start) :
    goOn budget false (.object :: outer) input = skipFrom budget (.object :: outer) start := by
  have again : skipKey (0x22 :: tail) = .ok start :=
    skipKey_of_string (skipBlanks_cons_of_not_blank rfl tail) read separator
  rw [goOn, skipToValue, skipped]
  simp [Bracket.close, again, bind, Except.bind, Except.map]

theorem goOn_next_member {key : String} {behind next start : Bytes}
    (skipped : skipBlanks input = 0x2C :: behind) (quote : skipBlanks behind = 0x22 :: tail)
    (read : Scan.string tail = .ok (key, next)) (separator : colon next = .ok start) :
    goOn budget true (.object :: outer) input = skipFrom budget (.object :: outer) start := by
  have again : skipKey behind = .ok start := skipKey_of_string quote read separator
  rw [goOn, skipToValue, skipped]
  simp [Bracket.close, again, bind, Except.bind, Except.map]

theorem skipFrom_skipBlanks (budget : Nat) (outer : List Bracket) (input : Bytes) :
    skipFrom (budget + 1) outer (skipBlanks input) = skipFrom (budget + 1) outer input := by
  rw [skipFrom, skipFrom, skipBlanks_skipBlanks]

theorem length_lt_of_colon {start : Bytes} (read : colon input = .ok start) :
    start.length < input.length := by
  have shorter := length_skipBlanks_le input
  rw [colon] at read
  cases skipped : skipBlanks input with
  | nil =>
      rw [skipped] at read
      cases read
  | cons b rest =>
      simp only [skipped] at read
      split_ifs at read
      cases read
      rw [skipped, List.length_cons] at shorter
      omega

end Brackets

theorem size_pos (j : Json) : 0 < j.size := by
  cases j <;> simp [size]

namespace Skipped

variable {read : Read Json} (skipped : Skipped read)
include skipped

/-- A value behind blanks. -/
theorem skipFrom_of_skipBlanks {input rest : Bytes} {j : Json}
    (accepted : read (skipBlanks input) = .ok (j, rest)) (budget : Nat) (outer : List Bracket) :
    skipFrom (budget + j.size) outer input = goOn budget true outer rest ∧
      rest.length + j.size ≤ input.length := by
  constructor
  · obtain ⟨n, size⟩ : ∃ n, budget + j.size = n + 1 :=
      Nat.exists_eq_add_one.mpr (Nat.lt_of_lt_of_le j.size_pos (Nat.le_add_left _ _))
    rw [← skipped.skipFrom_eq accepted budget outer, size, skipFrom_skipBlanks]
  · exact Nat.le_trans (skipped.length_le accepted) (length_skipBlanks_le input)

theorem readItems_eq {turns : Nat} {first : Bool} {input rest : Bytes} {items : List Json}
    (accepted : readItems read turns first input = .ok (items, rest)) (budget : Nat)
    (outer : List Bracket) :
    goOn (budget + itemsSize items) (!first) (.list :: outer) input = goOn budget true outer rest ∧
      rest.length + itemsSize items < input.length := by
  induction turns generalizing first input items with
  | zero => cases accepted
  | succ turns inductionHypothesis =>
      have blanks := length_skipBlanks_le input
      rcases readItems_cases accepted with
        ⟨next, turn, rfl, rfl⟩ | ⟨next, x, after, ys, turn, one, others, rfl⟩
      · rcases nextItem_cases turn with
          ⟨_, tail, ended, rfl⟩ | ⟨impossible, _⟩ | ⟨impossible, _⟩
        · rw [ended, List.length_cons] at blanks
          exact ⟨goOn_close_list ended, blanks⟩
        · cases impossible
        · cases impossible
      · obtain ⟨further, less⟩ := inductionHypothesis others
        rw [itemsSize, ← Nat.add_assoc]
        rcases nextItem_cases turn with
          ⟨impossible, _⟩ | ⟨_, rfl, b, tail, begins, more, rfl⟩ | ⟨_, rfl, tail, comma, rfl⟩
        · cases impossible
        · have shorter := skipped.length_le one
          rw [Bool.not_true, goOn_first_item begins more, skipped.skipFrom_eq one]
          rw [begins] at blanks
          exact ⟨further, by omega⟩
        · obtain ⟨passed, shorter⟩ :=
            skipped.skipFrom_of_skipBlanks one (budget + itemsSize ys) (.list :: outer)
          rw [Bool.not_false, goOn_next_item comma, passed]
          rw [comma, List.length_cons] at blanks
          exact ⟨further, by omega⟩

theorem readMembers_eq {turns : Nat} {first : Bool} {input rest : Bytes}
    {members : List (String × Json)}
    (accepted : readMembers read turns first input = .ok (members, rest)) (budget : Nat)
    (outer : List Bracket) :
    goOn (budget + membersSize members) (!first) (.object :: outer) input =
        goOn budget true outer rest ∧
      rest.length + membersSize members < input.length := by
  induction turns generalizing first input members with
  | zero => cases accepted
  | succ turns inductionHypothesis =>
      have blanks := length_skipBlanks_le input
      rcases readMembers_cases accepted with
        ⟨next, turn, rfl, rfl⟩ | ⟨key, next, start, x, after, ys, turn, separator, one, others, rfl⟩
      · rcases nextKey_cases turn with
          ⟨_, tail, ended, rfl⟩ | ⟨_, impossible, _⟩ | ⟨_, impossible, _⟩
        · rw [ended, List.length_cons] at blanks
          exact ⟨goOn_close_object ended, blanks⟩
        · cases impossible
        · cases impossible
      · obtain ⟨further, less⟩ := inductionHypothesis others
        have shorter := skipped.length_le one
        have colon := length_lt_of_colon separator
        rw [membersSize, ← Nat.add_assoc]
        rcases nextKey_cases turn with
          ⟨impossible, _⟩ | ⟨_, same, rfl, tail, quote, text⟩ |
            ⟨_, same, rfl, behind, tail, comma, quote, text⟩
        · cases impossible
        · cases same
          have string := (skipString_of_string text).2
          rw [Bool.not_true, goOn_first_member quote text separator, skipped.skipFrom_eq one]
          rw [quote, List.length_cons] at blanks
          exact ⟨further, by omega⟩
        · cases same
          have string := (skipString_of_string text).2
          have less := length_skipBlanks_le behind
          rw [Bool.not_false, goOn_next_member comma quote text separator,
            skipped.skipFrom_eq one]
          rw [comma, List.length_cons] at blanks
          rw [quote, List.length_cons] at less
          exact ⟨further, by omega⟩

end Skipped

/-- How a value inside brackets is entered, by its first byte. -/
def enter (outer : List Bracket) (b : UInt8) (tail : Bytes) :
    Except Fault (Bool × List Bracket × Bytes) :=
  if b = 0x6E then (word ull tail).map (true, outer, ·)
  else if b = 0x74 then (word rue tail).map (true, outer, ·)
  else if b = 0x66 then (word alse tail).map (true, outer, ·)
  else if b = 0x2D || isDigit b then (Numeral.skip (b :: tail)).map (true, outer, ·)
  else if b = 0x22 then (skipString tail).map (true, outer, ·)
  else if b = 0x5B then .ok (false, Bracket.list :: outer, tail)
  else if b = 0x7B then .ok (false, Bracket.object :: outer, tail)
  else .error (.behindNext .expectedValue (b :: tail))

theorem skipFrom_of_enter {budget : Nat} {outer inner : List Bracket} {input tail rest : Bytes}
    {b : UInt8} {separated : Bool} (skipped : skipBlanks input = b :: tail)
    (entered : enter outer b tail = .ok (separated, inner, rest)) :
    skipFrom (budget + 1) outer input = goOn budget separated inner rest := by
  rw [enter] at entered
  rw [skipFrom, skipped]
  simp only
  split_ifs at entered ⊢
  all_goals
    rw [entered]
    rfl

theorem enter_number {outer : List Bracket} {b : UInt8} {tail rest : Bytes}
    (sign : b = 0x2D ∨ isDigit b = true) (skipped : Numeral.skip (b :: tail) = .ok rest) :
    enter outer b tail = .ok (true, outer, rest) := by
  rcases sign with rfl | digit
  · rw [enter, skipped]
    rfl
  · have noNull : b ≠ 0x6E := ne_of_isDigit digit rfl
    have noTrue : b ≠ 0x74 := ne_of_isDigit digit rfl
    have noFalse : b ≠ 0x66 := ne_of_isDigit digit rfl
    simp [enter, digit, noNull, noTrue, noFalse, skipped, Except.map]

/-- A value without brackets is left by the way it was entered. -/
theorem skipFrom_of_scalar {budget : Nat} {outer : List Bracket} {input tail rest : Bytes}
    {b : UInt8} (skipped : skipBlanks input = b :: tail)
    (entered : enter outer b tail = .ok (true, outer, rest))
    (shorter : rest.length < (b :: tail).length) :
    skipFrom (budget + 1) outer input = goOn budget true outer rest ∧
      rest.length + 1 ≤ input.length := by
  have blanks := length_skipBlanks_le input
  rw [skipped] at blanks
  constructor
  · exact skipFrom_of_enter skipped entered
  · exact Nat.le_trans shorter blanks

/-- A document that was read is passed over, given the same of the documents inside. -/
theorem skipFrom_of_opens {nested : Option (Read Json)} {input rest : Bytes} {j : Json}
    (opens : Opens nested input j rest) (inside : ∀ item, nested = some item → Skipped item)
    (budget : Nat) (outer : List Bracket) :
    skipFrom (budget + j.size) outer input = goOn budget true outer rest ∧
      rest.length + j.size ≤ input.length := by
  have blanks := length_skipBlanks_le input
  cases opens with
  | null skipped word | true skipped word | false skipped word =>
      apply skipFrom_of_scalar skipped
      · rw [enter, word]
        rfl
      · exact Nat.lt_succ_of_le (length_le_of_word word)
  | number skipped sign numeral =>
      obtain ⟨passed, shorter⟩ := Numeral.skip_of_read numeral
      exact skipFrom_of_scalar skipped (enter_number sign passed) shorter
  | string skipped text =>
      obtain ⟨passed, shorter⟩ := skipString_of_string text
      apply skipFrom_of_scalar skipped
      · rw [enter, passed]
        rfl
      · exact Nat.lt_succ_of_lt shorter
  | @list tail _ item items skipped given loop =>
      obtain ⟨passed, shorter⟩ := (inside item given).readItems_eq loop budget outer
      rw [skipped, List.length_cons] at blanks
      rw [size, ← Nat.add_assoc, skipFrom_of_enter skipped rfl]
      exact ⟨passed, by omega⟩
  | @object tail _ value members skipped given loop =>
      obtain ⟨passed, shorter⟩ := (inside value given).readMembers_eq loop budget outer
      rw [skipped, List.length_cons] at blanks
      rw [size, ← Nat.add_assoc, skipFrom_of_enter skipped rfl]
      exact ⟨passed, by omega⟩

theorem readWith_skipped {nested : Option (Read Json)}
    (inside : ∀ item, nested = some item → Skipped item) : Skipped (readWith nested) where
  skipFrom_eq read budget outer :=
    (skipFrom_of_opens (readWith_opens read) inside budget outer).1
  length_le read := (skipFrom_of_opens (readWith_opens read) inside 0 []).2

theorem document_skipped (room : Nat) : Skipped (document room) := by
  induction room with
  | zero =>
      apply readWith_skipped
      intro item given
      cases given
  | succ room inductionHypothesis =>
      apply readWith_skipped
      intro item given
      cases given
      exact inductionHypothesis

/-- What is read as a document can be passed over, however deep it nests. -/
theorem skip_of_document {room : Nat} {input rest : Bytes} {j : Json}
    (read : document room input = .ok (j, rest)) : skip input = .ok rest := by
  have shorter := (document_skipped room).length_le read
  obtain ⟨budget, enough⟩ : ∃ budget, budgetFor input = budget + j.size :=
    ⟨input.length + 1 - j.size, by unfold budgetFor; omega⟩
  rw [skip, enough, (document_skipped room).skipFrom_eq read budget [], goOn_outside]

end ShellBridge.Json
