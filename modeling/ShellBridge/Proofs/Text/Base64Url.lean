import ShellBridge.Proofs.Text.Utf8
import ShellBridge.Text.Base64Url

/-!
Reading back what was written in base64url.

A text is written as the symbols of a list of sextets.  The symbols give back the sextets, and the
sextets the bytes; no bit is left over, so nothing that was written is refused, and nothing else is
accepted.
-/

namespace ShellBridge.Base64Url

theorem sextet?_symbol : ∀ n < 64, sextet? (symbol n) = some n := by
  decide

/-- The six-bit numbers whose symbols a text is written with. -/
def split : Bytes → List Nat
  | a :: b :: c :: rest =>
      a.toNat / 4 :: (a.toNat % 4 * 16 + b.toNat / 16) :: (b.toNat % 16 * 4 + c.toNat / 64)
        :: c.toNat % 64 :: split rest
  | [a, b] => [a.toNat / 4, a.toNat % 4 * 16 + b.toNat / 16, b.toNat % 16 * 4]
  | [a] => [a.toNat / 4, a.toNat % 4 * 16]
  | [] => []

theorem encode_eq_map (bytes : Bytes) : encode bytes = (split bytes).map symbol := by
  induction bytes using split.induct with
  | case1 a b c rest inductionHypothesis => simp [encode, split, inductionHypothesis]
  | case2 a b => rfl
  | case3 a => rfl
  | case4 => rfl

theorem lt_of_mem_split {bytes : Bytes} {n : Nat} (membership : n ∈ split bytes) : n < 64 := by
  induction bytes using split.induct with
  | case1 a b c rest inductionHypothesis =>
      have := a.toNat_lt
      have := b.toNat_lt
      have := c.toNat_lt
      simp only [split, List.mem_cons] at membership
      rcases membership with equality | equality | equality | equality | inRest
      · omega
      · omega
      · omega
      · omega
      · exact inductionHypothesis inRest
  | case2 a b =>
      have := a.toNat_lt
      have := b.toNat_lt
      simp only [split, List.mem_cons, List.not_mem_nil, or_false] at membership
      omega
  | case3 a =>
      have := a.toNat_lt
      simp only [split, List.mem_cons, List.not_mem_nil, or_false] at membership
      omega
  | case4 => simp [split] at membership

theorem length_split_mod (bytes : Bytes) : (split bytes).length % 4 ≠ 1 := by
  induction bytes using split.induct with
  | case1 a b c rest inductionHypothesis =>
      simp only [split, List.length_cons]
      omega
  | case2 a b => simp [split]
  | case3 a => simp [split]
  | case4 => simp [split]

theorem regroup_split (bytes : Bytes) : regroup (split bytes) = some bytes := by
  induction bytes using split.induct with
  | case1 a b c rest inductionHypothesis =>
      have := a.toNat_lt
      have := b.toNat_lt
      have := c.toNat_lt
      simp only [split, regroup, inductionHypothesis, Option.map_some]
      rw [Utf8.byte_eq (b := a) (by omega), Utf8.byte_eq (b := b) (by omega),
        Utf8.byte_eq (b := c) (by omega)]
  | case2 a b =>
      have := a.toNat_lt
      have := b.toNat_lt
      simp only [split, regroup]
      rw [if_pos (by omega), Utf8.byte_eq (b := a) (by omega), Utf8.byte_eq (b := b) (by omega)]
  | case3 a =>
      have := a.toNat_lt
      simp only [split, regroup]
      rw [if_pos (by omega), Utf8.byte_eq (b := a) (by omega)]
  | case4 => rfl

theorem sextets_map_symbol (offset : Nat) {numbers : List Nat}
    (small : ∀ n ∈ numbers, n < 64) : sextets offset (numbers.map symbol) = .ok numbers := by
  induction numbers generalizing offset with
  | nil => rfl
  | cons n rest inductionHypothesis =>
      have readRest := inductionHypothesis (offset + 1)
        fun m membership => small m (List.mem_cons_of_mem n membership)
      simp only [List.map_cons, sextets, sextet?_symbol n (small n (by simp)), readRest]
      rfl

/-- Every sequence of bytes reads back. -/
theorem decode_encode (bytes : Bytes) : decode (encode bytes) = .ok bytes := by
  have length : (encode bytes).length % 4 ≠ 1 := by
    rw [encode_eq_map, List.length_map]
    exact length_split_mod bytes
  have numbers : sextets 0 (encode bytes) = .ok (split bytes) := by
    rw [encode_eq_map]
    exact sextets_map_symbol 0 fun n => lt_of_mem_split
  simp only [decode, if_neg length, numbers, regroup_split]

theorem isSome_sextet?_of_mem_encode {bytes : Bytes} {b : UInt8} (membership : b ∈ encode bytes) :
    (sextet? b).isSome = true := by
  rw [encode_eq_map] at membership
  rcases List.mem_map.mp membership with ⟨n, inSplit, rfl⟩
  rw [sextet?_symbol n (lt_of_mem_split inSplit)]
  rfl

theorem lt_of_isSome_sextet? {b : UInt8} (symbol : (sextet? b).isSome = true) : b.toNat < 0x80 := by
  unfold sextet? at symbol
  simp only [Bool.and_eq_true, decide_eq_true_eq, UInt8.le_iff_toNat_le, ← UInt8.toNat_inj]
    at symbol
  repeat' split at symbol
  all_goals simp_all
  all_goals omega

/-! ### Only what was written is read -/

theorem symbol_of_sextet? {b : UInt8} {n : Nat} (read : sextet? b = some n) :
    symbol n = b ∧ n < 64 := by
  simp only [sextet?, Bool.and_eq_true, decide_eq_true_eq, UInt8.le_iff_toNat_le,
    UInt8.reduceToNat] at read
  split at read
  next capital =>
    cases read
    refine ⟨?_, by omega⟩
    rw [symbol, if_pos (by omega), Utf8.byte_eq (b := b) (by omega)]
  next =>
    split at read
    next small =>
      cases read
      refine ⟨?_, by omega⟩
      rw [symbol, if_neg (by omega), if_pos (by omega), Utf8.byte_eq (b := b) (by omega)]
    next =>
      split at read
      next digit =>
        cases read
        refine ⟨?_, by omega⟩
        rw [symbol, if_neg (by omega), if_neg (by omega), if_pos (by omega),
          Utf8.byte_eq (b := b) (by omega)]
      next =>
        split at read
        next minus =>
          cases read
          exact ⟨minus.symm, by decide⟩
        next =>
          split at read
          next underscore =>
            cases read
            exact ⟨underscore.symm, by decide⟩
          next => cases read

/-- The symbols of the sextets that were read are the text. -/
theorem map_symbol_of_sextets {offset : Nat} {text : Bytes} {numbers : List Nat}
    (read : sextets offset text = .ok numbers) :
    numbers.map symbol = text ∧ ∀ n ∈ numbers, n < 64 := by
  induction text generalizing offset numbers with
  | nil =>
      cases read
      exact ⟨rfl, nofun⟩
  | cons b rest inductionHypothesis =>
      rw [sextets] at read
      cases value : sextet? b with
      | none =>
          simp only [value] at read
          split at read <;> cases read
      | some n =>
          simp only [value] at read
          cases behind : sextets (offset + 1) rest with
          | error refusal =>
              rw [behind] at read
              cases read
          | ok others =>
              rw [behind] at read
              cases read
              obtain ⟨first, small⟩ := symbol_of_sextet? value
              obtain ⟨same, smallBehind⟩ := inductionHypothesis behind
              refine ⟨by rw [List.map_cons, first, same], ?_⟩
              intro m membership
              rcases List.mem_cons.mp membership with rfl | behind
              · exact small
              · exact smallBehind m behind

/-- Bytes are made of just the sextets that were regrouped, as no bit is left over. -/
theorem split_of_regroup {numbers : List Nat} {bytes : Bytes} (small : ∀ n ∈ numbers, n < 64)
    (grouped : regroup numbers = some bytes) : split bytes = numbers := by
  have value : ∀ {n : Nat}, n < 256 → (UInt8.ofNat n).toNat = n := Utf8.toNat_ofNat
  fun_induction regroup numbers generalizing bytes with
  | case1 a b c d rest inductionHypothesis =>
      obtain ⟨behind, others, rfl⟩ := Option.map_eq_some_iff.mp grouped
      simp only [List.mem_cons, forall_eq_or_imp] at small
      obtain ⟨ha, hb, hc, hd, smallBehind⟩ := small
      have first := value (n := a * 4 + b / 16) (by omega)
      have second := value (n := b % 16 * 16 + c / 4) (by omega)
      have third := value (n := c % 4 * 64 + d) (by omega)
      rw [split, first, second, third, inductionHypothesis smallBehind others]
      simp only [List.cons.injEq, and_true]
      omega
  | case2 a b c whole =>
      cases grouped
      simp only [List.mem_cons, forall_eq_or_imp] at small
      have first := value (n := a * 4 + b / 16) (by omega)
      have second := value (n := b % 16 * 16 + c / 4) (by omega)
      rw [split, first, second]
      simp only [List.cons.injEq, and_true]
      omega
  | case4 a b whole =>
      cases grouped
      simp only [List.mem_cons, forall_eq_or_imp] at small
      have first := value (n := a * 4 + b / 16) (by omega)
      rw [split, first]
      simp only [List.cons.injEq, and_true]
      omega
  | case7 =>
      cases grouped
      rfl
  | _ => cases grouped

/-- Only what was written is read: no text has a second form. -/
theorem encode_of_decode {text bytes : Bytes} (read : decode text = .ok bytes) :
    encode bytes = text := by
  rw [decode] at read
  split at read
  · split at read
    · split at read <;> cases read
    · cases read
  · split at read
    · cases read
    · next numbers sextets =>
        obtain ⟨same, small⟩ := map_symbol_of_sextets sextets
        split at read
        · next bytes' grouped =>
            cases read
            rw [encode_eq_map, split_of_regroup small grouped, same]
        · cases read

/-! ### What is not regrouped -/

/-- The last sextet holds bits that no byte takes. -/
def StrayBits (numbers : List Nat) : Prop :=
  ∃ last, numbers.getLast? = some last ∧
    (numbers.length % 4 = 2 ∧ last % 16 ≠ 0 ∨ numbers.length % 4 = 3 ∧ last % 4 ≠ 0)

/-- A whole group in front makes no difference. -/
theorem strayBits_group_iff {a b c d : Nat} {rest : List Nat} :
    StrayBits (a :: b :: c :: d :: rest) ↔ StrayBits rest := by
  cases rest with
  | nil => simp [StrayBits]
  | cons e more =>
      simp only [StrayBits, List.getLast?_cons_cons, List.length_cons]
      have whole : (more.length + 1 + 1 + 1 + 1 + 1) % 4 = (more.length + 1) % 4 := by omega
      rw [whole]

theorem regroup_eq_none_iff (numbers : List Nat) :
    regroup numbers = none ↔ numbers.length % 4 = 1 ∨ StrayBits numbers := by
  fun_induction regroup numbers with
  | case1 a b c d rest inductionHypothesis =>
      rw [Option.map_eq_none_iff, inductionHypothesis, strayBits_group_iff]
      simp only [List.length_cons]
      have whole : (rest.length + 1 + 1 + 1 + 1) % 4 = rest.length % 4 := by omega
      rw [whole]
  | case2 a b c whole => simp [StrayBits, whole]
  | case3 a b c stray => simp [StrayBits, stray]
  | case4 a b whole => simp [StrayBits, whole]
  | case5 a b stray => simp [StrayBits, stray]
  | case6 a => simp
  | case7 => simp [StrayBits]

end ShellBridge.Base64Url
