import ShellBridge.Address.Ipv6
import ShellBridge.Proofs.Text.Numeral
import ShellBridge.Proofs.Text.Split

/-!
IPv6 addresses in a round trip.

Whatever is read has eight groups of sixteen bits, and its notation has nothing but hexadecimal
digits, colons and points.  The canonical notation of such groups is read as these groups: two
colons meet in it only where it leaves out a run of zeros.
-/

namespace ShellBridge.Ipv6

open Text (numeral? hexValue? decimalValue? splitChars)

/-- Eight groups of sixteen bits. -/
structure IsAddress (groups : List Nat) : Prop where
  length : groups.length = 8
  small : ∀ g ∈ groups, g < 0x10000

/-- The characters that addresses are written with. -/
def IsSign (c : Char) : Prop :=
  (hexValue? c).isSome ∨ c = ':' ∨ c = '.'

instance : DecidablePred IsSign :=
  fun c => inferInstanceAs (Decidable ((hexValue? c).isSome ∨ c = ':' ∨ c = '.'))

theorem IsSign.graphic {c : Char} (sign : IsSign c) : 0x20 < c.toNat := by
  rcases sign with digit | rfl | rfl
  · exact Nat.lt_of_lt_of_le (by decide) (Text.le_toNat_of_hexValue? digit)
  · decide
  · decide

/-! ### What is read -/

theorem lt_of_group? {cs : List Char} {g : Nat} (read : group? cs = some g) : g < 0x10000 := by
  unfold group? at read
  split at read
  · next short =>
      calc g < 16 ^ cs.length := Text.lt_of_numeral? Text.lt_of_hexValue? read
        _ ≤ 16 ^ 4 := Nat.pow_le_pow_right (by decide) short
  · cases read

theorem digits_of_group? {cs : List Char} {g : Nat} (read : group? cs = some g) :
    ∀ c ∈ cs, (hexValue? c).isSome := by
  unfold group? at read
  split at read
  · exact Text.digits_of_numeral? read
  · cases read

theorem le_of_octet? {cs : List Char} {n : Nat} (read : octet? cs = some n) : n ≤ 255 := by
  unfold octet? at read
  split at read
  · simpa using (Option.filter_eq_some_iff.mp read).2
  · cases read

theorem digits_of_octet? {cs : List Char} {n : Nat} (read : octet? cs = some n) :
    ∀ c ∈ cs, (decimalValue? c).isSome := by
  unfold octet? at read
  split at read
  · exact Text.digits_of_numeral? (Option.filter_eq_some_iff.mp read).1
  · cases read

theorem exists_octets_of_dotted? {cs : List Char} {groups : List Nat}
    (read : dotted? cs = some groups) :
    (∀ g ∈ groups, g < 0x10000) ∧
      ∀ piece ∈ splitChars '.' cs, ∀ c ∈ piece, (decimalValue? c).isSome := by
  unfold dotted? at read
  split at read
  · next a b c d pieces =>
      obtain ⟨first, readFirst, read⟩ := Option.bind_eq_some_iff.mp read
      obtain ⟨second, readSecond, read⟩ := Option.bind_eq_some_iff.mp read
      obtain ⟨third, readThird, read⟩ := Option.bind_eq_some_iff.mp read
      obtain ⟨fourth, readFourth, read⟩ := Option.bind_eq_some_iff.mp read
      cases read
      have bounds := And.intro (le_of_octet? readFirst) (le_of_octet? readSecond)
      have bounds' := And.intro (le_of_octet? readThird) (le_of_octet? readFourth)
      constructor
      · intro g membership
        rcases List.mem_cons.mp membership with rfl | membership
        · omega
        · rw [List.mem_singleton.mp membership]
          omega
      · rw [pieces]
        simp only [List.forall_mem_cons, List.not_mem_nil, false_implies, implies_true, and_true]
        exact ⟨digits_of_octet? readFirst, digits_of_octet? readSecond,
          digits_of_octet? readThird, digits_of_octet? readFourth⟩
  · cases read

theorem isSign_of_hexValue? {c : Char} (digit : (hexValue? c).isSome) : IsSign c :=
  .inl digit

theorem isSign_of_decimalValue? {c : Char} (digit : (decimalValue? c).isSome) : IsSign c := by
  rw [Text.isSome_decimalValue?] at digit
  left
  rw [hexValue?, if_pos digit]
  rfl

theorem signs_of_dotted? {cs : List Char} {groups : List Nat} (read : dotted? cs = some groups) :
    ∀ c ∈ cs, IsSign c := by
  intro c membership
  rcases Text.mem_piece_of_mem '.' membership with point | ⟨piece, inside, found⟩
  · exact .inr (.inr point)
  · exact isSign_of_decimalValue? ((exists_octets_of_dotted? read).2 piece inside c found)

theorem of_mapM_group? {pieces : List (List Char)} {groups : List Nat}
    (read : pieces.mapM group? = some groups) :
    (∀ g ∈ groups, g < 0x10000) ∧ ∀ piece ∈ pieces, ∀ c ∈ piece, IsSign c := by
  induction pieces generalizing groups with
  | nil =>
      cases read
      exact ⟨by simp, by simp⟩
  | cons piece pieces inductionHypothesis =>
      rw [List.mapM_cons] at read
      obtain ⟨g, first, read⟩ := Option.bind_eq_some_iff.mp read
      obtain ⟨others, behind, read⟩ := Option.bind_eq_some_iff.mp read
      cases read
      obtain ⟨small, signs⟩ := inductionHypothesis behind
      refine ⟨List.forall_mem_cons.mpr ⟨lt_of_group? first, small⟩,
        List.forall_mem_cons.mpr ⟨?_, signs⟩⟩
      exact fun c inside => isSign_of_hexValue? (digits_of_group? first c inside)

theorem of_lastGroups? {pieces : List (List Char)} {groups : List Nat}
    (read : lastGroups? pieces = some groups) :
    (∀ g ∈ groups, g < 0x10000) ∧ ∀ piece ∈ pieces, ∀ c ∈ piece, IsSign c := by
  fun_induction lastGroups? pieces generalizing groups with
  | case1 =>
      cases read
      exact ⟨by simp, by simp⟩
  | case2 piece dotted =>
      refine ⟨(exists_octets_of_dotted? read).1, ?_⟩
      intro other membership
      rw [List.mem_singleton.mp membership]
      exact signs_of_dotted? read
  | case3 piece plain =>
      obtain ⟨g, one, same⟩ := Option.map_eq_some_iff.mp read
      cases same
      refine ⟨by simpa using lt_of_group? one, ?_⟩
      intro other membership c inside
      rw [List.mem_singleton.mp membership] at inside
      exact isSign_of_hexValue? (digits_of_group? one c inside)
  | case4 piece rest several inductionHypothesis =>
      obtain ⟨g, first, read⟩ := Option.bind_eq_some_iff.mp read
      obtain ⟨others, behind, read⟩ := Option.bind_eq_some_iff.mp read
      cases read
      obtain ⟨small, signs⟩ := inductionHypothesis behind
      refine ⟨List.forall_mem_cons.mpr ⟨lt_of_group? first, small⟩,
        List.forall_mem_cons.mpr ⟨?_, signs⟩⟩
      exact fun c inside => isSign_of_hexValue? (digits_of_group? first c inside)

theorem signs_of_pieces {cs : List Char} (signs : ∀ piece ∈ pieces cs, ∀ c ∈ piece, IsSign c) :
    ∀ c ∈ cs, IsSign c := by
  intro c membership
  rw [pieces, if_neg (List.ne_nil_of_mem membership)] at signs
  rcases Text.mem_piece_of_mem ':' membership with colon | ⟨piece, inside, found⟩
  · exact .inr (.inl colon)
  · exact signs piece inside c found

theorem eq_of_splitGap {cs before behind : List Char} (gap : splitGap cs = some (before, behind)) :
    cs = before ++ ':' :: ':' :: behind := by
  fun_induction splitGap cs generalizing before with
  | case1 rest =>
      cases gap
      rfl
  | case2 c rest other inductionHypothesis =>
      obtain ⟨⟨front, back⟩, found, same⟩ := Option.map_eq_some_iff.mp gap
      cases same
      rw [inductionHypothesis found]
      rfl
  | case3 => cases gap

theorem signs_of_gap {cs before behind : List Char}
    (gap : splitGap cs = some (before, behind)) (signs : ∀ c ∈ before, IsSign c)
    (signsBehind : ∀ c ∈ behind, IsSign c) : ∀ c ∈ cs, IsSign c := by
  have colon : IsSign ':' := .inr (.inl rfl)
  rw [eq_of_splitGap gap]
  refine List.forall_mem_append.mpr ⟨signs, ?_⟩
  exact List.forall_mem_cons.mpr ⟨colon, List.forall_mem_cons.mpr ⟨colon, signsBehind⟩⟩

/-- The groups around a gap, with the zeros that stand in it. -/
theorem isAddress_filled {first last : List Nat} (short : first.length + last.length ≤ 7)
    (small : ∀ g ∈ first, g < 0x10000) (smallLast : ∀ g ∈ last, g < 0x10000) :
    IsAddress (first ++ List.replicate (8 - (first.length + last.length)) 0 ++ last) where
  length := by
    simp only [List.length_append, List.length_replicate]
    omega
  small := by
    refine List.forall_mem_append.mpr ⟨List.forall_mem_append.mpr ⟨small, ?_⟩, smallLast⟩
    intro g zero
    rw [List.eq_of_mem_replicate zero]
    decide

/-- An address that is read has eight groups of sixteen bits, and no other signs. -/
theorem of_parse {cs : List Char} {groups : List Nat} (read : parse cs = some groups) :
    IsAddress groups ∧ ∀ c ∈ cs, IsSign c := by
  unfold parse at read
  split at read
  · next gapless =>
      obtain ⟨all, length⟩ := Option.filter_eq_some_iff.mp read
      obtain ⟨small, signs⟩ := of_lastGroups? all
      exact ⟨⟨by simpa using length, small⟩, signs_of_pieces signs⟩
  · next before behind gap =>
      obtain ⟨first, readFirst, read⟩ := Option.bind_eq_some_iff.mp read
      obtain ⟨last, readLast, read⟩ := Option.bind_eq_some_iff.mp read
      obtain ⟨small, signs⟩ := of_mapM_group? readFirst
      obtain ⟨smallLast, signsLast⟩ := of_lastGroups? readLast
      split at read
      · next short =>
          cases read
          refine ⟨isAddress_filled short small smallLast, ?_⟩
          exact signs_of_gap gap (signs_of_pieces signs) (signs_of_pieces signsLast)
      · cases read

/-! ### What is written -/

/-- A group in writing. -/
def digits (g : Nat) : List Char :=
  Nat.toDigits 16 g

/-- Groups in writing, with colons between them. -/
def groupsChars (groups : List Nat) : List Char :=
  [':'].intercalate (groups.map digits)

theorem toList_groupsText (groups : List Nat) :
    (groupsText groups).toList = groupsChars groups := by
  rw [groupsText, String.toList_intercalate, List.map_map]
  have written : String.toList ∘ Text.hex = digits := by
    funext g
    exact String.toList_ofList
  rw [written]
  rfl

theorem isHex_of_mem_digits {g : Nat} : ∀ c ∈ digits g, (hexValue? c).isSome :=
  Text.digits_of_numeral? (Text.numeral?_toDigits (by decide) Text.hexValue?_digitChar g)

theorem not_mem_digits {c : Char} (noDigit : hexValue? c = none) (g : Nat) : c ∉ digits g := by
  intro membership
  have digit := isHex_of_mem_digits c membership
  rw [noDigit] at digit
  cases digit

theorem digits_ne_nil (g : Nat) : digits g ≠ [] :=
  Nat.toDigits_ne_nil

theorem group?_digits {g : Nat} (small : g < 0x10000) : group? (digits g) = some g := by
  have short : (digits g).length ≤ 4 :=
    (Nat.length_toDigits_le_iff (by decide) (by decide)).mpr small
  rw [group?, if_pos short]
  exact Text.numeral?_toDigits (by decide) Text.hexValue?_digitChar g

theorem mapM_group?_digits {groups : List Nat} (small : ∀ g ∈ groups, g < 0x10000) :
    (groups.map digits).mapM group? = some groups := by
  induction groups with
  | nil => rfl
  | cons g groups inductionHypothesis =>
      obtain ⟨first, others⟩ := List.forall_mem_cons.mp small
      rw [List.map_cons, List.mapM_cons, group?_digits first, inductionHypothesis others]
      rfl

theorem lastGroups?_digits {groups : List Nat} (small : ∀ g ∈ groups, g < 0x10000) :
    lastGroups? (groups.map digits) = some groups := by
  induction groups with
  | nil => rfl
  | cons g groups inductionHypothesis =>
      obtain ⟨first, others⟩ := List.forall_mem_cons.mp small
      cases groups with
      | nil =>
          have pointless : (digits g).contains '.' = false := by
            simpa using not_mem_digits (c := '.') (by decide) g
          rw [List.map_singleton, lastGroups?, pointless, group?_digits first]
          rfl
      | cons next more =>
          have behind := inductionHypothesis others
          rw [List.map_cons] at behind
          rw [List.map_cons, List.map_cons, lastGroups?, group?_digits first, behind]
          · rfl
          · exact List.cons_ne_nil _ _

theorem pieces_groupsChars (groups : List Nat) : pieces (groupsChars groups) = groups.map digits := by
  cases groups with
  | nil => rfl
  | cons g groups =>
      have plain : ∀ piece ∈ (g :: groups).map digits, ':' ∉ piece := by
        intro piece membership
        obtain ⟨g', _, rfl⟩ := List.mem_map.mp membership
        exact not_mem_digits (by decide) g'
      have split := Text.splitChars_intercalate (List.cons_ne_nil _ _) plain
      have nonempty : groupsChars (g :: groups) ≠ [] := by
        intro empty
        have one : splitChars ':' (groupsChars (g :: groups)) = (g :: groups).map digits := split
        rw [empty] at one
        exact digits_ne_nil g (List.cons.inj one).1.symm
      rw [pieces, if_neg nonempty]
      exact split

theorem splitGap_append {cs : List Char} (plain : ':' ∉ cs) (rest : List Char) :
    splitGap (cs ++ rest) =
      (splitGap rest).map fun (before, behind) => (cs ++ before, behind) := by
  induction cs with
  | nil => simp
  | cons c cs inductionHypothesis =>
      have other : c ≠ ':' := fun same => plain (same ▸ List.mem_cons_self)
      have behind := inductionHypothesis fun inside => plain (List.mem_cons_of_mem c inside)
      rw [List.cons_append, splitGap, behind, Option.map_map]
      · rfl
      · intro more same
        exact absurd same other

theorem splitGap_colon {cs : List Char} (single : cs.head? ≠ some ':') :
    splitGap (':' :: cs) = (splitGap cs).map fun (before, behind) => (':' :: before, behind) := by
  cases cs with
  | nil => rfl
  | cons c rest =>
      rw [splitGap]
      rintro more - same
      exact single (congrArg List.head? same)

theorem groupsChars_cons_cons (g next : Nat) (more : List Nat) :
    groupsChars (g :: next :: more) = digits g ++ ':' :: groupsChars (next :: more) := by
  rw [groupsChars, List.map_cons, List.map_cons, List.intercalate_cons_cons, List.append_assoc]
  rfl

theorem groupsChars_singleton (g : Nat) : groupsChars [g] = digits g := by
  simp [groupsChars]

/-- Groups in writing start with a digit. -/
theorem head?_groupsChars_ne (g : Nat) (groups : List Nat) (rest : List Char) :
    (groupsChars (g :: groups) ++ rest).head? ≠ some ':' := by
  obtain ⟨d, more, first⟩ := List.exists_cons_of_ne_nil (digits_ne_nil g)
  have digit : d ≠ ':' := by
    rintro rfl
    exact not_mem_digits (by decide) g (first ▸ List.mem_cons_self)
  cases groups with
  | nil =>
      rw [groupsChars_singleton, first]
      simpa using digit
  | cons next others =>
      rw [groupsChars_cons_cons, first]
      simpa using digit

/-- Two colons meet behind the groups only. -/
theorem splitGap_groupsChars (groups : List Nat) (rest : List Char) :
    splitGap (groupsChars groups ++ rest) =
      (splitGap rest).map fun (before, behind) => (groupsChars groups ++ before, behind) := by
  have plain (g : Nat) : ':' ∉ digits g := not_mem_digits (by decide) g
  induction groups with
  | nil => simp [groupsChars]
  | cons g groups inductionHypothesis =>
      cases groups with
      | nil =>
          rw [groupsChars_singleton]
          exact splitGap_append (plain g) rest
      | cons next more =>
          rw [groupsChars_cons_cons, List.append_assoc, List.cons_append,
            splitGap_append (plain g), splitGap_colon (head?_groupsChars_ne next more rest),
            inductionHypothesis, Option.map_map, Option.map_map]
          simp [Function.comp_def]

/-- The run of zeros that is left out, and what stands before and behind it. -/
theorem exists_zeros (start : Nat) (groups : List Nat) :
    ∃ before behind, (longestZeros start groups).1 = start + before.length ∧
      groups = before ++ List.replicate (longestZeros start groups).2 0 ++ behind := by
  induction groups generalizing start with
  | nil => exact ⟨[], [], rfl, rfl⟩
  | cons g rest inductionHypothesis =>
      rw [longestZeros]
      simp only
      split
      · refine ⟨[], (g :: rest).dropWhile (· = 0), rfl, ?_⟩
        have zeros : (g :: rest).takeWhile (· = 0) =
            List.replicate ((g :: rest).takeWhile (· = 0)).length 0 := by
          apply List.eq_replicate_iff.mpr ⟨rfl, ?_⟩
          intro g' membership
          simpa using List.all_eq_true.mp List.all_takeWhile g' membership
        rw [List.nil_append, ← zeros]
        exact List.takeWhile_append_dropWhile.symm
      · obtain ⟨before, behind, position, whole⟩ := inductionHypothesis (start + 1)
        refine ⟨g :: before, behind, ?_, ?_⟩
        · rw [position, List.length_cons]
          omega
        · simpa using whole

/-- Either all groups are written, or all but a run of two zeros or more. -/
theorem text_cases (groups : List Nat) :
    (text groups).toList = groupsChars groups ∨
      ∃ before length behind, 2 ≤ length ∧ groups = before ++ List.replicate length 0 ++ behind ∧
        (text groups).toList = groupsChars before ++ ':' :: ':' :: groupsChars behind := by
  obtain ⟨before, behind, position, whole⟩ := exists_zeros 0 groups
  rw [text]
  simp only
  split
  · exact .inl (toList_groupsText groups)
  · next long =>
      refine .inr ⟨before, _, behind, Nat.le_of_not_lt long, whole, ?_⟩
      have first : groups.take (longestZeros 0 groups).1 = before := by
        rw [position, whole]
        simp
      have last : groups.drop ((longestZeros 0 groups).1 + (longestZeros 0 groups).2) = behind := by
        nth_rewrite 3 [whole]
        rw [position]
        simp
      rw [first, last]
      simp [toList_groupsText]

theorem parse_groupsChars {groups : List Nat} (address : IsAddress groups) :
    parse (groupsChars groups) = some groups := by
  have gapless : splitGap (groupsChars groups) = none := by
    simpa [splitGap] using splitGap_groupsChars groups []
  rw [parse, gapless]
  simp only
  rw [pieces_groupsChars, lastGroups?_digits address.small]
  simp [address.length]

theorem parse_gap {before behind : List Nat} {length : Nat} (room : 0 < length)
    (address : IsAddress (before ++ List.replicate length 0 ++ behind)) :
    parse (groupsChars before ++ ':' :: ':' :: groupsChars behind) =
      some (before ++ List.replicate length 0 ++ behind) := by
  have gap : splitGap (groupsChars before ++ ':' :: ':' :: groupsChars behind) =
      some (groupsChars before, groupsChars behind) := by
    simpa [splitGap] using splitGap_groupsChars before (':' :: ':' :: groupsChars behind)
  have eight : before.length + (length + behind.length) = 8 := by simpa using address.length
  have left : 8 - (before.length + behind.length) = length := by omega
  have fits : before.length + behind.length ≤ 7 := by omega
  have first : ∀ g ∈ before, g < 0x10000 := by
    intro g membership
    exact address.small g (List.mem_append_left _ (List.mem_append_left _ membership))
  have last : ∀ g ∈ behind, g < 0x10000 := by
    intro g membership
    exact address.small g (List.mem_append_right _ membership)
  rw [parse, gap]
  simp only [pieces_groupsChars, mapM_group?_digits first, lastGroups?_digits last]
  show (if before.length + behind.length ≤ 7 then _ else none) = _
  rw [if_pos fits, left]

/-- The canonical notation of an address is read as the address. -/
theorem parse_text {groups : List Nat} (address : IsAddress groups) :
    parse (text groups).toList = some groups := by
  rcases text_cases groups with all | ⟨before, length, behind, long, rfl, gap⟩
  · rw [all]
    exact parse_groupsChars address
  · rw [gap]
    exact parse_gap (Nat.zero_lt_of_lt long) address

end ShellBridge.Ipv6
