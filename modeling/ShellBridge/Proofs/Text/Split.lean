import ShellBridge.Text.Blank

/-!
Pieces of a text between separators.  Splitting takes apart what was joined, and joining the pieces,
none of which holds the separator, gives the text back.
-/

namespace ShellBridge.Text

variable {separator : Char}

theorem splitChars_of_not_mem {cs : List Char} (plain : separator ∉ cs) :
    splitChars separator cs = [cs] := by
  induction cs with
  | nil => rfl
  | cons c rest inductionHypothesis =>
      have other : c ≠ separator := fun equality => plain (by simp [equality])
      have plainRest : separator ∉ rest := fun membership => plain (by simp [membership])
      simp only [splitChars, if_neg other, inductionHypothesis plainRest]

theorem splitChars_append (cs ds : List Char) :
    splitChars separator (cs ++ separator :: ds) =
      splitChars separator cs ++ splitChars separator ds := by
  induction cs with
  | nil => simp [splitChars]
  | cons c rest inductionHypothesis =>
      by_cases here : c = separator
      · simp [splitChars, here, inductionHypothesis]
      · simp only [List.cons_append, splitChars, if_neg here, inductionHypothesis]
        cases pieces : splitChars separator rest with
        | nil => exact absurd pieces (splitChars_ne_nil separator rest)
        | cons piece more => rfl

theorem intercalate_splitChars (cs : List Char) :
    [separator].intercalate (splitChars separator cs) = cs := by
  induction cs with
  | nil => rfl
  | cons c rest inductionHypothesis =>
      cases pieces : splitChars separator rest with
      | nil => exact absurd pieces (splitChars_ne_nil separator rest)
      | cons piece more =>
          rw [pieces] at inductionHypothesis
          by_cases here : c = separator
          · simp only [splitChars, if_pos here, pieces]
            rw [List.intercalate_cons_cons, inductionHypothesis]
            simp [here]
          · simp only [splitChars, if_neg here, pieces]
            cases more with
            | nil => simpa using inductionHypothesis
            | cons next others =>
                rw [List.intercalate_cons_cons] at inductionHypothesis ⊢
                rw [List.cons_append, List.cons_append, inductionHypothesis]

/-- Pieces without the separator are found again between the separators. -/
theorem splitChars_intercalate {pieces : List (List Char)} (some : pieces ≠ [])
    (plain : ∀ piece ∈ pieces, separator ∉ piece) :
    splitChars separator ([separator].intercalate pieces) = pieces := by
  induction pieces with
  | nil => exact absurd rfl some
  | cons piece pieces inductionHypothesis =>
      obtain ⟨first, others⟩ := List.forall_mem_cons.mp plain
      cases pieces with
      | nil => simpa using splitChars_of_not_mem first
      | cons next more =>
          rw [List.intercalate_cons_cons, List.append_assoc, List.singleton_append,
            splitChars_append, splitChars_of_not_mem first,
            inductionHypothesis (List.cons_ne_nil next more) others]
          rfl

theorem mem_piece_of_mem (separator : Char) {cs : List Char} {c : Char} (membership : c ∈ cs) :
    c = separator ∨ ∃ piece ∈ splitChars separator cs, c ∈ piece := by
  induction cs with
  | nil => cases membership
  | cons d rest inductionHypothesis =>
      by_cases here : d = separator
      · rw [splitChars, if_pos here]
        rcases List.mem_cons.mp membership with rfl | behind
        · exact .inl here
        · refine (inductionHypothesis behind).imp_right ?_
          rintro ⟨piece, inside, found⟩
          exact ⟨piece, List.mem_cons_of_mem [] inside, found⟩
      · rw [splitChars, if_neg here]
        cases pieces : splitChars separator rest with
        | nil => exact absurd pieces (splitChars_ne_nil separator rest)
        | cons first others =>
            rcases List.mem_cons.mp membership with rfl | behind
            · exact .inr ⟨c :: first, List.mem_cons_self, List.mem_cons_self⟩
            · refine (inductionHypothesis behind).imp_right ?_
              rintro ⟨piece, inside, found⟩
              rw [pieces] at inside
              rcases List.mem_cons.mp inside with rfl | inside
              · exact ⟨d :: piece, List.mem_cons_self, List.mem_cons_of_mem d found⟩
              · exact ⟨piece, List.mem_cons_of_mem _ inside, found⟩

theorem split_of_not_mem {s : String} (plain : separator ∉ s.toList) :
    split separator s = [s] := by
  rw [split, splitChars_of_not_mem plain, List.map_singleton, String.ofList_toList]

theorem split_append (s t : String) :
    split separator (s ++ .singleton separator ++ t) = split separator s ++ split separator t := by
  simp [split, splitChars_append]

theorem intercalate_split (s : String) :
    (String.singleton separator).intercalate (split separator s) = s := by
  apply String.ext
  rw [String.toList_intercalate, split, List.map_map, String.toList_singleton]
  have pieces : (String.toList ∘ String.ofList : List Char → List Char) = id := by
    funext cs
    exact String.toList_ofList
  rw [pieces, List.map_id, intercalate_splitChars]

theorem split_ne_nil (s : String) : split separator s ≠ [] := by
  simp [split, splitChars_ne_nil]

theorem not_mem_of_mem_splitChars {cs piece : List Char}
    (membership : piece ∈ splitChars separator cs) : separator ∉ piece := by
  induction cs generalizing piece with
  | nil =>
      rw [List.mem_singleton.mp membership]
      exact List.not_mem_nil
  | cons c rest inductionHypothesis =>
      rw [splitChars] at membership
      split at membership
      · rcases List.mem_cons.mp membership with rfl | behind
        · exact List.not_mem_nil
        · exact inductionHypothesis behind
      · next different =>
          split at membership
          · next impossible => exact absurd impossible (splitChars_ne_nil separator rest)
          · next first others pieces =>
              rw [pieces] at inductionHypothesis
              rcases List.mem_cons.mp membership with rfl | behind
              · intro inside
                rcases List.mem_cons.mp inside with same | inside
                · exact different same.symm
                · exact inductionHypothesis List.mem_cons_self inside
              · exact inductionHypothesis (List.mem_cons_of_mem first behind)

/-- No piece holds the separator. -/
theorem not_mem_of_mem_split {s piece : String} (membership : piece ∈ split separator s) :
    separator ∉ piece.toList := by
  obtain ⟨cs, inside, rfl⟩ := List.mem_map.mp membership
  rw [String.toList_ofList]
  exact not_mem_of_mem_splitChars inside

theorem split_injective {s t : String} (same : split separator s = split separator t) : s = t := by
  have whole : (String.singleton separator).intercalate (split separator s) = s :=
    intercalate_split s
  rw [← whole, same, intercalate_split]

/-- The pieces of a text are the first ones of another just if that one goes on behind it, from a
separator on. -/
theorem split_prefix_iff {front s : String} :
    split separator front <+: split separator s ↔
      s = front ∨ ∃ rest, s = front ++ .singleton separator ++ rest := by
  constructor
  · rintro ⟨more, pieces⟩
    by_cases nothing : more = []
    · left
      rw [nothing, List.append_nil] at pieces
      exact split_injective pieces.symm
    · right
      refine ⟨(String.singleton separator).intercalate more, ?_⟩
      calc s = (String.singleton separator).intercalate (split separator s) :=
            (intercalate_split s).symm
        _ = (String.singleton separator).intercalate (split separator front ++ more) := by
            rw [pieces]
        _ = front ++ .singleton separator ++ (String.singleton separator).intercalate more := by
            rw [String.intercalate_append_of_ne_nil (split_ne_nil front) nothing,
              intercalate_split]
  · rintro (rfl | ⟨rest, rfl⟩)
    · exact List.prefix_rfl
    · rw [split_append]
      exact List.prefix_append _ _

/-- The piece stands in the text from one separator to the next, where the ends of the text count as
separators. -/
def IsPiece (separator : Char) (s piece : String) : Prop :=
  separator ∉ piece.toList ∧ ∃ front behind, s = front ++ piece ++ behind ∧
    (front = "" ∨ ∃ before, front = before ++ .singleton separator) ∧
    (behind = "" ∨ ∃ after, behind = .singleton separator ++ after)

theorem isPiece_of_mem_split {s piece : String} (membership : piece ∈ split separator s) :
    IsPiece separator s piece := by
  obtain ⟨before, after, pieces⟩ := List.append_of_mem membership
  -- What stands around the piece are the other pieces, joined again.
  have whole : s = (String.singleton separator).intercalate (before ++ piece :: after) := by
    rw [← pieces, intercalate_split]
  have ends : ∃ behind,
      (String.singleton separator).intercalate (piece :: after) = piece ++ behind ∧
        (behind = "" ∨ ∃ rest, behind = .singleton separator ++ rest) := by
    cases after with
    | nil => exact ⟨"", by simp, .inl rfl⟩
    | cons next more =>
        refine ⟨.singleton separator ++ (String.singleton separator).intercalate (next :: more), ?_,
          .inr ⟨_, rfl⟩⟩
        rw [String.intercalate_cons_cons, String.append_assoc]
  obtain ⟨behind, same, inBack⟩ := ends
  refine ⟨not_mem_of_mem_split membership, ?_⟩
  by_cases nothing : before = []
  · refine ⟨"", behind, ?_, .inl rfl, inBack⟩
    rw [whole, nothing, List.nil_append, same, String.empty_append]
  · refine ⟨(String.singleton separator).intercalate before ++ .singleton separator, behind, ?_,
      .inr ⟨_, rfl⟩, inBack⟩
    rw [whole, String.intercalate_append_of_ne_nil nothing (List.cons_ne_nil _ _), same,
      String.append_assoc, String.append_assoc, String.append_assoc]

theorem mem_split_of_isPiece {s piece : String} (found : IsPiece separator s piece) :
    piece ∈ split separator s := by
  obtain ⟨plain, front, behind, rfl, inFront, inBack⟩ := found
  have first : piece ∈ split separator (piece ++ behind) := by
    rcases inBack with rfl | ⟨after, rfl⟩
    · rw [String.append_empty, split_of_not_mem plain]
      exact List.mem_singleton_self piece
    · rw [← String.append_assoc, split_append, split_of_not_mem plain]
      exact List.mem_cons_self
  rw [String.append_assoc]
  rcases inFront with rfl | ⟨before, rfl⟩
  · rwa [String.empty_append]
  · rw [split_append]
    exact List.mem_append_right _ first

/-- Splitting finds the pieces between the separators, and nothing else. -/
theorem mem_split_iff {s piece : String} : piece ∈ split separator s ↔ IsPiece separator s piece :=
  ⟨isPiece_of_mem_split, mem_split_of_isPiece⟩

theorem split_intercalate {pieces : List String} (some : pieces ≠ [])
    (plain : ∀ piece ∈ pieces, separator ∉ piece.toList) :
    split separator ((String.singleton separator).intercalate pieces) = pieces := by
  have joined : splitChars separator ([separator].intercalate (pieces.map String.toList)) =
      pieces.map String.toList := by
    apply splitChars_intercalate
    · simpa using some
    · simpa using plain
  rw [split, String.toList_intercalate, String.toList_singleton, joined, List.map_map]
  simp [Function.comp_def]

end ShellBridge.Text
