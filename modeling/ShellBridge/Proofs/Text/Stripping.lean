import Mathlib.Data.List.DropRight
import ShellBridge.Text.Blank

/-!
What is left of a text without certain characters at its ends.

A text is made of its core by putting such characters in front of it and behind it, and the core has
none of them at its ends.  There is only one such core, which is what stripping leaves.
-/

namespace ShellBridge.Text

variable {p : Char → Bool} {core cs : List Char}

/-- No character at an end of the text satisfies `p`. -/
def Bare (p : Char → Bool) (cs : List Char) : Prop :=
  (∀ c ∈ cs.head?, p c = false) ∧ ∀ c ∈ cs.getLast?, p c = false

theorem all_not_iff {end? : Option Char} : end?.all (!p ·) = true ↔ ∀ c ∈ end?, p c = false := by
  cases end? <;> simp

instance (p : Char → Bool) (cs : List Char) : Decidable (Bare p cs) :=
  decidable_of_iff _ (and_congr all_not_iff all_not_iff)

/-- The text is the core with characters that satisfy `p` in front of it and behind it. -/
def Surrounds (p : Char → Bool) (core cs : List Char) : Prop :=
  ∃ front behind, cs = front ++ core ++ behind ∧
    (∀ c ∈ front, p c = true) ∧ ∀ c ∈ behind, p c = true

theorem Surrounds.refl : Surrounds p cs cs :=
  ⟨[], [], by simp, by simp, by simp⟩

/-- Dropping stops at the first character that stays. -/
theorem dropWhile_append_of_stays {front rest : List Char} (dropped : ∀ c ∈ front, p c = true)
    (stays : ∀ c ∈ rest.head?, p c = false) : (front ++ rest).dropWhile p = rest := by
  rw [List.dropWhile_append_of_pos dropped]
  cases rest with
  | nil => rfl
  | cons c rest => exact List.dropWhile_cons_of_neg (by simp [stays c rfl])

theorem bare_stripChars (p : Char → Bool) (cs : List Char) : Bare p (stripChars p cs) := by
  constructor
  · intro c first
    have kept : c ∈ (cs.dropWhile p).head? := by
      obtain ⟨behind, whole⟩ := List.rdropWhile_prefix p (cs.dropWhile p)
      rw [← whole]
      exact List.mem_head?_append_of_mem_head? first
    have stopped := List.head?_dropWhile_not p cs
    rw [Option.mem_def.mp kept] at stopped
    exact stopped
  · intro c last
    obtain ⟨some, same⟩ := List.mem_getLast?_eq_getLast last
    rw [same]
    exact Bool.not_eq_true _ ▸ List.rdropWhile_last_not p (cs.dropWhile p) some

theorem surrounds_stripChars (p : Char → Bool) (cs : List Char) :
    Surrounds p (stripChars p cs) cs := by
  refine ⟨cs.takeWhile p, (cs.dropWhile p).rtakeWhile p, ?_, ?_, ?_⟩
  · have behind : stripChars p cs ++ (cs.dropWhile p).rtakeWhile p = cs.dropWhile p :=
      List.rdropWhile_append_rtakeWhile
    rw [List.append_assoc, behind, List.takeWhile_append_dropWhile]
  · exact fun c inside => List.mem_takeWhile_imp inside
  · exact fun c inside => List.mem_rtakeWhile_imp inside

theorem stripChars_of_surrounds (bare : Bare p core) (around : Surrounds p core cs) :
    stripChars p cs = core := by
  obtain ⟨front, behind, rfl, inFront, inBack⟩ := around
  cases core with
  | nil =>
      rw [stripChars, List.append_nil, List.dropWhile_append_of_pos inFront,
        List.dropWhile_eq_nil_iff.mpr inBack]
      rfl
  | cons c rest =>
      have begins : (front ++ (c :: rest ++ behind)).dropWhile p = c :: rest ++ behind :=
        dropWhile_append_of_stays inFront bare.1
      have ends : (behind.reverse ++ (c :: rest).reverse).dropWhile p = (c :: rest).reverse := by
        apply dropWhile_append_of_stays
        · simpa using inBack
        · rw [List.head?_reverse]
          exact bare.2
      rw [stripChars, List.append_assoc, begins, List.reverse_append, ends, List.reverse_reverse]

/-- Stripping finds the only core of a text. -/
theorem stripChars_eq_iff : stripChars p cs = core ↔ Bare p core ∧ Surrounds p core cs := by
  constructor
  · rintro rfl
    exact ⟨bare_stripChars p cs, surrounds_stripChars p cs⟩
  · rintro ⟨bare, around⟩
    exact stripChars_of_surrounds bare around

theorem stripChars_eq_self_iff : stripChars p cs = cs ↔ Bare p cs := by
  rw [stripChars_eq_iff]
  exact and_iff_left .refl

/-- Characters that are stripped make no difference at the end of a text. -/
theorem stripChars_concat {c : Char} (stripped : p c = true) (cs : List Char) :
    stripChars p (cs ++ [c]) = stripChars p cs := by
  obtain ⟨front, behind, whole, inFront, inBack⟩ := surrounds_stripChars p cs
  refine stripChars_of_surrounds (bare_stripChars p cs) ⟨front, behind ++ [c], ?_, inFront, ?_⟩
  · rw [← List.append_assoc, ← whole]
  · simpa [or_imp, forall_and, stripped] using inBack

theorem stripChars_eq_self (kept : ∀ c ∈ cs, p c = false) : stripChars p cs = cs :=
  stripChars_eq_self_iff.mpr
    ⟨fun c first => kept c (List.mem_of_mem_head? first),
      fun c last => kept c (List.mem_of_mem_getLast? last)⟩

/-- Trimming leaves what has no blanks at its ends, and takes nothing but blanks away. -/
theorem trim_eq_iff {s kept : String} :
    trim s = kept ↔ Bare isBlank kept.toList ∧ Surrounds isBlank kept.toList s.toList := by
  rw [← stripChars_eq_iff, trim, ← String.toList_inj, String.toList_ofList]

end ShellBridge.Text
