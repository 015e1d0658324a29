import ShellBridge.Path
import ShellBridge.Proofs.Text.Stripping

/-!
The normal form of a path.

A path has many spellings, with more or fewer separators at its ends, and one normal form among them,
which has none there.  Spellings of one path are told by their normal form; between its ends a path
is not touched.
-/

namespace ShellBridge.Path

/-- The path neither starts nor ends with a separator. -/
def IsNormal (path : String) : Prop :=
  path.toList.head? ≠ some separator ∧ path.toList.getLast? ≠ some separator

instance (path : String) : Decidable (IsNormal path) :=
  inferInstanceAs (Decidable (_ ∧ _))

/-- So many separators, one behind the other. -/
def separators (count : Nat) : String :=
  .ofList (.replicate count separator)

/-- The path is the core with any number of separators in front of it and behind it. -/
def Spells (path core : String) : Prop :=
  ∃ front behind, path = separators front ++ core ++ separators behind

theorem isNormal_iff_bare {path : String} :
    IsNormal path ↔ Text.Bare (· = separator) path.toList := by
  simp only [IsNormal, Text.Bare, Option.mem_def, decide_eq_false_iff_not, ne_eq]
  constructor
  · rintro ⟨first, last⟩
    exact ⟨fun c begins same => first (same ▸ begins), fun c ends same => last (same ▸ ends)⟩
  · rintro ⟨first, last⟩
    exact ⟨fun begins => first separator begins rfl, fun ends => last separator ends rfl⟩

/-- Characters that are all separators are so many separators. -/
theorem eq_toList_separators_iff {cs : List Char} :
    (∃ count, cs = (separators count).toList) ↔ ∀ c ∈ cs, decide (c = separator) = true := by
  simp [separators, List.eq_replicate_iff]

theorem spells_iff_surrounds {path core : String} :
    Spells path core ↔ Text.Surrounds (· = separator) core.toList path.toList := by
  constructor
  · rintro ⟨front, behind, rfl⟩
    refine ⟨(separators front).toList, (separators behind).toList, by simp, ?_, ?_⟩
    · exact eq_toList_separators_iff.mp ⟨front, rfl⟩
    · exact eq_toList_separators_iff.mp ⟨behind, rfl⟩
  · rintro ⟨front, behind, whole, inFront, inBack⟩
    obtain ⟨m, rfl⟩ := eq_toList_separators_iff.mpr inFront
    obtain ⟨n, rfl⟩ := eq_toList_separators_iff.mpr inBack
    exact ⟨m, n, String.toList_injective (by simpa using whole)⟩

/-- A path has one normal spelling. -/
theorem normalize_eq_iff {path core : String} :
    normalize path = core ↔ IsNormal core ∧ Spells path core := by
  rw [isNormal_iff_bare, spells_iff_surrounds, ← Text.stripChars_eq_iff, normalize,
    ← String.toList_inj, String.toList_ofList]

theorem isNormal_normalize (path : String) : IsNormal (normalize path) :=
  (normalize_eq_iff.mp rfl).1

theorem spells_normalize (path : String) : Spells path (normalize path) :=
  (normalize_eq_iff.mp rfl).2

theorem normalize_eq_self_iff {path : String} : normalize path = path ↔ IsNormal path := by
  rw [normalize_eq_iff]
  exact and_iff_left ⟨0, 0, by simp [separators]⟩

/-- Two paths have the same normal form just if they spell the same normal path. -/
theorem normalize_eq_normalize_iff {path other : String} :
    normalize path = normalize other ↔
      ∃ core, IsNormal core ∧ Spells path core ∧ Spells other core := by
  constructor
  · intro same
    refine ⟨normalize other, isNormal_normalize other, ?_, spells_normalize other⟩
    rw [← same]
    exact spells_normalize path
  · rintro ⟨core, normal, spelled, otherSpelled⟩
    rw [normalize_eq_iff.mpr ⟨normal, spelled⟩, normalize_eq_iff.mpr ⟨normal, otherSpelled⟩]

/-- The normal form of a path has no separators at its ends, and the path is that form with some
separators added there.  It is the only such form, so that two paths have it in common just if both
spell it, and a normal path is left as it is, whatever separators it has inside. -/
theorem normalize_canonical (path other : String) :
    IsNormal (normalize path) ∧
    (∃ front behind, path = separators front ++ normalize path ++ separators behind) ∧
    (normalize path = normalize other ↔
      ∃ core, IsNormal core ∧ Spells path core ∧ Spells other core) ∧
    (∀ core, normalize path = core ↔ IsNormal core ∧ Spells path core) ∧
    normalize (normalize path) = normalize path :=
  ⟨isNormal_normalize path, spells_normalize path, normalize_eq_normalize_iff,
    fun _ => normalize_eq_iff, normalize_eq_self_iff.mpr (isNormal_normalize path)⟩

example : normalize "//a//b/" = "a//b" ∧ normalize "///" = "" := by decide

end ShellBridge.Path
