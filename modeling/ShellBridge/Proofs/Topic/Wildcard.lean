import ShellBridge.Proofs.Topic.Classification

/-!
What the patterns of a shell and of a repository cover.

A pattern `BASE/#` covers the topic `BASE` and all that lie below it, that is, the topics whose first
segments are those of the base.  Every segment of the two bases but the encoded shell stands at a
place where topics have a fixed word or their repository, so the segments are compared one by one;
and the one word that stands in the place of a shell, `created`, is the segment of no identifier.
-/

namespace ShellBridge

namespace Identifier

theorem encode_ne_created (id : String) : encode id ≠ "created" :=
  encode_ne_of_refused (by decide +kernel) id

end Identifier

namespace TopicScheme

/-- The pattern is `BASE/#`, and the topic is the base or lies below it. -/
def Covers (pattern topic : String) : Prop :=
  ∃ base, pattern = base ++ "/#" ∧ (topic = base ∨ ∃ below, topic = base ++ "/" ++ below)

/-- A pattern covers the topics that begin with the segments of its base. -/
theorem covers_iff_prefix {base topic : String} :
    Covers (base ++ "/#") topic ↔ Text.split '/' base <+: Text.split '/' topic := by
  rw [Text.split_prefix_iff]
  constructor
  · rintro ⟨base', same, below⟩
    rw [(String.append_left_inj "/#").mp same]
    exact below
  · intro below
    exact ⟨base, rfl, below⟩

/-- Only the topics of a shell have its segment behind `shells`. -/
theorem encode_prefix_behind_iff (shell : String) (kind : TopicKind) (ids : EntityIds)
    (path : String) :
    [Identifier.encode shell] <+: kind.behind ids path ↔
      kind ≠ .shellCreated ∧ ids.shell = shell := by
  cases kind with
  | shellCreated =>
      simp [TopicKind.behind, TopicKind.within, TopicKind.suffix, List.cons_prefix_cons,
        Identifier.encode_ne_created]
  | submodelCreated | submodelDeleted | elementCreated | elementUpdated | elementDeleted
  | elementValue =>
      simp [TopicKind.behind, TopicKind.within, List.cons_prefix_cons, Identifier.encode_inj,
        eq_comm]

section Patterns

variable {scheme scheme' : TopicScheme} {repository : Option String} {ids : EntityIds}
  (kind : TopicKind) (path : String)
  (plain : '/' ∉ (scheme.repositoryOr repository).toList)
  (plain' : '/' ∉ (scheme'.repositoryOr ids.repository).toList)
include plain plain'

theorem covers_shellWildcard_iff (shell : String) :
    Covers (scheme.shellWildcard shell repository) (scheme'.topic kind ids path) ↔
      scheme.repositoryOr repository = scheme'.repositoryOr ids.repository ∧
        kind ≠ .shellCreated ∧ ids.shell = shell := by
  rw [shellWildcard, covers_iff_prefix, split_shellBase, split_topic, Text.split_of_not_mem plain,
    Text.split_of_not_mem plain', ← encode_prefix_behind_iff shell kind ids path]
  simp only [List.singleton_append, List.cons_prefix_cons, true_and]

theorem covers_repositoryWildcard_iff :
    Covers (scheme.repositoryWildcard repository) (scheme'.topic kind ids path) ↔
      scheme.repositoryOr repository = scheme'.repositoryOr ids.repository := by
  rw [repositoryWildcard, covers_iff_prefix, split_slash, split_root, split_topic,
    Text.split_of_not_mem plain, Text.split_of_not_mem plain']
  simp only [List.singleton_append, List.cons_prefix_cons, List.nil_prefix, true_and, and_true]

end Patterns

/-- Under repositories of one segment, the pattern of a shell covers the topics of this shell in its
repository but for the announcement of the shell, and that of a repository covers the topics in this
repository.  So the pattern of no shell covers the announcement of any. -/
theorem wildcards_cover (scheme scheme' : TopicScheme) (repository : Option String)
    (kind : TopicKind) (ids : EntityIds) (path : String)
    (plain : '/' ∉ (scheme.repositoryOr repository).toList)
    (plain' : '/' ∉ (scheme'.repositoryOr ids.repository).toList) :
    (∀ shell, Covers (scheme.shellWildcard shell repository) (scheme'.topic kind ids path) ↔
      scheme.repositoryOr repository = scheme'.repositoryOr ids.repository ∧
        kind ≠ .shellCreated ∧ ids.shell = shell) ∧
    (Covers (scheme.repositoryWildcard repository) (scheme'.topic kind ids path) ↔
      scheme.repositoryOr repository = scheme'.repositoryOr ids.repository) ∧
    ∀ shell,
      ¬ Covers (scheme.shellWildcard shell repository) (scheme'.shellCreated ids.repository) := by
  refine ⟨?_, ?_, ?_⟩
  · exact covers_shellWildcard_iff kind path plain plain'
  · exact covers_repositoryWildcard_iff kind path plain plain'
  · intro shell covered
    have topic := (covers_shellWildcard_iff .shellCreated path plain plain' shell).mp covered
    exact topic.2.1 rfl

/-- The segment of the one shell is the beginning of the segment of the other. -/
theorem wildcards_cover_of_beginning :
    let topic := standard.topic .elementValue ⟨"abcd", "M", some "plant"⟩ "created"
    '/' ∉ (standard.repositoryOr (some "plant")).toList ∧
      '/' ∉ (repositoryOr ⟨"plant"⟩ none).toList ∧
      Covers (shellWildcard ⟨"plant"⟩ "abcd" none) topic ∧
      ¬ Covers (shellWildcard ⟨"plant"⟩ "abc" none) topic ∧
      Covers (repositoryWildcard ⟨"plant"⟩ none) topic ∧
      ¬ Covers (repositoryWildcard ⟨"plan"⟩ none) topic := by
  intro topic
  have named : '/' ∉ (standard.repositoryOr (some "plant")).toList := by decide
  have plant : '/' ∉ (repositoryOr ⟨"plant"⟩ none).toList := by decide
  have plan : '/' ∉ (repositoryOr ⟨"plan"⟩ none).toList := by decide
  obtain ⟨shells, covered, -⟩ := wildcards_cover ⟨"plant"⟩ standard none .elementValue
    ⟨"abcd", "M", some "plant"⟩ "created" plant named
  obtain ⟨-, foreign, -⟩ := wildcards_cover ⟨"plan"⟩ standard none .elementValue
    ⟨"abcd", "M", some "plant"⟩ "created" plan named
  refine ⟨named, plant, ?_, ?_, covered.mpr rfl, ?_⟩
  · exact (shells "abcd").mpr ⟨rfl, by decide, rfl⟩
  · intro other
    exact absurd ((shells "abc").mp other).2.2 (by decide)
  · intro other
    exact absurd (foreign.mp other) (by decide)

end TopicScheme

end ShellBridge
