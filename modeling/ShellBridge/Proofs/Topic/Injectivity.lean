import ShellBridge.Proofs.Topic.Classification

/-!
Topics under one repository, whatever its text is.

The repository stands in front of everything else and is taken over as it is, so two topics under
the same one are the same if what stands behind it is.  That part does not depend on the repository,
and under a repository of one segment it reads back; so it tells the kind, and the identifiers and
the path as far as the kind has them.
-/

namespace ShellBridge

namespace TopicScheme

variable {scheme scheme' : TopicScheme} {kind kind' : TopicKind} {ids ids' : EntityIds}
  {path path' : String}

/-- A topic depends on nothing but its repository and the parts that its kind has. -/
theorem topic_congr
    (repository : scheme.repositoryOr ids.repository = scheme'.repositoryOr ids'.repository)
    (shell : kind ≠ .shellCreated → ids.shell = ids'.shell)
    (element : kind.isElement = true →
      ids.submodel = ids'.submodel ∧ Path.normalize path = Path.normalize path') :
    scheme.topic kind ids path = scheme'.topic kind ids' path' := by
  have base : scheme.shellsBase ids.repository = scheme'.shellsBase ids'.repository := by
    rw [shellsBase, repository, shellsBase]
  cases kind with
  | shellCreated => rw [topic, topic, shellCreated, shellCreated, base]
  | submodelCreated | submodelDeleted =>
      have shell := shell (by decide)
      simp only [topic, submodelCreated, submodelDeleted, submodelTopic, shellBase, base, shell]
  | elementCreated | elementUpdated | elementDeleted | elementValue =>
      have shell := shell (by decide)
      obtain ⟨submodel, normal⟩ := element rfl
      simp only [topic, elementTopic, submodelTopic, shellBase, base, shell, submodel, normal]

/-- Topics under the same repository differ behind it, if they differ at all. -/
theorem behind_eq_of_topic_eq
    (repository : scheme.repositoryOr ids.repository = scheme'.repositoryOr ids'.repository)
    (same : scheme.topic kind ids path = scheme'.topic kind' ids' path') :
    kind.behind ids path = kind'.behind ids' path' := by
  have pieces := congrArg (Text.split '/') same
  rw [split_topic, split_topic, repository, List.cons.injEq] at pieces
  exact (List.cons.inj (List.append_cancel_left pieces.2)).2

/-- What is said of a topic tells the parts that its kind has. -/
theorem eq_of_parts_eq (same : scheme.parts kind ids path = scheme'.parts kind' ids' path') :
    kind = kind' ∧ (kind ≠ .shellCreated → ids.shell = ids'.shell) ∧
      (kind.isElement = true →
        ids.submodel = ids'.submodel ∧ Path.normalize path = Path.normalize path') := by
  simp only [parts, ParsedTopic.mk.injEq] at same
  obtain ⟨rfl, -, shell, submodel, normal⟩ := same
  refine ⟨rfl, ?_, ?_⟩
  · intro hasShell
    simpa only [if_neg hasShell, Option.some.injEq] using shell
  · intro element
    simp only [if_pos element, Option.some.injEq] at submodel normal
    exact ⟨submodel, normal⟩

end TopicScheme

namespace TopicKind

variable {kind kind' : TopicKind} {ids ids' : EntityIds} {path path' : String}

/-- The segments behind `shells` do not depend on the repository, and under one of a single segment
they are read as what they were written for. -/
theorem ofSegments_behind (kind : TopicKind) (ids : EntityIds) (path : String) :
    ParsedTopic.ofSegments ("aas-repository" :: "" :: "shells" :: kind.behind ids path) =
      some (TopicScheme.standard.parts kind { ids with repository := some "" } path) := by
  have plain : '/' ∉ ("" : String).toList := by decide
  have read := ParsedTopic.parse_topic_eq_parts .standard kind { ids with repository := some "" }
    path plain
  have moved : kind.behind { ids with repository := some "" } path = kind.behind ids path := by
    cases kind <;> rfl
  rw [ParsedTopic.parse, TopicScheme.split_topic, moved] at read
  exact read

/-- The segments behind `shells` tell the kind, and the parts that it has. -/
theorem eq_of_behind_eq (same : kind.behind ids path = kind'.behind ids' path') :
    kind = kind' ∧ (kind ≠ .shellCreated → ids.shell = ids'.shell) ∧
      (kind.isElement = true →
        ids.submodel = ids'.submodel ∧ Path.normalize path = Path.normalize path') := by
  have read := ofSegments_behind kind ids path
  rw [same, ofSegments_behind] at read
  have parts := TopicScheme.eq_of_parts_eq (Option.some.inj read).symm
  exact parts

end TopicKind

namespace TopicScheme

/-- Under one repository, which may be any text, topics are the same if and only if their kinds are
and, as far as the kind has them, the shells, the submodels and the normal forms of the paths; so
no two kinds share a topic. -/
theorem topic_eq_iff_of_same_repository (scheme scheme' : TopicScheme) (kind kind' : TopicKind)
    (ids ids' : EntityIds) (path path' : String)
    (repository : scheme.repositoryOr ids.repository = scheme'.repositoryOr ids'.repository) :
    (scheme.topic kind ids path = scheme'.topic kind' ids' path' ↔
      kind = kind' ∧ (kind ≠ .shellCreated → ids.shell = ids'.shell) ∧
        (kind.isElement = true →
          ids.submodel = ids'.submodel ∧ Path.normalize path = Path.normalize path')) ∧
    ∀ other, kind ≠ other → scheme.topic kind ids path ≠ scheme.topic other ids path := by
  constructor
  · constructor
    · intro same
      exact TopicKind.eq_of_behind_eq (behind_eq_of_topic_eq repository same)
    · rintro ⟨rfl, shell, element⟩
      exact topic_congr repository shell element
  · intro other different same
    exact different (TopicKind.eq_of_behind_eq (behind_eq_of_topic_eq rfl same)).1

/-- The repository holds separators and wildcards, and goes down to the elements of a submodel; it
is the default one of the first scheme and is named with the second. -/
theorem topic_eq_iff_of_wildcards :
    let repository := "plant/shells/Uw/submodels/TQ/submodelElements/+/#"
    let named : EntityIds := ⟨"S", "M", some repository⟩
    TopicScheme.repositoryOr ⟨repository⟩ none = standard.repositoryOr named.repository ∧
      TopicScheme.topic ⟨repository⟩ .elementCreated ⟨"S", "M", none⟩ "/created/" =
        standard.topic .elementCreated named "created" ∧
      TopicScheme.topic ⟨repository⟩ .elementCreated ⟨"S", "M", none⟩ "/created/" ≠
        standard.topic .elementCreated named "created/created" ∧
      TopicScheme.topic ⟨repository⟩ .elementCreated ⟨"S", "M", none⟩ "" ≠
        TopicScheme.topic ⟨repository⟩ .shellCreated ⟨"S", "M", none⟩ "" := by
  intro repository named
  have same : TopicScheme.repositoryOr ⟨repository⟩ none =
      standard.repositoryOr named.repository := rfl
  have topics (path : String) := topic_eq_iff_of_same_repository ⟨repository⟩ standard
    .elementCreated .elementCreated ⟨"S", "M", none⟩ named "/created/" path same
  refine ⟨same, (topics "created").1.mpr ?_, ?_, ?_⟩
  · exact ⟨rfl, fun _ => rfl, fun _ => ⟨rfl, by decide⟩⟩
  · intro equal
    obtain ⟨-, -, element⟩ := (topics "created/created").1.mp equal
    exact absurd (element rfl).2 (by decide)
  · exact (topic_eq_iff_of_same_repository ⟨repository⟩ standard .elementCreated .elementCreated
      ⟨"S", "M", none⟩ named "" "" same).2 .shellCreated (by decide)

end TopicScheme

end ShellBridge
