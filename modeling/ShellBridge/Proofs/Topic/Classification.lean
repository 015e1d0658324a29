import ShellBridge.Proofs.Topic.Grammar

/-!
What can be read of a topic whose repository is any text.

The repository is the one part that a topic takes over as it stands, so a separator in it moves
every segment behind it.  Such a topic is still refused, unless its repository itself goes down to
the elements of a submodel: then all that stands behind is read as the path of an element, and the
kind, the shell and the submodel that were asked for are lost.
-/

namespace ShellBridge

namespace Identifier

/-- A word that is not read as an identifier is the segment of none. -/
theorem encode_ne_of_refused {word : String} (refused : (decode word).toOption = none)
    (id : String) : encode id ≠ word := by
  intro same
  rw [← same, decode_encode] at refused
  cases refused

theorem encode_ne_submodels (id : String) : encode id ≠ "submodels" :=
  encode_ne_of_refused (by decide +kernel) id

theorem encode_ne_submodelElements (id : String) : encode id ≠ "submodelElements" :=
  encode_ne_of_refused (by decide +kernel) id

end Identifier

namespace TopicKind

/-- The last segment of the topics of the kind. -/
def suffix : TopicKind → String
  | shellCreated | submodelCreated | elementCreated => "created"
  | submodelDeleted | elementDeleted => "deleted"
  | elementUpdated => "updated"
  | elementValue => "value"

/-- The kind of an element topic that ends like the topics of the kind. -/
def asElement : TopicKind → TopicKind
  | shellCreated | submodelCreated | elementCreated => elementCreated
  | submodelDeleted | elementDeleted => elementDeleted
  | elementUpdated => elementUpdated
  | elementValue => elementValue

theorem elementSuffix?_asElement (kind : TopicKind) :
    kind.asElement.elementSuffix? = some kind.suffix := by
  cases kind <;> rfl

theorem asElement_eq_self_iff {kind : TopicKind} : kind.asElement = kind ↔ kind.isElement := by
  cases kind <;> decide

/-- The segments of a topic between `shells` and the last one. -/
def within (kind : TopicKind) (ids : EntityIds) (path : String) : List String :=
  match kind with
  | shellCreated => []
  | submodelCreated | submodelDeleted => [Identifier.encode ids.shell, "submodels"]
  | elementCreated | elementUpdated | elementDeleted | elementValue =>
      Identifier.encode ids.shell :: "submodels" :: Identifier.encode ids.submodel
        :: "submodelElements" :: Text.split '/' (Path.normalize path)

/-- The segments of a topic behind `shells`. -/
def behind (kind : TopicKind) (ids : EntityIds) (path : String) : List String :=
  kind.within ids path ++ [kind.suffix]

/-- The first of them is no word in the place of which an identifier can stand. -/
theorem exists_behind_eq_cons (kind : TopicKind) (ids : EntityIds) (path : String) :
    ∃ first rest, kind.behind ids path = first :: rest ∧ first ≠ "submodels" ∧
      first ≠ "submodelElements" := by
  cases kind with
  | shellCreated => exact ⟨"created", [], rfl, by decide, by decide⟩
  | submodelCreated | submodelDeleted | elementCreated | elementUpdated | elementDeleted
  | elementValue =>
      exact ⟨_, _, rfl, Identifier.encode_ne_submodels ids.shell,
        Identifier.encode_ne_submodelElements ids.shell⟩

end TopicKind

namespace TopicScheme

theorem split_elementTopic (scheme : TopicScheme) (ids : EntityIds) (path suffix : String)
    (plain : '/' ∉ suffix.toList) :
    Text.split '/' (scheme.elementTopic ids path suffix) =
      "aas-repository" :: (Text.split '/' (scheme.repositoryOr ids.repository) ++
        "shells" :: Identifier.encode ids.shell :: "submodels" :: Identifier.encode ids.submodel
          :: "submodelElements" :: (Text.split '/' (Path.normalize path) ++ [suffix])) := by
  rw [elementTopic, split_submodelTopic, split_elementSuffix _ _ _ plain]

/-- The segments of a topic, whatever its repository is. -/
theorem split_topic (scheme : TopicScheme) (kind : TopicKind) (ids : EntityIds) (path : String) :
    Text.split '/' (scheme.topic kind ids path) =
      "aas-repository" :: (Text.split '/' (scheme.repositoryOr ids.repository) ++
        "shells" :: kind.behind ids path) := by
  cases kind with
  | shellCreated => exact split_shellCreated scheme ids.repository
  | submodelCreated =>
      rw [topic, submodelCreated, split_submodelTopic,
        Text.split_of_not_mem (s := "created") (by decide)]
      rfl
  | submodelDeleted =>
      rw [topic, submodelDeleted, split_submodelTopic,
        Text.split_of_not_mem (s := "deleted") (by decide)]
      rfl
  | elementCreated => exact split_elementTopic scheme ids path "created" (by decide)
  | elementUpdated => exact split_elementTopic scheme ids path "updated" (by decide)
  | elementDeleted => exact split_elementTopic scheme ids path "deleted" (by decide)
  | elementValue => exact split_elementTopic scheme ids path "value" (by decide)

/-- What is read of the topic, if anything, is its kind, and the shell and the submodel that were
given, as far as any is read. -/
def Classified (scheme : TopicScheme) (kind : TopicKind) (ids : EntityIds) (path : String) : Prop :=
  ∀ parsed, ParsedTopic.parse (scheme.topic kind ids path) = some parsed →
    parsed.kind = kind ∧ (∀ shell, parsed.shell = some shell → shell = ids.shell) ∧
      ∀ submodel, parsed.submodel = some submodel → submodel = ids.submodel

/-- Behind `outer`, the text of the repository `inner` goes down to the elements of a submodel. -/
def Descends (outer inner shell submodel : String) : Prop :=
  ∃ more, Text.split '/' inner =
    Text.split '/' outer ++ "shells" :: Identifier.encode shell :: "submodels"
      :: Identifier.encode submodel :: "submodelElements" :: more

end TopicScheme

namespace ParsedTopic

variable {kind : TopicKind} {ids : EntityIds} {path : String}

/-- The segments behind a repository of one segment are read as what they were written for. -/
theorem exists_means_behind (repository : String) (kind : TopicKind) (ids : EntityIds)
    (path : String) :
    ∃ parsed, Means ("aas-repository" :: repository :: "shells" :: kind.behind ids path) parsed ∧
      parsed.kind = kind := by
  have present : Text.split '/' (Path.normalize path) ≠ [] := Text.split_ne_nil _
  cases kind with
  | shellCreated => exact ⟨_, .shell repository, rfl⟩
  | submodelCreated | submodelDeleted => exact ⟨_, .submodel repository ids.shell rfl, rfl⟩
  | elementCreated | elementUpdated | elementDeleted | elementValue =>
      exact ⟨_, .element repository ids.shell ids.submodel present rfl, rfl⟩

theorem kind_eq_of_behind_eq {kind' : TopicKind} {ids' : EntityIds} {path' : String}
    (same : kind.behind ids path = kind'.behind ids' path') : kind = kind' := by
  obtain ⟨parsed, meaning, read⟩ := exists_means_behind "" kind ids path
  obtain ⟨parsed', meaning', read'⟩ := exists_means_behind "" kind' ids' path'
  rw [same] at meaning
  have one : parsed = parsed' :=
    Option.some.inj (meaning.ofSegments_eq.symm.trans meaning'.ofSegments_eq)
  rw [← read, ← read', one]

/-- If more segments stand between the second one and those behind `shells`, they go down to the
elements of a submodel: at every place in front of these, `shells` or the segment after it is
refused. -/
theorem Means.descends {outer next : String} {more : List String} {parsed : ParsedTopic}
    (meaning : Means
      ("aas-repository" :: outer :: next :: (more ++ "shells" :: kind.behind ids path))
      parsed) :
    next = "shells" ∧ ∃ shell submodel rest, more =
      Identifier.encode shell :: "submodels" :: Identifier.encode submodel :: "submodelElements"
        :: rest := by
  obtain ⟨first, others, behind, notSubmodels, notElements⟩ := kind.exists_behind_eq_cons ids path
  rw [behind] at meaning
  generalize segments : "aas-repository" :: outer :: next :: (more ++ "shells" :: first :: others) =
    all at meaning
  cases meaning with
  | shell repository =>
      match more, segments with
      | [], segments => simp at segments
      | _ :: _, segments => simp at segments
  | submodel repository shell known =>
      match more, segments with
      | [], segments => simp [notSubmodels] at segments
      | [_], segments => simp at segments
      | [_, _], segments => simp at segments
      | _ :: _ :: _ :: _, segments => simp at segments
  | @element suffix kind' path' repository shell submodel present known =>
      match more, segments with
      | [], segments => simp [notSubmodels] at segments
      | [_], segments => simp at segments
      | [_, _], segments => simp [notElements] at segments
      | [_, _, _], segments => simp at segments
      | a :: b :: c :: d :: rest, segments =>
          simp only [List.cons_append, List.cons.injEq] at segments
          obtain ⟨-, -, rfl, rfl, rfl, rfl, rfl, -⟩ := segments
          exact ⟨rfl, shell, submodel, rest, rfl⟩

/-- Under such a repository every topic is read as one of an element. -/
theorem parse_topic_of_descends {outer shell submodel : String} {more : List String}
    (scheme : TopicScheme)
    (descends : Text.split '/' (scheme.repositoryOr ids.repository) =
      outer :: "shells" :: Identifier.encode shell :: "submodels" :: Identifier.encode submodel
        :: "submodelElements" :: more) :
    parse (scheme.topic kind ids path) =
      some ⟨kind.asElement, outer, some shell, some submodel,
        some ("/".intercalate (more ++ "shells" :: kind.within ids path))⟩ := by
  rw [parse_eq_some_iff_means, TopicScheme.split_topic, descends]
  have present : more ++ "shells" :: kind.within ids path ≠ [] := by simp
  have meaning := Means.element outer shell submodel present kind.elementSuffix?_asElement
  rw [List.append_assoc] at meaning
  exact meaning

/-- The topics of a repository of several segments are read only if it goes down to the elements of
a submodel. -/
theorem exists_descends_of_parse {outer next : String} {more : List String} {parsed : ParsedTopic}
    (scheme : TopicScheme)
    (pieces : Text.split '/' (scheme.repositoryOr ids.repository) = outer :: next :: more)
    (read : parse (scheme.topic kind ids path) = some parsed) :
    ∃ shell submodel rest, Text.split '/' (scheme.repositoryOr ids.repository) =
      outer :: "shells" :: Identifier.encode shell :: "submodels" :: Identifier.encode submodel
        :: "submodelElements" :: rest := by
  rw [parse_eq_some_iff_means, TopicScheme.split_topic, pieces] at read
  obtain ⟨rfl, shell, submodel, rest, rfl⟩ := read.descends
  exact ⟨shell, submodel, rest, pieces⟩

theorem classified_iff (scheme : TopicScheme) (kind : TopicKind) (ids : EntityIds) (path : String) :
    scheme.Classified kind ids path ↔
      ∀ outer shell submodel, '/' ∉ outer.toList →
        TopicScheme.Descends outer (scheme.repositoryOr ids.repository) shell submodel →
        kind.isElement ∧ shell = ids.shell ∧ submodel = ids.submodel := by
  constructor
  · intro classified outer shell submodel plain ⟨more, descends⟩
    rw [Text.split_of_not_mem plain, List.singleton_append] at descends
    obtain ⟨sameKind, sameShell, sameSubmodel⟩ :=
      classified _ (parse_topic_of_descends scheme descends)
    exact ⟨TopicKind.asElement_eq_self_iff.mp sameKind, sameShell _ rfl, sameSubmodel _ rfl⟩
  · intro given parsed read
    cases pieces : Text.split '/' (scheme.repositoryOr ids.repository) with
    | nil => exact absurd pieces (Text.split_ne_nil _)
    | cons outer rest =>
        have plain : '/' ∉ outer.toList :=
          Text.not_mem_of_mem_split (pieces ▸ List.mem_cons_self)
        cases rest with
        | nil =>
            have whole : scheme.repositoryOr ids.repository = outer :=
              Text.split_injective (pieces.trans (Text.split_of_not_mem plain).symm)
            rw [parse_topic_eq_parts scheme kind ids path (whole ▸ plain)] at read
            cases read
            refine ⟨rfl, ?_, ?_⟩
            · intro shell known
              simp only [TopicScheme.parts, Option.ite_none_left_eq_some] at known
              exact (Option.some.inj known.2).symm
            · intro submodel known
              simp only [TopicScheme.parts, Option.ite_none_right_eq_some] at known
              exact (Option.some.inj known.2).symm
        | cons next more =>
            obtain ⟨shell, submodel, rest, descends⟩ := exists_descends_of_parse scheme pieces read
            cases descends.symm.trans pieces
            rw [parse_topic_of_descends scheme descends] at read
            cases read
            obtain ⟨element, sameShell, sameSubmodel⟩ := given outer shell submodel plain
              ⟨rest, by rw [descends, Text.split_of_not_mem plain, List.singleton_append]⟩
            refine ⟨TopicKind.asElement_eq_self_iff.mpr element, ?_, ?_⟩
            · intro shell' known
              rw [← Option.some.inj known, sameShell]
            · intro submodel' known
              rw [← Option.some.inj known, sameSubmodel]

theorem kind_eq_or_descends {kind' : TopicKind} {ids' : EntityIds} {path' outer inner : String}
    {more : List String} (longer : Text.split '/' inner = Text.split '/' outer ++ more)
    (rest : "shells" :: kind.behind ids path = more ++ "shells" :: kind'.behind ids' path') :
    kind = kind' ∨ ∃ shell submodel, TopicScheme.Descends outer inner shell submodel := by
  cases more with
  | nil => exact .inl (kind_eq_of_behind_eq (List.cons.inj rest).2)
  | cons first more =>
      rw [List.cons_append, List.cons.injEq] at rest
      obtain ⟨rfl, rest⟩ := rest
      obtain ⟨parsed, meaning, -⟩ := exists_means_behind "" kind ids path
      rw [rest] at meaning
      obtain ⟨-, shell, submodel, others, rfl⟩ := meaning.descends
      exact .inr ⟨shell, submodel, others, longer⟩

/-- A topic is never misclassified just if every way in which the text of its repository goes down
to the elements of a submodel ends at the elements that the topic is about.  It is the topic of no
other kind, unless one of the two repositories goes on from the other down to the elements of a
submodel. -/
theorem classified_exact (scheme : TopicScheme) (kind : TopicKind) (ids : EntityIds)
    (path : String) :
    (scheme.Classified kind ids path ↔
      ∀ outer shell submodel, '/' ∉ outer.toList →
        TopicScheme.Descends outer (scheme.repositoryOr ids.repository) shell submodel →
        kind.isElement ∧ shell = ids.shell ∧ submodel = ids.submodel) ∧
    ∀ (scheme' : TopicScheme) (kind' : TopicKind) (ids' : EntityIds) (path' : String),
      scheme.topic kind ids path = scheme'.topic kind' ids' path' →
      kind = kind' ∨
        (∃ shell submodel, TopicScheme.Descends (scheme.repositoryOr ids.repository)
          (scheme'.repositoryOr ids'.repository) shell submodel) ∨
        ∃ shell submodel, TopicScheme.Descends (scheme'.repositoryOr ids'.repository)
          (scheme.repositoryOr ids.repository) shell submodel := by
  refine ⟨classified_iff scheme kind ids path, ?_⟩
  intro scheme' kind' ids' path' same
  have pieces := congrArg (Text.split '/') same
  rw [TopicScheme.split_topic, TopicScheme.split_topic, List.cons.injEq] at pieces
  -- One of the two repositories has all segments of the other in front.
  rcases List.append_eq_append_iff.mp pieces.2 with ⟨more, longer, rest⟩ | ⟨more, longer, rest⟩
  · rcases kind_eq_or_descends longer rest with equal | descends
    · exact .inl equal
    · exact .inr (.inl descends)
  · rcases kind_eq_or_descends longer rest with equal | descends
    · exact .inl equal.symm
    · exact .inr (.inr descends)

/-- A shell that is announced under such a repository is read as an element that was created, and
its topic is that of this element. -/
theorem not_classified_of_separators :
    (¬ ∀ (scheme : TopicScheme) (kind : TopicKind) (ids : EntityIds) (path : String),
        scheme.Classified kind ids path) ∧
      TopicScheme.standard.topic .shellCreated
          ⟨"S1", "", some "plant/shells/Uw/submodels/TQ/submodelElements/p"⟩ "" =
        TopicScheme.standard.topic .elementCreated ⟨"S", "M", some "plant"⟩ "p/shells" := by
  have same : TopicScheme.standard.topic .shellCreated
        ⟨"S1", "", some "plant/shells/Uw/submodels/TQ/submodelElements/p"⟩ "" =
      TopicScheme.standard.topic .elementCreated ⟨"S", "M", some "plant"⟩ "p/shells" := by
    decide +kernel
  refine ⟨?_, same⟩
  intro classified
  have read := parse_topic_eq_parts .standard .elementCreated ⟨"S", "M", some "plant"⟩ "p/shells"
    (by decide)
  rw [← same] at read
  have kinds := (classified _ _ _ _ _ read).1
  cases kinds

end ParsedTopic

end ShellBridge
