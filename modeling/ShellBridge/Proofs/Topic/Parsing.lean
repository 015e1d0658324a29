import ShellBridge.Proofs.Text.Identifier
import ShellBridge.Proofs.Text.Split
import ShellBridge.Topic

/-!
Reading topics back.

Repository, shell and submodel take one segment each: the repository by assumption, the others by
their encoding.  A path takes any number of segments, but it stands between fixed segments in front
and exactly one segment behind, so it is found by position whatever its own segments are.
-/

namespace ShellBridge

namespace TopicKind

/-- Whether a topic of the kind addresses a single element. -/
def isElement : TopicKind → Bool
  | shellCreated | submodelCreated | submodelDeleted => false
  | elementCreated | elementUpdated | elementDeleted | elementValue => true

theorem ofEvent_injective {kind other : EventKind} (same : ofEvent kind = ofEvent other) :
    kind = other := by
  cases kind <;> cases other <;> first | rfl | cases same

theorem ofEvent_ne_shellCreated (kind : EventKind) : ofEvent kind ≠ .shellCreated := by
  cases kind <;> exact nofun

theorem isElement_ofEvent (kind : EventKind) :
    (ofEvent kind).isElement = kind.isElementScoped := by
  cases kind <;> rfl

end TopicKind

namespace TopicScheme

theorem split_root : Text.split '/' root = ["aas-repository"] :=
  Text.split_of_not_mem (by decide)

theorem split_slash (s t : String) :
    Text.split '/' (s ++ "/" ++ t) = Text.split '/' s ++ Text.split '/' t :=
  Text.split_append s t

section Segments

variable (scheme : TopicScheme) (repository : Option String)

theorem split_shellsBase :
    Text.split '/' (scheme.shellsBase repository) =
      "aas-repository" :: (Text.split '/' (scheme.repositoryOr repository) ++ ["shells"]) := by
  have joined : scheme.shellsBase repository =
      root ++ "/" ++ scheme.repositoryOr repository ++ "/" ++ "shells" := by
    simp only [shellsBase, String.append_assoc]
    rfl
  rw [joined, split_slash, split_slash, split_root,
    Text.split_of_not_mem (s := "shells") (by decide)]
  rfl

theorem split_shellBase (shell : String) :
    Text.split '/' (scheme.shellBase shell repository) =
      "aas-repository" :: (Text.split '/' (scheme.repositoryOr repository) ++
        ["shells", Identifier.encode shell]) := by
  rw [shellBase, split_slash, split_shellsBase,
    Text.split_of_not_mem (Identifier.separator_not_mem_encode shell), List.cons_append,
    List.append_assoc]
  rfl

theorem split_shellCreated :
    Text.split '/' (scheme.shellCreated repository) =
      "aas-repository" :: (Text.split '/' (scheme.repositoryOr repository) ++
        ["shells", "created"]) := by
  have joined : scheme.shellCreated repository =
      scheme.shellsBase repository ++ "/" ++ "created" := by
    rw [shellCreated, String.append_assoc]
    rfl
  rw [joined, split_slash, split_shellsBase, Text.split_of_not_mem (s := "created") (by decide),
    List.cons_append, List.append_assoc]
  rfl

theorem split_submodelTopic (shell suffix : String) :
    Text.split '/' (scheme.submodelTopic shell repository suffix) =
      "aas-repository" :: (Text.split '/' (scheme.repositoryOr repository) ++
        "shells" :: Identifier.encode shell :: "submodels" :: Text.split '/' suffix) := by
  have joined : scheme.submodelTopic shell repository suffix =
      scheme.shellBase shell repository ++ "/" ++ "submodels" ++ "/" ++ suffix := by
    simp only [submodelTopic, String.append_assoc]
    rfl
  rw [joined, split_slash, split_slash, split_shellBase,
    Text.split_of_not_mem (s := "submodels") (by decide)]
  simp only [List.cons_append, List.append_assoc, List.nil_append]

end Segments

theorem split_elementSuffix (submodel path suffix : String) (plain : '/' ∉ suffix.toList) :
    Text.split '/' (Identifier.encode submodel ++ "/submodelElements/" ++ path ++ "/" ++ suffix) =
      Identifier.encode submodel :: "submodelElements" :: (Text.split '/' path ++ [suffix]) := by
  have joined : Identifier.encode submodel ++ "/submodelElements/" ++ path ++ "/" ++ suffix =
      Identifier.encode submodel ++ "/" ++ "submodelElements" ++ "/" ++ path ++ "/" ++ suffix := by
    simp only [String.append_assoc]
    rfl
  rw [joined, split_slash, split_slash, split_slash,
    Text.split_of_not_mem (Identifier.separator_not_mem_encode submodel),
    Text.split_of_not_mem (s := "submodelElements") (by decide), Text.split_of_not_mem plain]
  rfl

/-- What a topic of the kind says. -/
def parts (scheme : TopicScheme) (kind : TopicKind) (ids : EntityIds) (path : String) :
    ParsedTopic where
  kind := kind
  repository := scheme.repositoryOr ids.repository
  shell := if kind = .shellCreated then none else some ids.shell
  submodel := if kind.isElement then some ids.submodel else none
  path := if kind.isElement then some (Path.normalize path) else none

end TopicScheme

namespace ParsedTopic

theorem decode?_encode (id : String) : decode? (Identifier.encode id) = some id := by
  rw [decode?, Identifier.decode_encode]
  rfl

/-- The segments of an element topic behind `submodels`, whatever the path is made of. -/
theorem ofSubmodelSegments_element (repository shell submodel path : String) {suffix : String}
    {kind : TopicKind} (known : TopicKind.ofElementSuffix? suffix = some kind) :
    ofSubmodelSegments repository shell
        (Identifier.encode submodel :: "submodelElements" :: (Text.split '/' path ++ [suffix])) =
      some ⟨kind, repository, some shell, some submodel, some path⟩ := by
  have whole : (String.singleton '/').intercalate (Text.split '/' path) = path :=
    Text.intercalate_split path
  cases segments : Text.split '/' path with
  | nil => exact absurd segments (Text.split_ne_nil path)
  | cons first rest =>
      rw [segments] at whole
      have joined : "/".intercalate (first :: rest) = path := whole
      simp [ofSubmodelSegments, decode?_encode, known, joined]

/-- Whatever the path is, the topic of an element reads back. -/
theorem parse_submodelTopic_element (scheme : TopicScheme) (shell submodel path : String)
    {repository : Option String} {suffix : String} {kind : TopicKind}
    (plain : '/' ∉ (scheme.repositoryOr repository).toList) (plainSuffix : '/' ∉ suffix.toList)
    (known : TopicKind.ofElementSuffix? suffix = some kind) :
    parse (scheme.submodelTopic shell repository
        (Identifier.encode submodel ++ "/submodelElements/" ++ path ++ "/" ++ suffix)) =
      some ⟨kind, scheme.repositoryOr repository, some shell, some submodel, some path⟩ := by
  rw [parse, TopicScheme.split_submodelTopic, Text.split_of_not_mem plain,
    TopicScheme.split_elementSuffix _ _ _ plainSuffix]
  simp [ofSegments, TopicScheme.root, decode?_encode,
    ofSubmodelSegments_element _ _ _ _ known]

theorem parse_elementTopic (scheme : TopicScheme) (ids : EntityIds) (path suffix : String)
    {kind : TopicKind} (plain : '/' ∉ (scheme.repositoryOr ids.repository).toList)
    (plainSuffix : '/' ∉ suffix.toList) (known : TopicKind.ofElementSuffix? suffix = some kind) :
    parse (scheme.elementTopic ids path suffix) =
      some ⟨kind, scheme.repositoryOr ids.repository, some ids.shell, some ids.submodel,
        some (Path.normalize path)⟩ :=
  parse_submodelTopic_element scheme ids.shell ids.submodel (Path.normalize path) plain plainSuffix
    known

theorem parse_submodelTopic (scheme : TopicScheme) (shell : String) {repository : Option String}
    {suffix : String} {kind : TopicKind} (plain : '/' ∉ (scheme.repositoryOr repository).toList)
    (plainSuffix : '/' ∉ suffix.toList) (known : TopicKind.ofSubmodelSuffix? suffix = some kind) :
    parse (scheme.submodelTopic shell repository suffix) =
      some ⟨kind, scheme.repositoryOr repository, some shell, none, none⟩ := by
  rw [parse, TopicScheme.split_submodelTopic, Text.split_of_not_mem plain,
    Text.split_of_not_mem plainSuffix]
  simp [ofSegments, TopicScheme.root, decode?_encode, ofSubmodelSegments, known]

theorem parse_shellCreated (scheme : TopicScheme) {repository : Option String}
    (plain : '/' ∉ (scheme.repositoryOr repository).toList) :
    parse (scheme.shellCreated repository) =
      some ⟨.shellCreated, scheme.repositoryOr repository, none, none, none⟩ := by
  rw [parse, TopicScheme.split_shellCreated, Text.split_of_not_mem plain]
  simp [ofSegments, TopicScheme.root]

theorem parse_topic_eq_parts (scheme : TopicScheme) (kind : TopicKind) (ids : EntityIds)
    (path : String) (plain : '/' ∉ (scheme.repositoryOr ids.repository).toList) :
    parse (scheme.topic kind ids path) = some (scheme.parts kind ids path) := by
  cases kind with
  | shellCreated => exact parse_shellCreated scheme plain
  | submodelCreated => exact parse_submodelTopic scheme ids.shell plain (by decide) rfl
  | submodelDeleted => exact parse_submodelTopic scheme ids.shell plain (by decide) rfl
  | elementCreated => exact parse_elementTopic scheme ids path "created" plain (by decide) rfl
  | elementUpdated => exact parse_elementTopic scheme ids path "updated" plain (by decide) rfl
  | elementDeleted => exact parse_elementTopic scheme ids path "deleted" plain (by decide) rfl
  | elementValue => exact parse_elementTopic scheme ids path "value" plain (by decide) rfl

/-- Every topic that is named under a repository of one segment reads back: its kind, its
repository, and the identifiers and the path in normal form as far as its kind has them. -/
theorem parse_topic (scheme : TopicScheme) (kind : TopicKind) (ids : EntityIds) (path : String)
    (plain : '/' ∉ (scheme.repositoryOr ids.repository).toList) :
    ∃ parsed, parse (scheme.topic kind ids path) = some parsed ∧
      parsed.kind = kind ∧
      parsed.repository = scheme.repositoryOr ids.repository ∧
      parsed.shell = (if kind = .shellCreated then none else some ids.shell) ∧
      parsed.submodel = (if kind.isElement then some ids.submodel else none) ∧
      parsed.path = (if kind.isElement then some (Path.normalize path) else none) :=
  ⟨scheme.parts kind ids path, parse_topic_eq_parts scheme kind ids path plain, rfl, rfl, rfl, rfl,
    rfl⟩

/-- An empty shell, a submodel with a separator, and a path of the scheme's own words. -/
theorem parse_topic_of_keywords :
    '/' ∉ (TopicScheme.repositoryOr ⟨"plant"⟩ none).toList ∧
      ∃ parsed,
        parse (TopicScheme.topic ⟨"plant"⟩ .elementCreated ⟨"", "urn:a/ü", none⟩
          "/created//submodelElements/") = some parsed ∧
        parsed.kind = .elementCreated ∧ parsed.repository = "plant" ∧ parsed.shell = some "" ∧
        parsed.submodel = some "urn:a/ü" ∧ parsed.path = some "created//submodelElements" := by
  have plain : '/' ∉ (TopicScheme.repositoryOr ⟨"plant"⟩ none).toList := by decide
  have normal : Path.normalize "/created//submodelElements/" = "created//submodelElements" := by
    decide
  obtain ⟨parsed, read, kind, repository, shell, submodel, path⟩ :=
    parse_topic ⟨"plant"⟩ .elementCreated ⟨"", "urn:a/ü", none⟩ "/created//submodelElements/" plain
  refine ⟨plain, parsed, read, kind, repository, shell, submodel, ?_⟩
  rw [path, normal]
  rfl

end ParsedTopic

end ShellBridge
