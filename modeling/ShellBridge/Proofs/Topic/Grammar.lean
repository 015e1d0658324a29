import ShellBridge.Proofs.Topic.Parsing

/-!
The grammar of topics.

What a topic says is fixed by its segments, and every segment but those of the path is fixed by what
it says.  So the parser accepts the topics of the grammar and no others, and no two of them alike.
-/

namespace ShellBridge

namespace TopicKind

/-- The last segment of the topics of a submodel. -/
def submodelSuffix? : TopicKind → Option String
  | submodelCreated => some "created"
  | submodelDeleted => some "deleted"
  | shellCreated | elementCreated | elementUpdated | elementDeleted | elementValue => none

/-- The last segment of the topics of an element. -/
def elementSuffix? : TopicKind → Option String
  | shellCreated | submodelCreated | submodelDeleted => none
  | elementCreated => some "created"
  | elementUpdated => some "updated"
  | elementDeleted => some "deleted"
  | elementValue => some "value"

theorem ofSubmodelSuffix?_eq_some_iff {suffix : String} {kind : TopicKind} :
    ofSubmodelSuffix? suffix = some kind ↔ kind.submodelSuffix? = some suffix := by
  constructor
  · intro known
    unfold ofSubmodelSuffix? at known
    split at known
    · next same =>
        cases known
        rw [same, submodelSuffix?]
    · split at known
      · next same =>
          cases known
          rw [same, submodelSuffix?]
      · cases known
  · intro known
    cases kind <;> cases known <;> rfl

theorem ofElementSuffix?_eq_some_iff {suffix : String} {kind : TopicKind} :
    ofElementSuffix? suffix = some kind ↔ kind.elementSuffix? = some suffix := by
  constructor
  · intro known
    unfold ofElementSuffix? at known
    repeat'
      split at known
      next same =>
        cases known
        rw [same, elementSuffix?]
    cases known
  · intro known
    cases kind <;> cases known <;> rfl

theorem separator_not_mem_submodelSuffix {suffix : String} {kind : TopicKind}
    (known : kind.submodelSuffix? = some suffix) : '/' ∉ suffix.toList := by
  cases kind <;> cases known <;> decide

theorem separator_not_mem_elementSuffix {suffix : String} {kind : TopicKind}
    (known : kind.elementSuffix? = some suffix) : '/' ∉ suffix.toList := by
  cases kind <;> cases known <;> decide

end TopicKind

namespace TopicScheme

variable (scheme : TopicScheme) (repository : Option String)

theorem shellCreated_eq :
    scheme.shellCreated repository =
      "aas-repository/" ++ scheme.repositoryOr repository ++ "/shells/created" := by
  have front : "aas-repository/" = root ++ "/" := rfl
  have behind : "/shells/created" = "/shells" ++ "/created" := rfl
  rw [front, behind]
  simp only [shellCreated, shellsBase, String.append_assoc]

theorem submodelTopic_eq (shell suffix : String) :
    scheme.submodelTopic shell repository suffix =
      "aas-repository/" ++ scheme.repositoryOr repository ++ "/shells/" ++
        Identifier.encode shell ++ "/submodels/" ++ suffix := by
  have front : "aas-repository/" = root ++ "/" := rfl
  have behind : "/shells/" = "/shells" ++ "/" := rfl
  rw [front, behind]
  simp only [submodelTopic, shellBase, shellsBase, String.append_assoc]

/-- The topic that the namer gives to the parts of a topic. -/
def ofParsed (parsed : ParsedTopic) : String :=
  scheme.topic parsed.kind
    ⟨parsed.shell.getD "", parsed.submodel.getD "", some parsed.repository⟩ (parsed.path.getD "")

end TopicScheme

namespace ParsedTopic

theorem decode?_eq_some_iff {segment id : String} :
    decode? segment = some id ↔ segment = Identifier.encode id := by
  rw [← Identifier.decode_eq_ok_iff, decode?]
  cases Identifier.decode segment with
  | error refusal => simp [Except.toOption]
  | ok id' => simp [Except.toOption]

/-! ### Segments -/

/-- What the segments of a topic say. -/
inductive Means : List String → ParsedTopic → Prop
  | shell (repository : String) :
      Means ["aas-repository", repository, "shells", "created"]
        ⟨.shellCreated, repository, none, none, none⟩
  | submodel {suffix : String} {kind : TopicKind} (repository shell : String) :
      kind.submodelSuffix? = some suffix →
      Means ["aas-repository", repository, "shells", Identifier.encode shell, "submodels", suffix]
        ⟨kind, repository, some shell, none, none⟩
  | element {suffix : String} {kind : TopicKind} {path : List String}
      (repository shell submodel : String) :
      path ≠ [] → kind.elementSuffix? = some suffix →
      Means ("aas-repository" :: repository :: "shells" :: Identifier.encode shell :: "submodels"
          :: Identifier.encode submodel :: "submodelElements" :: (path ++ [suffix]))
        ⟨kind, repository, some shell, some submodel, some ("/".intercalate path)⟩

theorem means_of_ofSubmodelSegments {repository shell : String} {segments : List String}
    {parsed : ParsedTopic} (read : ofSubmodelSegments repository shell segments = some parsed) :
    Means ("aas-repository" :: repository :: "shells" :: Identifier.encode shell :: "submodels"
      :: segments) parsed := by
  rw [ofSubmodelSegments.eq_def] at read
  split at read
  · obtain ⟨kind, known, same⟩ := Option.bind_eq_some_iff.mp read
    cases same
    exact .submodel repository shell (TopicKind.ofSubmodelSuffix?_eq_some_iff.mp known)
  · next submodel elements first rest =>
      split at read
      · next fixed =>
          obtain ⟨rfl, more⟩ := fixed
          obtain ⟨submodel', decoded, read⟩ := Option.bind_eq_some_iff.mp read
          obtain ⟨suffix, last, read⟩ := Option.bind_eq_some_iff.mp read
          obtain ⟨kind, known, same⟩ := Option.bind_eq_some_iff.mp read
          cases same
          obtain ⟨path, rfl⟩ := List.getLast?_eq_some_iff.mp last
          rw [decode?_eq_some_iff.mp decoded, List.dropLast_concat]
          exact .element repository shell submodel' (List.cons_ne_nil first path)
            (TopicKind.ofElementSuffix?_eq_some_iff.mp known)
      · cases read
  · cases read

/-- Only segments that say something are accepted. -/
theorem means_of_ofSegments {segments : List String} {parsed : ParsedTopic}
    (read : ofSegments segments = some parsed) : Means segments parsed := by
  rw [ofSegments.eq_def] at read
  split at read
  · next root repository shells rest =>
      split at read
      · next fixed =>
          obtain ⟨rfl, rfl⟩ := fixed
          split at read
          · next created =>
              split at read
              · next same =>
                  cases read
                  rw [same]
                  exact .shell repository
              · cases read
          · next shell submodels rest =>
              split at read
              · next same =>
                  obtain ⟨shell', decoded, read⟩ := Option.bind_eq_some_iff.mp read
                  rw [decode?_eq_some_iff.mp decoded, same]
                  exact means_of_ofSubmodelSegments read
              · cases read
          · cases read
      · cases read
  · cases read

theorem Means.ofSegments_eq {segments : List String} {parsed : ParsedTopic}
    (meaning : Means segments parsed) : ofSegments segments = some parsed := by
  cases meaning with
  | shell repository => simp [ofSegments, TopicScheme.root]
  | submodel repository shell known =>
      have suffix := TopicKind.ofSubmodelSuffix?_eq_some_iff.mpr known
      simp [ofSegments, TopicScheme.root, decode?_encode, ofSubmodelSegments, suffix]
  | @element suffix kind path repository shell submodel present known =>
      have last := TopicKind.ofElementSuffix?_eq_some_iff.mpr known
      cases path with
      | nil => exact absurd rfl present
      | cons first rest =>
          simp [ofSegments, TopicScheme.root, decode?_encode, ofSubmodelSegments, last]

theorem parse_eq_some_iff_means {topic : String} {parsed : ParsedTopic} :
    parse topic = some parsed ↔ Means (Text.split '/' topic) parsed :=
  ⟨means_of_ofSegments, Means.ofSegments_eq⟩

/-! ### Texts -/

/-- The grammar of topics, and what each of them says. -/
inductive Grammar : String → ParsedTopic → Prop
  | shell {repository : String} : '/' ∉ repository.toList →
      Grammar ("aas-repository/" ++ repository ++ "/shells/created")
        ⟨.shellCreated, repository, none, none, none⟩
  | submodel {repository suffix : String} {kind : TopicKind} (shell : String) :
      '/' ∉ repository.toList → kind.submodelSuffix? = some suffix →
      Grammar ("aas-repository/" ++ repository ++ "/shells/" ++ Identifier.encode shell ++
          "/submodels/" ++ suffix)
        ⟨kind, repository, some shell, none, none⟩
  | element {repository suffix : String} {kind : TopicKind} (shell submodel path : String) :
      '/' ∉ repository.toList → kind.elementSuffix? = some suffix →
      Grammar ("aas-repository/" ++ repository ++ "/shells/" ++ Identifier.encode shell ++
          "/submodels/" ++ (Identifier.encode submodel ++ "/submodelElements/" ++ path ++ "/" ++
            suffix))
        ⟨kind, repository, some shell, some submodel, some path⟩

theorem grammar_of_means {segments : List String} {parsed : ParsedTopic}
    (meaning : Means segments parsed) (plain : ∀ piece ∈ segments, '/' ∉ piece.toList) :
    Grammar ("/".intercalate segments) parsed := by
  have root : "aas-repository/" = "aas-repository" ++ "/" := rfl
  have shells : "/shells/" = "/" ++ ("shells" ++ "/") := rfl
  have submodels : "/submodels/" = "/" ++ ("submodels" ++ "/") := rfl
  cases meaning with
  | shell repository =>
      have created : "/shells/created" = "/" ++ ("shells" ++ ("/" ++ "created")) := rfl
      have written : "/".intercalate ["aas-repository", repository, "shells", "created"] =
          "aas-repository/" ++ repository ++ "/shells/created" := by
        rw [root, created]
        simp only [String.intercalate_cons_cons, String.intercalate_singleton, String.append_assoc]
      rw [written]
      exact .shell (plain repository (by simp))
  | @submodel suffix kind repository shell known =>
      have written : "/".intercalate ["aas-repository", repository, "shells",
          Identifier.encode shell, "submodels", suffix] =
            "aas-repository/" ++ repository ++ "/shells/" ++ Identifier.encode shell ++
              "/submodels/" ++ suffix := by
        rw [root, shells, submodels]
        simp only [String.intercalate_cons_cons, String.intercalate_singleton, String.append_assoc]
      rw [written]
      exact .submodel shell (plain repository (by simp)) known
  | @element suffix kind path repository shell submodel present known =>
      obtain ⟨first, rest, rfl⟩ := List.exists_cons_of_ne_nil present
      have elements : "/submodelElements/" = "/" ++ ("submodelElements" ++ "/") := rfl
      have last : "/".intercalate (first :: rest ++ [suffix]) =
          "/".intercalate (first :: rest) ++ "/" ++ suffix := by
        rw [String.intercalate_append_of_ne_nil present (List.cons_ne_nil suffix []),
          String.intercalate_singleton]
      have written : "/".intercalate ("aas-repository" :: repository :: "shells"
          :: Identifier.encode shell :: "submodels" :: Identifier.encode submodel
          :: "submodelElements" :: (first :: rest ++ [suffix])) =
            "aas-repository/" ++ repository ++ "/shells/" ++ Identifier.encode shell ++
              "/submodels/" ++ (Identifier.encode submodel ++ "/submodelElements/" ++
                "/".intercalate (first :: rest) ++ "/" ++ suffix) := by
        rw [List.cons_append] at last
        rw [root, shells, submodels, elements, List.cons_append]
        simp only [String.intercalate_cons_cons, last, String.append_assoc]
      rw [written]
      exact .element shell submodel _ (plain repository (by simp)) known

theorem grammar_of_parse {topic : String} {parsed : ParsedTopic}
    (read : parse topic = some parsed) : Grammar topic parsed := by
  have whole : "/".intercalate (Text.split '/' topic) = topic := Text.intercalate_split topic
  have grammar := grammar_of_means (parse_eq_some_iff_means.mp read)
    fun piece membership => Text.not_mem_of_mem_split membership
  rwa [whole] at grammar

theorem Grammar.parse_eq {topic : String} {parsed : ParsedTopic} (grammar : Grammar topic parsed) :
    parse topic = some parsed := by
  cases grammar with
  | @shell repository plain =>
      have chosen : '/' ∉ (TopicScheme.repositoryOr ⟨repository⟩ none).toList := plain
      have read := parse_shellCreated ⟨repository⟩ chosen
      rwa [TopicScheme.shellCreated_eq] at read
  | @submodel repository suffix kind shell plain known =>
      have chosen : '/' ∉ (TopicScheme.repositoryOr ⟨repository⟩ none).toList := plain
      have read := parse_submodelTopic ⟨repository⟩ shell chosen
        (TopicKind.separator_not_mem_submodelSuffix known)
        (TopicKind.ofSubmodelSuffix?_eq_some_iff.mpr known)
      rwa [TopicScheme.submodelTopic_eq] at read
  | @element repository suffix kind shell submodel path plain known =>
      have chosen : '/' ∉ (TopicScheme.repositoryOr ⟨repository⟩ none).toList := plain
      have read := parse_submodelTopic_element ⟨repository⟩ shell submodel path chosen
        (TopicKind.separator_not_mem_elementSuffix known)
        (TopicKind.ofElementSuffix?_eq_some_iff.mpr known)
      rwa [TopicScheme.submodelTopic_eq] at read

/-- What a topic says fixes it. -/
theorem Grammar.unique {topic topic' : String} {parsed : ParsedTopic}
    (grammar : Grammar topic parsed) (grammar' : Grammar topic' parsed) : topic = topic' := by
  cases grammar with
  | shell plain =>
      cases grammar' with
      | shell plain' => rfl
  | submodel shell plain known =>
      cases grammar' with
      | submodel shell' plain' known' =>
          rw [known] at known'
          rw [Option.some.inj known']
  | element shell submodel path plain known =>
      cases grammar' with
      | element shell' submodel' path' plain' known' =>
          rw [known] at known'
          rw [Option.some.inj known']

/-! ### Naming again what was read -/

/-- The namer is asked for what the topic says, with the path in normal form. -/
theorem Grammar.parts_eq {topic : String} {parsed : ParsedTopic} (grammar : Grammar topic parsed)
    (scheme : TopicScheme) :
    scheme.parts parsed.kind
        ⟨parsed.shell.getD "", parsed.submodel.getD "", some parsed.repository⟩
        (parsed.path.getD "") =
      { parsed with path := parsed.path.map Path.normalize } := by
  cases grammar with
  | shell plain => rfl
  | @submodel repository suffix kind shell plain known => cases kind <;> cases known <;> rfl
  | @element repository suffix kind shell submodel path plain known =>
      cases kind <;> cases known <;> rfl

theorem Grammar.plain {topic : String} {parsed : ParsedTopic} (grammar : Grammar topic parsed) :
    '/' ∉ parsed.repository.toList := by
  cases grammar <;> assumption

theorem parse_ofParsed {topic : String} {parsed : ParsedTopic} (read : parse topic = some parsed)
    (scheme : TopicScheme) :
    parse (scheme.ofParsed parsed) =
      some { parsed with path := parsed.path.map Path.normalize } := by
  have grammar := grammar_of_parse read
  have named := parse_topic_eq_parts scheme parsed.kind
    ⟨parsed.shell.getD "", parsed.submodel.getD "", some parsed.repository⟩ (parsed.path.getD "")
    grammar.plain
  rwa [grammar.parts_eq] at named

/-- The namer gives the topic back just if there is no path to be brought into normal form. -/
theorem ofParsed_eq_iff {topic : String} {parsed : ParsedTopic} (read : parse topic = some parsed)
    (scheme : TopicScheme) :
    scheme.ofParsed parsed = topic ↔
      parsed.path = none ∨ ∃ path, parsed.path = some path ∧ Path.normalize path = path := by
  have again := parse_ofParsed read scheme
  constructor
  · intro same
    rw [same, read] at again
    have paths : parsed.path = parsed.path.map Path.normalize :=
      congrArg ParsedTopic.path (Option.some.inj again)
    cases given : parsed.path with
    | none => exact .inl rfl
    | some path =>
        rw [given] at paths
        exact .inr ⟨path, rfl, (Option.some.inj paths).symm⟩
  · intro normal
    have paths : parsed.path.map Path.normalize = parsed.path := by
      rcases normal with absent | ⟨path, given, same⟩
      · rw [absent]
        rfl
      · rw [given, Option.map_some, same]
    rw [paths] at again
    exact (grammar_of_parse again).unique (grammar_of_parse read)

/-- The parser accepts the topics of the grammar, and no others; no two topics say the same; and the
namer gives back the topic that was read just if its path, as far as it has one, is in normal
form. -/
theorem parse_exact :
    (∀ topic parsed, parse topic = some parsed ↔ Grammar topic parsed) ∧
      (∀ topic topic' parsed, parse topic = some parsed → parse topic' = some parsed →
        topic = topic') ∧
      ∀ topic parsed, parse topic = some parsed → ∀ scheme : TopicScheme,
        (scheme.ofParsed parsed = topic ↔
          parsed.path = none ∨ ∃ path, parsed.path = some path ∧ Path.normalize path = path) :=
  ⟨fun _ _ => ⟨grammar_of_parse, Grammar.parse_eq⟩,
    fun _ _ _ read read' => (grammar_of_parse read).unique (grammar_of_parse read'),
    fun _ _ read scheme => ofParsed_eq_iff read scheme⟩

/-- The path may hold words of the scheme and separators at its ends, which the namer drops. -/
theorem parse_exact_of_separators :
    parse "aas-repository/plant/shells/Uw/submodels/w7w/submodelElements//created//value" =
        some ⟨.elementValue, "plant", some "S", some "ü", some "/created/"⟩ ∧
      TopicScheme.standard.ofParsed
          ⟨.elementValue, "plant", some "S", some "ü", some "/created/"⟩ ≠
        "aas-repository/plant/shells/Uw/submodels/w7w/submodelElements//created//value" ∧
      TopicScheme.standard.ofParsed ⟨.submodelDeleted, "", some "", none, none⟩ =
        "aas-repository//shells//submodels/deleted" ∧
      ∀ topic, parse topic = some ⟨.submodelDeleted, "", some "", none, none⟩ →
        topic = "aas-repository//shells//submodels/deleted" := by
  have element : Grammar
      "aas-repository/plant/shells/Uw/submodels/w7w/submodelElements//created//value"
      ⟨.elementValue, "plant", some "S", some "ü", some "/created/"⟩ := by
    have written : "aas-repository/plant/shells/Uw/submodels/w7w/submodelElements//created//value" =
        "aas-repository/" ++ "plant" ++ "/shells/" ++ Identifier.encode "S" ++ "/submodels/" ++
          (Identifier.encode "ü" ++ "/submodelElements/" ++ "/created/" ++ "/" ++ "value") := by
      decide
    rw [written]
    exact .element "S" "ü" "/created/" (by decide) rfl
  have deleted : Grammar "aas-repository//shells//submodels/deleted"
      ⟨.submodelDeleted, "", some "", none, none⟩ := by
    have written : "aas-repository//shells//submodels/deleted" =
        "aas-repository/" ++ "" ++ "/shells/" ++ Identifier.encode "" ++ "/submodels/" ++
          "deleted" := by
      decide
    rw [written]
    exact .submodel "" (by decide) rfl
  have read := (parse_exact.1 _ _).mpr element
  have readDeleted := (parse_exact.1 _ _).mpr deleted
  refine ⟨read, ?_, ?_, ?_⟩
  · intro same
    rcases (parse_exact.2.2 _ _ read .standard).mp same with absent | ⟨path, given, normal⟩
    · cases absent
    · cases given
      revert normal
      decide
  · exact (parse_exact.2.2 _ _ readDeleted .standard).mpr (.inl rfl)
  · intro topic again
    exact parse_exact.2.1 _ _ _ again readDeleted

end ParsedTopic

end ShellBridge
