import ShellBridge.Event
import ShellBridge.Identifier
import ShellBridge.Path

/-!
Topics of events.

```text
aas-repository/REPOSITORY/shells/created
aas-repository/REPOSITORY/shells/SHELL/submodels/created      (or deleted)
aas-repository/REPOSITORY/shells/SHELL/submodels/SUBMODEL/submodelElements/PATH/created
                                                  (or updated, deleted, value)
```

The repository and the path stand as they are, shell and submodel are encoded.
-/

namespace ShellBridge

inductive TopicKind where
  | shellCreated
  | submodelCreated
  | submodelDeleted
  | elementCreated
  | elementUpdated
  | elementDeleted
  | elementValue
  deriving DecidableEq, Repr

namespace TopicKind

def all : List TopicKind :=
  [shellCreated, submodelCreated, submodelDeleted, elementCreated, elementUpdated, elementDeleted,
    elementValue]

def name : TopicKind → String
  | shellCreated => "ShellCreated"
  | submodelCreated => "SubmodelCreated"
  | submodelDeleted => "SubmodelDeleted"
  | elementCreated => "ElementCreated"
  | elementUpdated => "ElementUpdated"
  | elementDeleted => "ElementDeleted"
  | elementValue => "ElementValue"

def names : Json.Names TopicKind := ⟨all, name⟩

def toJson (kind : TopicKind) : Json :=
  .string kind.name

def ofEvent : EventKind → TopicKind
  | .submodelAdded => submodelCreated
  | .submodelRemoved => submodelDeleted
  | .elementAdded => elementCreated
  | .elementRemoved => elementDeleted
  | .elementUpdated => elementUpdated
  | .elementValueChanged => elementValue

/-- The kind of an element topic with the given last segment. -/
def ofElementSuffix? (suffix : String) : Option TopicKind :=
  if suffix = "created" then some elementCreated
  else if suffix = "updated" then some elementUpdated
  else if suffix = "deleted" then some elementDeleted
  else if suffix = "value" then some elementValue
  else none

/-- The kind of a submodel topic with the given last segment. -/
def ofSubmodelSuffix? (suffix : String) : Option TopicKind :=
  if suffix = "created" then some submodelCreated
  else if suffix = "deleted" then some submodelDeleted
  else none

end TopicKind

/-- What a topic says: the parts that its kind has. -/
structure ParsedTopic where
  kind : TopicKind
  repository : String
  shell : Option String
  submodel : Option String
  path : Option String
  deriving DecidableEq, Repr

/-- How topics are named: where an event names no repository, the default one stands. -/
structure TopicScheme where
  defaultRepository : String
  deriving DecidableEq

namespace TopicScheme

def root : String := "aas-repository"

/-- The repository of shells for which none is configured. -/
def standardRepository : String := "aas-repo"

def standard : TopicScheme := ⟨standardRepository⟩

def repositoryOr (scheme : TopicScheme) (repository : Option String) : String :=
  repository.getD scheme.defaultRepository

/-- The topics below `aas-repository/REPOSITORY/shells`. -/
def shellsBase (scheme : TopicScheme) (repository : Option String) : String :=
  root ++ "/" ++ scheme.repositoryOr repository ++ "/shells"

def shellBase (scheme : TopicScheme) (shell : String) (repository : Option String) : String :=
  scheme.shellsBase repository ++ "/" ++ Identifier.encode shell

def shellCreated (scheme : TopicScheme) (repository : Option String) : String :=
  scheme.shellsBase repository ++ "/created"

def submodelTopic (scheme : TopicScheme) (shell : String) (repository : Option String)
    (suffix : String) : String :=
  scheme.shellBase shell repository ++ "/submodels/" ++ suffix

def submodelCreated (scheme : TopicScheme) (shell : String) (repository : Option String) : String :=
  scheme.submodelTopic shell repository "created"

def submodelDeleted (scheme : TopicScheme) (shell : String) (repository : Option String) : String :=
  scheme.submodelTopic shell repository "deleted"

def elementTopic (scheme : TopicScheme) (ids : EntityIds) (path suffix : String) : String :=
  scheme.submodelTopic ids.shell ids.repository
    (Identifier.encode ids.submodel ++ "/submodelElements/" ++ Path.normalize path ++ "/" ++ suffix)

def topic (scheme : TopicScheme) (kind : TopicKind) (ids : EntityIds) (path : String) : String :=
  match kind with
  | .shellCreated => scheme.shellCreated ids.repository
  | .submodelCreated => scheme.submodelCreated ids.shell ids.repository
  | .submodelDeleted => scheme.submodelDeleted ids.shell ids.repository
  | .elementCreated => scheme.elementTopic ids path "created"
  | .elementUpdated => scheme.elementTopic ids path "updated"
  | .elementDeleted => scheme.elementTopic ids path "deleted"
  | .elementValue => scheme.elementTopic ids path "value"

def forEvent (scheme : TopicScheme) (kind : EventKind) (ids : EntityIds) (path : Option String) :
    String :=
  scheme.topic (.ofEvent kind) ids (path.getD "")

/-- The pattern of all topics of a shell. -/
def shellWildcard (scheme : TopicScheme) (shell : String) (repository : Option String) : String :=
  scheme.shellBase shell repository ++ "/#"

/-- The pattern of all topics of a repository. -/
def repositoryWildcard (scheme : TopicScheme) (repository : Option String) : String :=
  root ++ "/" ++ scheme.repositoryOr repository ++ "/#"

def toJson (scheme : TopicScheme) : Json :=
  .object [("default_repo", .string scheme.defaultRepository)]

inductive Field where
  | defaultRepository
  deriving DecidableEq

def record : Json.Record Field TopicScheme where
  title := "struct TopicScheme"
  fields := [.defaultRepository]
  key _ := "default_repo"
  Ty _ := String
  format _ := .text
  absent _ := none
  build get := do .ok ⟨← get .defaultRepository⟩

def format : Json.Format TopicScheme := record.toFormat

end TopicScheme

namespace ParsedTopic

def decode? (segment : String) : Option String :=
  (Identifier.decode segment).toOption

/-- The topic of a shell's submodels, from the segment behind `submodels` on. -/
def ofSubmodelSegments (repository shell : String) : List String → Option ParsedTopic
  | [suffix] => do
      let kind ← TopicKind.ofSubmodelSuffix? suffix
      some ⟨kind, repository, some shell, none, none⟩
  | submodel :: elements :: first :: rest =>
      if elements = "submodelElements" ∧ rest ≠ [] then do
        let submodel ← decode? submodel
        let suffix ← rest.getLast?
        let kind ← TopicKind.ofElementSuffix? suffix
        some ⟨kind, repository, some shell, some submodel,
          some ("/".intercalate (first :: rest.dropLast))⟩
      else none
  | _ => none

/-- What a topic says, if it follows the scheme. -/
def ofSegments : List String → Option ParsedTopic
  | root :: repository :: shells :: rest =>
      if root = TopicScheme.root ∧ shells = "shells" then
        match rest with
        | [created] =>
            if created = "created" then some ⟨.shellCreated, repository, none, none, none⟩
            else none
        | shell :: submodels :: rest =>
            if submodels = "submodels" then do
              let shell ← decode? shell
              ofSubmodelSegments repository shell rest
            else none
        | [] => none
      else none
  | _ => none

def parse (topic : String) : Option ParsedTopic :=
  ofSegments (Text.split '/' topic)

end ParsedTopic

end ShellBridge
