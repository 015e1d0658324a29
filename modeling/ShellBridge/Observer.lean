import ShellBridge.Filter
import ShellBridge.Payload
import ShellBridge.Publisher
import ShellBridge.Topic

/-!
Observers.

An observer watches a shell, or one submodel of it, and publishes what changes there.

```text
unattached --attach--> attached --detach--> detached
```

It attaches to a model once: the scope is announced first, and only if that was accepted is the
observer attached.  While attached it publishes the events of its scope that pass the filter.
-/

namespace ShellBridge

/-- The part of the model that an observer watches. -/
structure ObserverScope where
  repository : String
  shell : String
  /-- The whole shell if absent. -/
  submodel : Option String
  deriving DecidableEq, Repr

namespace ObserverScope

def topics (scope : ObserverScope) : TopicScheme :=
  ⟨scope.repository⟩

/-- Whether an entity lies in the scope.  One that names no repository is taken to be of this
one. -/
def contains (scope : ObserverScope) (ids : EntityIds) : Bool :=
  ids.shell == scope.shell
    && (match scope.submodel with
      | some submodel => ids.submodel == submodel
      | none => true)
    && (match ids.repository with
      | some repository => repository == scope.repository
      | none => true)

/-- What is published when an observer of the scope attaches. -/
def announcement (scope : ObserverScope) : Publication :=
  match scope.submodel with
  | none =>
      .atLeastOnce (scope.topics.shellCreated (some scope.repository)) (utf8 scope.shell)
  | some submodel =>
      .atLeastOnce (scope.topics.submodelCreated scope.shell (some scope.repository))
        (utf8 (combinedMessage scope.shell submodel))

/-- What is published for an event. -/
def publication (scope : ObserverScope) (event : Event) : Publication :=
  .atLeastOnce (scope.topics.forEvent event.kind event.ids event.path?) event.payload

end ObserverScope

/-- Whether the filter lets an event pass: it holds back events of single elements only. -/
def Filter.admits (filter : Filter) (event : Event) : Bool :=
  !event.kind.isElementScoped || filter.passes (event.path?.getD "")

inductive ObserverPhase where
  | unattached
  | attached
  | detached
  deriving DecidableEq, Repr

def ObserverPhase.label : ObserverPhase → String
  | unattached => "Unattached"
  | attached => "Attached"
  | detached => "Detached"

inductive AttachError where
  | alreadyAttached
  | detached
  | announcement (error : PublishError)
  deriving DecidableEq, Repr

def AttachError.message : AttachError → String
  | alreadyAttached => "observer already attached"
  | detached => "observer detached"
  | announcement error => s!"announcement failed: {error.message}"

structure Observer where
  scope : ObserverScope
  phase : ObserverPhase
  deriving DecidableEq, Repr

namespace Observer

def new (scope : ObserverScope) : Observer :=
  ⟨scope, .unattached⟩

/-- Announces the scope.  On success the observer is attached and may be registered with a
model. -/
def attach {σ : Type} (publish : Publisher σ) (observer : Observer) :
    StateM σ (Except AttachError Observer) :=
  match observer.phase with
  | .attached => return .error .alreadyAttached
  | .detached => return .error .detached
  | .unattached => do
      match ← publish observer.scope.announcement with
      | .ok () => return .ok { observer with phase := .attached }
      | .error error => return .error (.announcement error)

def detach (observer : Observer) : Observer :=
  { observer with phase := .detached }

/-- What the observer publishes for an event, if anything. -/
def publication? (observer : Observer) (filter : Filter) (event : Event) : Option Publication :=
  if observer.phase = .attached ∧ observer.scope.contains event.ids ∧ filter.admits event then
    some (observer.scope.publication event)
  else none

/-- Takes notice of an event.  A publication that fails is dropped. -/
def onEvent {σ : Type} (publish : Publisher σ) (observer : Observer) (filter : Filter)
    (event : Event) : StateM σ Unit :=
  match observer.publication? filter event with
  | some publication => do let _ ← publish publication
  | none => return ()

end Observer

end ShellBridge
