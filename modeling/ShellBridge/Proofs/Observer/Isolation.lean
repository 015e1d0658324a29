import ShellBridge.Proofs.Observer.Run
import ShellBridge.Proofs.Topic.Parsing

/-!
An observer keeps to its scope.

Whatever events an observer is told of, each publication that it asks for says, read back from its
topic, that it is about the repository and the shell of the scope, and about the submodel if the
scope names one.  The events of other entities leave no trace: the run in which they are left out
makes the same calls.
-/

namespace ShellBridge

/-- What is published is about the scope: `said` is what its topic says. -/
structure ObserverScope.Confines (scope : ObserverScope) (said : ParsedTopic) (payload : Bytes) :
    Prop where
  repository : said.repository = scope.repository
  shell : said.kind ≠ .shellCreated → said.shell = some scope.shell
  /-- The topic of a shell that is announced does not name it, so the payload does. -/
  announced : said.kind = .shellCreated → payload = utf8 scope.shell
  element : ∀ submodel ∈ scope.submodel, said.kind.isElement = true →
    said.submodel = some submodel
  /-- The topic of a submodel does not name it, so the payload does. -/
  entity : ∀ submodel ∈ scope.submodel, said.kind.isElement = false →
    payload = utf8 (combinedMessage scope.shell submodel)

/-- What is published is about the event: `said` is what its topic says. -/
structure Event.Tells (event : Event) (said : ParsedTopic) (payload : Bytes) : Prop where
  kind : said.kind = .ofEvent event.kind
  path : said.path = event.path?.map Path.normalize
  submodel : said.kind.isElement = true → said.submodel = some event.ids.submodel
  payload : payload = event.payload

namespace ObserverScope

/-- The kind of topic on which the scope is announced. -/
def announcedKind (scope : ObserverScope) : TopicKind :=
  match scope.submodel with
  | none => .shellCreated
  | some _ => .submodelCreated

variable {scope : ObserverScope} (plain : '/' ∉ scope.repository.toList)

include plain

theorem parse_announcementOf :
    ∃ said, ParsedTopic.parse scope.announcementOf.topic = some said ∧
      said.kind = scope.announcedKind ∧ scope.Confines said scope.announcementOf.payload := by
  rcases scope with ⟨repository, shell, submodel⟩
  cases submodel with
  | none =>
      refine ⟨_, ParsedTopic.parse_shellCreated _ plain, rfl, rfl, ?_, ?_, nofun, nofun⟩
      · intro other
        exact absurd rfl other
      · intro _
        rfl
  | some submodel =>
      refine ⟨_, ParsedTopic.parse_submodelTopic _ shell plain (by decide) rfl, rfl, rfl, ?_, nofun,
        ?_, ?_⟩
      · intro _
        rfl
      · intro named _ element
        cases element
      · rintro named ⟨⟩ _
        rfl

/-- The event of an entity in the scope is published for the scope, also where the entity names no
repository. -/
theorem parse_publication {event : Event} (covers : scope.Covers event.ids) :
    ∃ said, ParsedTopic.parse (scope.publication event).topic = some said ∧
      event.Tells said (scope.publication event).payload ∧
      scope.Confines said (scope.publication event).payload := by
  have named : scope.topics.repositoryOr event.ids.repository = scope.repository := by
    cases of : event.ids.repository with
    | none => rfl
    | some repository => exact covers.2.2 repository of
  have read := ParsedTopic.parse_topic_eq_parts scope.topics (.ofEvent event.kind) event.ids
    (event.path?.getD "") (by rw [named]; exact plain)
  refine ⟨_, read, ⟨rfl, ?_, ?_, rfl⟩, named, ?_, ?_, ?_, ?_⟩
  · cases event <;> rfl
  · intro element
    exact if_pos element
  · intro other
    rw [← covers.1]
    exact if_neg other
  · intro shell
    exact absurd shell (TopicKind.ofEvent_ne_shellCreated event.kind)
  · intro submodel named element
    rw [← covers.2.1 submodel named]
    exact if_pos element
  · intro submodel named entity
    rw [← covers.1, ← covers.2.1 submodel named]
    cases event with
    | submodelAdded ids | submodelRemoved ids => rfl
    | elementAdded ids path element | elementRemoved ids path element
    | elementUpdated ids path element | elementValueChanged ids path value => cases entity

end ObserverScope

namespace Observer

namespace Operation

/-- The events that the operation tells the observer of. -/
def events : Operation → List Event
  | .attach _ replay => replay
  | .tell event => [event]
  | .detach | .setWhitelist _ | .addPath _ | .useWhitelist | .disableWhitelist
  | .changeElsewhere _ => []

/-- The operation without the events that lie outside the scope; nothing is left of telling one. -/
def within? (scope : ObserverScope) : Operation → Option Operation
  | .attach model replay => some (.attach model (replay.filter fun event => scope.Covers event.ids))
  | .tell event => if scope.Covers event.ids then some (.tell event) else none
  | operation => some operation

end Operation

/-- The call announces the scope. -/
def Announces (scope : ObserverScope) (operation : Operation) (call : Call) (said : ParsedTopic) :
    Prop :=
  (∃ model replay, operation = .attach model replay) ∧
    call.publication = scope.announcementOf ∧ said.kind = scope.announcedKind

/-- The call publishes an event of the scope that the operation told of. -/
def Republishes (scope : ObserverScope) (operation : Operation) (call : Call)
    (said : ParsedTopic) : Prop :=
  ∃ event ∈ operation.events, scope.Covers event.ids ∧ event.Tells said call.publication.payload

variable {scope : ObserverScope} {filter : Filter}

theorem mem_published_iff {event : Event} {publication : Publication} :
    publication ∈ scope.published filter event ↔
      (scope.Covers event.ids ∧ event.Passes filter) ∧ publication = scope.publication event := by
  unfold ObserverScope.published
  split <;> simp_all

theorem mem_requested {phase : ObserverPhase} {accepted : Bool} {operation : Operation}
    {publication : Publication}
    (asked : publication ∈ requested scope phase filter accepted operation) :
    ((∃ model replay, operation = .attach model replay) ∧ publication = scope.announcementOf) ∨
      ∃ event ∈ operation.events, scope.Covers event.ids ∧
        publication = scope.publication event := by
  cases operation with
  | attach model replay =>
      simp only [requested] at asked
      split at asked
      · rcases List.mem_cons.mp asked with announced | told
        · exact .inl ⟨⟨model, replay, rfl⟩, announced⟩
        · split at told
          · obtain ⟨event, replayed, published⟩ := List.mem_flatMap.mp told
            obtain ⟨⟨covers, _⟩, same⟩ := mem_published_iff.mp published
            exact .inr ⟨event, replayed, covers, same⟩
          · simp at told
      · simp at asked
  | tell event =>
      simp only [requested] at asked
      split at asked
      · obtain ⟨⟨covers, _⟩, same⟩ := mem_published_iff.mp asked
        exact .inr ⟨event, List.mem_singleton_self event, covers, same⟩
      · simp at asked
  | detach | setWhitelist paths | addPath path | useWhitelist | disableWhitelist
  | changeElsewhere change => simp [requested] at asked

end Observer

/-! ### Events of other entities -/

theorem forM_filter {σ α : Type} {f : α → StateM σ Unit} {p : α → Bool} {xs : List α}
    (silent : ∀ x, p x = false → f x = pure ()) : (xs.filter p).forM f = xs.forM f := by
  induction xs with
  | nil => rfl
  | cons x xs inductionHypothesis =>
      have opened (ys : List α) : (x :: ys).forM f = f x >>= fun _ => ys.forM f := rfl
      cases kept : p x with
      | true => rw [List.filter_cons_of_pos kept, opened, opened, inductionHypothesis]
      | false =>
          rw [List.filter_cons_of_neg (by simp [kept]), opened, silent x kept, inductionHypothesis]
          rfl

namespace Ensemble.Holds

variable {ensemble : Ensemble} {number : Nat} {observer : Observer} {filter : Filter} {σ : Type}
  (publish : Nat → Publisher σ)

/-- An observer takes no notice of an event outside its scope. -/
theorem tell_of_not_covers (held : ensemble.Holds number observer filter) {event : Event}
    (outside : ¬ observer.scope.Covers event.ids) :
    ensemble.tell publish event number = pure () := by
  have silent : observer.publication? filter event = none := by
    simp [Observer.publication?, ObserverScope.contains_iff, outside]
  rw [Ensemble.tell, held.observer?_eq, held.filterOf_eq]
  simp only [Observer.onEvent, silent]

theorem replay_filter (held : ensemble.Holds number observer filter) (replay : List Event) :
    ((replay.filter fun event => observer.scope.Covers event.ids).forM fun event =>
        ensemble.tell publish event number) =
      replay.forM fun event => ensemble.tell publish event number := by
  apply forM_filter
  intro event outside
  exact held.tell_of_not_covers publish (of_decide_eq_false outside)

theorem attach_filter (held : ensemble.Holds number observer filter) (model : Nat)
    (replay : List Event) :
    ensemble.attach publish number model
        (replay.filter fun event => observer.scope.Covers event.ids) =
      ensemble.attach publish number model replay := by
  rw [Ensemble.attach, Ensemble.attach, held.observer?_eq]
  rcases observer with ⟨scope, phase⟩
  cases phase with
  | attached | detached => rfl
  | unattached =>
      simp only [Observer.attach, bind_assoc]
      apply bind_congr
      rintro (error | ⟨⟩)
      · rfl
      · simp only [pure_bind]
        have registered : ({ ensemble.setObserver number ⟨scope, .attached⟩ with
            models := ensemble.models.modify model (·.register number) } : Ensemble).Holds number
            ⟨scope, .attached⟩ filter := held.setObserver ⟨scope, .attached⟩
        exact congrArg (fun told : StateM σ Unit => told >>= fun _ => pure _)
          (registered.replay_filter publish replay)

end Ensemble.Holds

namespace Observer

variable {σ : Type} (publish : Nat → Publisher σ) {ensemble : Ensemble} {number : Nat}
  {scope : ObserverScope} {phase : ObserverPhase} {filter : Filter} {before : List Step}

/-- An operation does the same without the events outside the scope. -/
theorem perform_within (held : ensemble.Holds number ⟨scope, phase⟩ filter)
    {operation within : Operation} (kept : operation.within? scope = some within) :
    within.perform publish number ensemble = operation.perform publish number ensemble := by
  cases operation with
  | attach model replay =>
      cases kept
      rw [Operation.perform, held.attach_filter publish model replay]
      rfl
  | tell event =>
      rw [Operation.within?] at kept
      split at kept
      · cases kept
        rfl
      · cases kept
  | detach | setWhitelist paths | addPath path | useWhitelist | disableWhitelist
  | changeElsewhere change =>
      cases kept
      rfl

/-- An operation of which nothing is left does nothing. -/
theorem perform_of_within?_eq_none (held : ensemble.Holds number ⟨scope, phase⟩ filter)
    {operation : Operation} (left : operation.within? scope = none) :
    operation.perform publish number ensemble = pure ensemble := by
  cases operation with
  | tell event =>
      rw [Operation.within?] at left
      split at left
      · cases left
      · next outside =>
          rw [Operation.perform, held.tell_of_not_covers publish outside]
          rfl
  | attach model replay | detach | setWhitelist paths | addPath path | useWhitelist
  | disableWhitelist | changeElsewhere change => cases left

/-- A run does the same without the events outside the scope. -/
theorem performAll_within (held : ensemble.Holds number ⟨scope, phaseAfter before⟩
      (filterAfter filter before)) (operations : List Operation) (state : σ) (log : List Call) :
    performAll (fun n => recording (publish n)) number
        (operations.filterMap (Operation.within? scope)) ensemble (state, log) =
      performAll (fun n => recording (publish n)) number operations ensemble (state, log) := by
  induction operations generalizing before ensemble state log with
  | nil => rfl
  | cons operation rest inductionHypothesis =>
      obtain ⟨next, middle, calls, performs, _, holds⟩ :=
        makes_perform publish held operation state
      rw [← filterAfter_append filter before ⟨operation, calls⟩] at holds
      have opened (first : Operation) (others : List Operation) :
          performAll (fun n => recording (publish n)) number (first :: others) ensemble =
            first.perform (fun n => recording (publish n)) number ensemble >>=
              performAll (fun n => recording (publish n)) number others := rfl
      have goesOn (others : List Operation) :
          (operation.perform (fun n => recording (publish n)) number ensemble >>=
              performAll (fun n => recording (publish n)) number others) (state, log) =
            performAll (fun n => recording (publish n)) number others next
              (middle, log ++ calls) := by
        simp only [bind, StateT.bind, performs log]
      rw [opened operation, goesOn, ← inductionHypothesis holds]
      cases kept : operation.within? scope with
      | none =>
          have passes := goesOn (rest.filterMap (Operation.within? scope))
          rw [perform_of_within?_eq_none _ held kept, pure_bind] at passes
          rw [List.filterMap_cons_none kept, passes]
      | some within =>
          rw [List.filterMap_cons_some kept, opened, perform_within _ held kept, goesOn]

/-- What an operation asks to publish is about the scope, be it the announcement or an event that
the operation told of. -/
theorem exists_said_of_mem_requested (plain : '/' ∉ scope.repository.toList) {accepted : Bool}
    {operation : Operation} {call : Call}
    (asked : call.publication ∈ requested scope phase filter accepted operation) :
    ∃ said, ParsedTopic.parse call.publication.topic = some said ∧
      scope.Confines said call.publication.payload ∧
      (Announces scope operation call said ∨ Republishes scope operation call said) := by
  rcases mem_requested asked with ⟨attaches, announced⟩ | ⟨event, told, covers, published⟩
  · obtain ⟨said, read, kind, confines⟩ := ObserverScope.parse_announcementOf plain
    rw [← announced] at read confines
    exact ⟨said, read, confines, .inl ⟨attaches, announced, kind⟩⟩
  · obtain ⟨said, read, tells, confines⟩ := ObserverScope.parse_publication plain covers
    rw [← published] at read tells confines
    exact ⟨said, read, confines, .inr ⟨event, told, covers, tells⟩⟩

/-- All that an observer publishes in a run is about its scope: the announcement, and the events of
the scope that it was told of.  An event of the scope that is let through is published, and for the
repository of the scope where it names none.  Without the events of other repositories, shells and
submodels the run makes the same calls. -/
theorem performAll_isolated (plain : '/' ∉ scope.repository.toList)
    (held : ensemble.Holds number (.new scope) filter) (operations : List Operation) (state : σ) :
    ∃ steps final after,
      performAll (fun n => recording (publish n)) number operations ensemble (state, []) =
          (final, after, steps.flatMap Step.calls) ∧
        steps.map Step.operation = operations ∧
        (∀ step ∈ steps, ∀ call ∈ step.calls, ∃ said,
          ParsedTopic.parse call.publication.topic = some said ∧
            scope.Confines said call.publication.payload ∧
            (Announces scope step.operation call said ∨
              Republishes scope step.operation call said)) ∧
        (∀ before step rest event, steps = before ++ step :: rest → step.operation = .tell event →
          phaseAfter before = .attached → scope.Covers event.ids →
          event.Passes (filterAfter filter before) → ∃ call, step.calls = [call]) ∧
        performAll (fun n => recording (publish n)) number
            (operations.filterMap (Operation.within? scope)) ensemble (state, []) =
          (final, after, steps.flatMap Step.calls) := by
  have start : ensemble.Holds number ⟨scope, phaseAfter []⟩ (filterAfter filter []) := held
  obtain ⟨steps, final, after, makes, performed, published, _⟩ :=
    makes_performAll publish start operations state
  refine ⟨steps, final, after, makes [], performed, ?_, ?_, ?_⟩
  · intro step membership call made
    obtain ⟨before, rest, split⟩ := List.append_of_mem membership
    have asked : call.publication ∈ step.calls.map Call.publication := List.mem_map_of_mem made
    rw [published before step rest split] at asked
    exact exists_said_of_mem_requested plain asked
  · intro before step rest event split told attached covers passes
    have asked := published before step rest split
    rw [told, requested, List.nil_append, if_pos attached, ObserverScope.published,
      if_pos ⟨covers, passes⟩] at asked
    obtain ⟨call, alone, _⟩ := List.map_eq_singleton_iff.mp asked
    exact ⟨call, alone⟩
  · rw [performAll_within publish start operations state []]
    exact makes []

/-- An observer of a submodel that is told of other shells, submodels and repositories, and of its
own submodel without a repository. -/
theorem performAll_isolated_of_strangers :
    let scope : ObserverScope := ⟨"plant", "shell", some "s"⟩
    let ensemble := (Ensemble.empty.addFilter.addObserver scope 0).addModel
    let own : Event := .elementValueChanged ⟨"shell", "s", none⟩ "/path/" .null
    '/' ∉ scope.repository.toList ∧ ensemble.Holds 0 (.new scope) .disabled ∧
      ∃ (steps : List Step) (final : Ensemble) (after : Bool),
        performAll (fun _ => recording refusingFirst) 0
            [.attach 0 [], .attach 0 [.submodelAdded ⟨"other", "s", none⟩], .tell own,
              .tell (.submodelRemoved ⟨"shell", "other", none⟩),
              .tell (.submodelRemoved ⟨"shell", "s", some "other"⟩)] ensemble (false, []) =
          (final, after, steps.flatMap Step.calls) ∧
        performAll (fun _ => recording refusingFirst) 0
            [.attach 0 [], .attach 0 [], .tell own] ensemble (false, []) =
          (final, after, steps.flatMap Step.calls) ∧
        ∀ step ∈ steps, ∀ call ∈ step.calls, ∃ said,
          ParsedTopic.parse call.publication.topic = some said ∧
            scope.Confines said call.publication.payload := by
  intro scope ensemble own
  have plain : '/' ∉ scope.repository.toList := by decide
  have held : ensemble.Holds 0 (.new scope) .disabled := ⟨0, rfl, rfl⟩
  obtain ⟨steps, final, after, makes, _, confined, _, without⟩ :=
    performAll_isolated (fun _ => refusingFirst) plain held
      [.attach 0 [], .attach 0 [.submodelAdded ⟨"other", "s", none⟩], .tell own,
        .tell (.submodelRemoved ⟨"shell", "other", none⟩),
        .tell (.submodelRemoved ⟨"shell", "s", some "other"⟩)] false
  refine ⟨plain, held, steps, final, after, makes, without, ?_⟩
  intro step membership call made
  obtain ⟨said, read, confines, _⟩ := confined step membership call made
  exact ⟨said, read, confines⟩

end Observer

end ShellBridge
