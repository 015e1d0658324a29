import ShellBridge.Ensemble
import ShellBridge.Proofs.Publisher.Calls

/-!
What an observer publishes in a run.

A run is any sequence of operations on one observer of an ensemble, with any transport behind it.
The calls that it makes fall into those of its operations, one after the other, and which calls an
operation makes is told by the steps before it: they decide the phase of the observer and the filter
of that moment.
-/

namespace ShellBridge

namespace Observer

/-- What can be done with an observer. -/
inductive Operation where
  /-- Attaches to a model, which tells the observer of events while it registers. -/
  | attach (model : Nat) (replay : List Event)
  | detach
  /-- Tells the observer of an event. -/
  | tell (event : Event)
  | setWhitelist (paths : List String)
  | addPath (path : String)
  | useWhitelist
  | disableWhitelist
  /-- Another holder of the filter changes it. -/
  | changeElsewhere (change : Filter → Filter)

namespace Operation

/-- Does the operation on the observer of the given number. -/
def perform {σ : Type} (publish : Nat → Publisher σ) (number : Nat) (ensemble : Ensemble) :
    Operation → StateM σ Ensemble
  | .attach model replay => do return (← ensemble.attach publish number model replay).1
  | .detach => return ensemble.detach number
  | .tell event => do
      ensemble.tell publish event number
      return ensemble
  | .setWhitelist paths => return ensemble.setWhitelist number paths
  | .addPath path => return ensemble.changeFilter number (·.addPath path)
  | .useWhitelist => return ensemble.changeFilter number Filter.enable
  | .disableWhitelist => return ensemble.changeFilter number Filter.disable
  | .changeElsewhere change => return ensemble.changeFilter number change

/-- What the operation does to the filter of the observer. -/
def onFilter (filter : Filter) : Operation → Filter
  | .setWhitelist paths => (filter.setWhitelist paths).enable
  | .addPath path => filter.addPath path
  | .useWhitelist => filter.enable
  | .disableWhitelist => filter.disable
  | .changeElsewhere change => change filter
  | .attach _ _ | .detach | .tell _ => filter

def isDetach : Operation → Bool
  | .detach => true
  | _ => false

end Operation

/-- An operation with the calls that it made. -/
structure Step where
  operation : Operation
  calls : List Call

/-- Whether the step attached the observer: it announced the scope, and that was accepted. -/
def Step.attached (step : Step) : Bool :=
  match step.operation, step.calls with
  | .attach _ _, ⟨_, .ok ()⟩ :: _ => true
  | _, _ => false

/-- Does one operation after the other. -/
def performAll {σ : Type} (publish : Nat → Publisher σ) (number : Nat) :
    List Operation → Ensemble → StateM σ Ensemble
  | [], ensemble => return ensemble
  | operation :: rest, ensemble => do
      performAll publish number rest (← operation.perform publish number ensemble)

/-- The phase that the steps so far have led to: detached once there was a detachment, and else
attached once an announcement was accepted. -/
def phaseAfter (steps : List Step) : ObserverPhase :=
  if steps.any (·.operation.isDetach) then .detached
  else if steps.any Step.attached then .attached
  else .unattached

/-- The filter that the steps so far have led to. -/
def filterAfter (filter : Filter) (steps : List Step) : Filter :=
  steps.foldl (fun filter step => step.operation.onFilter filter) filter

end Observer

/-- An entity lies in a scope: it is of the shell, of the submodel if the scope names one, and of
the repository if the entity names one. -/
def ObserverScope.Covers (scope : ObserverScope) (ids : EntityIds) : Prop :=
  ids.shell = scope.shell ∧ (∀ submodel ∈ scope.submodel, ids.submodel = submodel) ∧
    ∀ repository ∈ ids.repository, repository = scope.repository

instance (scope : ObserverScope) (ids : EntityIds) : Decidable (scope.Covers ids) :=
  inferInstanceAs (Decidable (_ ∧ _ ∧ _))

/-- Events of submodels pass every filter, events of elements one that lets their path pass. -/
def Event.Passes (filter : Filter) : Event → Prop
  | submodelAdded _ | submodelRemoved _ => True
  | elementAdded _ path _ | elementRemoved _ path _ | elementUpdated _ path _
  | elementValueChanged _ path _ => filter.passes path = true

instance (filter : Filter) : (event : Event) → Decidable (event.Passes filter)
  | .submodelAdded _ | .submodelRemoved _ => isTrue trivial
  | .elementAdded _ path _ | .elementRemoved _ path _ | .elementUpdated _ path _
  | .elementValueChanged _ path _ => inferInstanceAs (Decidable (filter.passes path = true))

namespace ObserverScope

/-- A shell is announced by its identifier, a submodel like the event of its addition. -/
def announcementOf (scope : ObserverScope) : Publication :=
  match scope.submodel with
  | none =>
      .atLeastOnce (scope.topics.shellCreated (some scope.repository)) (utf8 scope.shell)
  | some submodel =>
      scope.publication (.submodelAdded ⟨scope.shell, submodel, some scope.repository⟩)

/-- The publications for an event that is taken notice of: one, or none. -/
def published (scope : ObserverScope) (filter : Filter) (event : Event) : List Publication :=
  if scope.Covers event.ids ∧ event.Passes filter then [scope.publication event] else []

end ObserverScope

namespace Observer

/-- The publications that an operation asks for in a phase, under a filter; what follows an
announcement depends on whether it was accepted. -/
def requested (scope : ObserverScope) (phase : ObserverPhase) (filter : Filter) (accepted : Bool) :
    Operation → List Publication
  | .attach _ replay =>
      if phase = .unattached then
        scope.announcementOf :: if accepted then replay.flatMap (scope.published filter) else []
      else []
  | .tell event => if phase = .attached then scope.published filter event else []
  | _ => []

end Observer

theorem ObserverScope.contains_iff (scope : ObserverScope) (ids : EntityIds) :
    scope.contains ids = true ↔ scope.Covers ids := by
  rcases scope with ⟨repository, shell, submodel⟩
  rcases ids with ⟨shell', submodel', repository'⟩
  cases submodel <;> cases repository' <;> simp [contains, Covers, and_assoc]

theorem Filter.admits_iff (filter : Filter) (event : Event) :
    filter.admits event = true ↔ event.Passes filter := by
  cases event <;>
    simp [admits, Event.kind, EventKind.isElementScoped, Event.path?, Event.Passes]

theorem ObserverScope.announcement_eq (scope : ObserverScope) :
    scope.announcement = scope.announcementOf := by
  rcases scope with ⟨repository, shell, submodel⟩
  cases submodel <;> rfl

namespace Observer

variable {σ : Type}

/-- The publications for an event, in the terms of the scope and the filter. -/
theorem toList_publication? (observer : Observer) (filter : Filter) (event : Event) :
    (observer.publication? filter event).toList =
      if observer.phase = .attached then observer.scope.published filter event else [] := by
  simp only [publication?, ObserverScope.published, ObserverScope.contains_iff, Filter.admits_iff]
  by_cases attached : observer.phase = .attached
  · by_cases taken : observer.scope.Covers event.ids ∧ event.Passes filter <;>
      simp [attached, taken]
  · simp [attached]

theorem makes_onEvent (publish : Publisher σ) (observer : Observer) (filter : Filter)
    (event : Event) (state : σ) :
    ∃ after calls,
      Makes (onEvent (recording publish) observer filter event) state () after calls ∧
        calls.map Call.publication =
          if observer.phase = .attached then observer.scope.published filter event else [] := by
  rw [← toList_publication?]
  unfold onEvent
  cases observer.publication? filter event with
  | none => exact ⟨state, [], Makes.nothing () state, rfl⟩
  | some publication =>
      exact ⟨_, _, (Makes.publication publish publication state).andThen (Makes.nothing () _), rfl⟩

/-- An observer that is unattached announces its scope, and the answer decides. -/
theorem makes_attach (publish : Publisher σ) (scope : ObserverScope) (state : σ) :
    (∃ after, Makes (attach (recording publish) ⟨scope, .unattached⟩) state
      (.ok ⟨scope, .attached⟩) after [⟨scope.announcementOf, .ok ()⟩]) ∨
    ∃ error after, Makes (attach (recording publish) ⟨scope, .unattached⟩) state
      (.error (.announcement error)) after [⟨scope.announcementOf, .error error⟩] := by
  rw [← ObserverScope.announcement_eq]
  have announced := Makes.publication publish scope.announcement state
  cases answer : (publish scope.announcement state).1 with
  | ok accepted =>
      rw [answer] at announced
      exact .inl ⟨_, announced.andThen (Makes.nothing _ _)⟩
  | error error =>
      rw [answer] at announced
      exact .inr ⟨error, _, announced.andThen (Makes.nothing _ _)⟩

end Observer

namespace Ensemble

/-- The ensemble has the observer under the number, and its filter. -/
def Holds (ensemble : Ensemble) (number : Nat) (observer : Observer) (filter : Filter) : Prop :=
  ∃ slot, ensemble.observers[number]? = some (observer, slot) ∧
    ensemble.filters[slot]? = some filter

namespace Holds

variable {ensemble : Ensemble} {number : Nat} {observer : Observer} {filter : Filter}

theorem observer?_eq (held : ensemble.Holds number observer filter) :
    ensemble.observer? number = some observer := by
  rcases held with ⟨slot, found, _⟩
  simp [Ensemble.observer?, found]

theorem filterOf_eq (held : ensemble.Holds number observer filter) :
    ensemble.filterOf number = filter := by
  rcases held with ⟨slot, found, kept⟩
  simp [Ensemble.filterOf, found, Ensemble.filter, kept]

theorem setObserver (held : ensemble.Holds number observer filter) (next : Observer) :
    (ensemble.setObserver number next).Holds number next filter := by
  rcases held with ⟨slot, found, kept⟩
  refine ⟨slot, ?_, kept⟩
  simp [Ensemble.setObserver, found]

theorem changeFilter (held : ensemble.Holds number observer filter) (change : Filter → Filter) :
    (ensemble.changeFilter number change).Holds number observer (change filter) := by
  rcases held with ⟨slot, found, kept⟩
  refine ⟨slot, ?_, ?_⟩
  · simp [Ensemble.changeFilter, found]
  · simp [Ensemble.changeFilter, found, kept]

theorem detach (held : ensemble.Holds number observer filter) :
    (ensemble.detach number).Holds number ⟨observer.scope, .detached⟩ filter := by
  rw [Ensemble.detach, held.observer?_eq]
  exact held.setObserver observer.detach

variable {σ : Type} (publish : Nat → Publisher σ)

theorem makes_tell (held : ensemble.Holds number observer filter) (event : Event) (state : σ) :
    ∃ after calls,
      Makes (ensemble.tell (fun n => recording (publish n)) event number) state () after calls ∧
        calls.map Call.publication =
          if observer.phase = .attached then observer.scope.published filter event else [] := by
  rw [Ensemble.tell, held.observer?_eq, held.filterOf_eq]
  exact observer.makes_onEvent (publish number) filter event state

/-- The events that a model tells of while an attached observer registers. -/
theorem makes_replay {scope : ObserverScope}
    (held : ensemble.Holds number ⟨scope, .attached⟩ filter) (replay : List Event) (state : σ) :
    ∃ after calls,
      Makes (replay.forM fun event => ensemble.tell (fun n => recording (publish n)) event number)
          state () after calls ∧
        calls.map Call.publication = replay.flatMap (scope.published filter) := by
  induction replay generalizing state with
  | nil => exact ⟨state, [], Makes.nothing () state, rfl⟩
  | cons event rest inductionHypothesis =>
      obtain ⟨middle, calls, told, published⟩ := held.makes_tell publish event state
      obtain ⟨after, more, replayed, others⟩ := inductionHypothesis middle
      refine ⟨after, calls ++ more, told.andThen replayed, ?_⟩
      rw [List.map_append, published, others, List.flatMap_cons, if_pos rfl]

end Holds

end Ensemble

namespace Observer

theorem phaseAfter_append (before : List Step) (step : Step) :
    phaseAfter (before ++ [step]) =
      if step.operation.isDetach then .detached
      else if step.attached ∧ phaseAfter before = .unattached then .attached
      else phaseAfter before := by
  unfold phaseAfter
  cases detaches : step.operation.isDetach <;> cases attaches : step.attached <;>
    by_cases detached : before.any (·.operation.isDetach) <;>
    by_cases attached : before.any Step.attached <;>
    simp [detaches, attaches, detached, attached]

/-- A step that neither detaches nor attaches leaves the phase. -/
theorem phaseAfter_append_of_neither {before : List Step} {step : Step}
    (stays : step.operation.isDetach = false) (unchanged : step.attached = false) :
    phaseAfter (before ++ [step]) = phaseAfter before := by
  simp [phaseAfter_append, stays, unchanged]

theorem filterAfter_append (filter : Filter) (before : List Step) (step : Step) :
    filterAfter filter (before ++ [step]) = step.operation.onFilter (filterAfter filter before) := by
  simp [filterAfter]

variable {σ : Type} (publish : Nat → Publisher σ) {ensemble : Ensemble} {number : Nat}
  {scope : ObserverScope} {filter : Filter} {before : List Step}

/-- An observer that is unattached: the announcement, and when it is accepted the events that are
told meanwhile. -/
theorem makes_perform_attach (held : ensemble.Holds number ⟨scope, .unattached⟩ filter)
    (model : Nat) (replay : List Event) (state : σ) :
    ∃ next after answer calls,
      Makes ((Operation.attach model replay).perform (fun n => recording (publish n)) number
          ensemble) state next after (⟨scope.announcementOf, answer⟩ :: calls) ∧
        calls.map Call.publication =
          (if answer.isOk then replay.flatMap (scope.published filter) else []) ∧
        next.Holds number ⟨scope, if answer.isOk then .attached else .unattached⟩ filter := by
  rcases makes_attach (publish number) scope state with
    ⟨middle, announces⟩ | ⟨error, after, announces⟩
  · let next : Ensemble := { ensemble.setObserver number ⟨scope, .attached⟩ with
      models := ensemble.models.modify model (·.register number) }
    have registered : next.Holds number ⟨scope, .attached⟩ filter :=
      held.setObserver ⟨scope, .attached⟩
    obtain ⟨after, calls, replays, published⟩ := registered.makes_replay publish replay middle
    have attaches : Makes (ensemble.attach (fun n => recording (publish n)) number model replay)
        state (next, .ok ()) after ([⟨scope.announcementOf, .ok ()⟩] ++ calls) := by
      rw [Ensemble.attach, held.observer?_eq]
      apply Makes.andThen announces
      exact replays.returning fun _ => (next, (Except.ok () : Except AttachError Unit))
    exact ⟨next, after, .ok (), calls, attaches.returning Prod.fst, published, registered⟩
  · have attaches : Makes (ensemble.attach (fun n => recording (publish n)) number model replay)
        state (ensemble, .error (.announcement error)) after
        ([⟨scope.announcementOf, .error error⟩] ++ []) := by
      rw [Ensemble.attach, held.observer?_eq]
      apply Makes.andThen announces
      exact Makes.nothing (ensemble, _) after
    exact ⟨ensemble, after, .error error, [], attaches.returning Prod.fst, rfl, held⟩

/-- Attaching again, or after a detachment, makes no call. -/
theorem makes_perform_attach_of_ne {phase : ObserverPhase}
    (held : ensemble.Holds number ⟨scope, phase⟩ filter) (begun : phase ≠ .unattached)
    (model : Nat) (replay : List Event) (state : σ) :
    Makes ((Operation.attach model replay).perform (fun n => recording (publish n)) number
      ensemble) state ensemble state [] := by
  rw [Operation.perform, Ensemble.attach, held.observer?_eq]
  cases phase with
  | unattached => exact absurd rfl begun
  | attached | detached =>
      exact ((Makes.nothing _ state).andThen (Makes.nothing (ensemble, _) state)).returning Prod.fst

/-- An operation on the filter alone. -/
theorem makes_perform_change (held : ensemble.Holds number ⟨scope, phaseAfter before⟩ filter)
    (operation : Operation) (state : σ)
    (performs : operation.perform (fun n => recording (publish n)) number ensemble =
      pure (ensemble.changeFilter number fun filter => operation.onFilter filter))
    (silent : requested scope (phaseAfter before) filter (Step.attached ⟨operation, []⟩)
      operation = [])
    (stays : operation.isDetach = false) (unchanged : Step.attached ⟨operation, []⟩ = false) :
    ∃ next after calls,
      Makes (operation.perform (fun n => recording (publish n)) number ensemble) state next after
          calls ∧
        calls.map Call.publication =
          requested scope (phaseAfter before) filter (Step.attached ⟨operation, calls⟩)
            operation ∧
        next.Holds number ⟨scope, phaseAfter (before ++ [⟨operation, calls⟩])⟩
          (operation.onFilter filter) := by
  rw [performs]
  refine ⟨_, state, [], Makes.nothing _ _, silent.symm, ?_⟩
  rw [phaseAfter_append_of_neither stays unchanged]
  exact held.changeFilter fun filter => operation.onFilter filter

/-- What one operation makes, and what it leaves behind. -/
theorem makes_perform (held : ensemble.Holds number ⟨scope, phaseAfter before⟩ filter)
    (operation : Operation) (state : σ) :
    ∃ next after calls,
      Makes (operation.perform (fun n => recording (publish n)) number ensemble) state next after
          calls ∧
        calls.map Call.publication =
          requested scope (phaseAfter before) filter (Step.attached ⟨operation, calls⟩)
            operation ∧
        next.Holds number ⟨scope, phaseAfter (before ++ [⟨operation, calls⟩])⟩
          (operation.onFilter filter) := by
  cases operation with
  | attach model replay =>
      by_cases begins : phaseAfter before = .unattached
      · rw [begins] at held
        obtain ⟨next, after, answer, calls, attaches, published, holds⟩ :=
          makes_perform_attach publish held model replay state
        refine ⟨next, after, ⟨scope.announcementOf, answer⟩ :: calls, attaches, ?_, ?_⟩
        · cases answer <;> simp [requested, begins, published, Step.attached, Except.isOk,
            Except.toBool]
        · cases answer <;> simpa [phaseAfter_append, begins, Operation.isDetach, Step.attached,
            Except.isOk, Except.toBool, Operation.onFilter] using holds
      · refine ⟨ensemble, state, [],
          makes_perform_attach_of_ne publish held begins model replay state, ?_, ?_⟩
        · simp [requested, begins]
        · rw [phaseAfter_append_of_neither rfl rfl]
          exact held
  | detach =>
      refine ⟨_, _, _, Makes.nothing _ _, rfl, ?_⟩
      have detached : phaseAfter (before ++ [⟨.detach, []⟩]) = .detached := by
        simp [phaseAfter_append, Operation.isDetach]
      rw [detached]
      exact held.detach
  | tell event =>
      obtain ⟨after, calls, told, published⟩ := held.makes_tell publish event state
      refine ⟨ensemble, after, calls, told.returning fun _ => ensemble, published, ?_⟩
      rw [phaseAfter_append_of_neither rfl rfl]
      exact held
  | setWhitelist paths => exact makes_perform_change publish held _ state rfl rfl rfl rfl
  | addPath path => exact makes_perform_change publish held _ state rfl rfl rfl rfl
  | useWhitelist => exact makes_perform_change publish held _ state rfl rfl rfl rfl
  | disableWhitelist => exact makes_perform_change publish held _ state rfl rfl rfl rfl
  | changeElsewhere change => exact makes_perform_change publish held _ state rfl rfl rfl rfl

/-- All that a run makes, from any point on. -/
theorem makes_performAll (held : ensemble.Holds number ⟨scope, phaseAfter before⟩
      (filterAfter filter before)) (operations : List Operation) (state : σ) :
    ∃ steps final after,
      Makes (performAll (fun n => recording (publish n)) number operations ensemble) state final
          after (steps.flatMap Step.calls) ∧
        steps.map Step.operation = operations ∧
        (∀ earlier step later, steps = earlier ++ step :: later →
          step.calls.map Call.publication =
            requested scope (phaseAfter (before ++ earlier)) (filterAfter filter (before ++ earlier))
              step.attached step.operation) ∧
        final.Holds number ⟨scope, phaseAfter (before ++ steps)⟩
          (filterAfter filter (before ++ steps)) := by
  induction operations generalizing before ensemble state with
  | nil =>
      refine ⟨[], ensemble, state, Makes.nothing ensemble state, rfl, ?_, ?_⟩
      · intro earlier step later split
        simp at split
      · rw [List.append_nil]
        exact held
  | cons operation rest inductionHypothesis =>
      obtain ⟨next, middle, calls, performs, published, holds⟩ :=
        makes_perform publish held operation state
      rw [← filterAfter_append filter before ⟨operation, calls⟩] at holds
      obtain ⟨steps, final, after, continues, performed, others, stays⟩ :=
        inductionHypothesis holds middle
      refine ⟨⟨operation, calls⟩ :: steps, final, after, performs.andThen continues, ?_, ?_, ?_⟩
      · rw [List.map_cons, performed]
      · intro earlier step later split
        cases earlier with
        | nil =>
            obtain ⟨rfl, rfl⟩ := List.cons.inj split
            rw [List.append_nil]
            exact published
        | cons first earlier =>
            obtain ⟨rfl, remaining⟩ := List.cons.inj split
            rw [List.append_cons]
            exact others earlier step later remaining
      · rw [List.append_cons]
        exact stays

theorem atLeastOnce_of_mem_published {event : Event} {publication : Publication}
    (membership : publication ∈ scope.published filter event) :
    publication.qos = .atLeastOnce ∧ publication.retain = false := by
  unfold ObserverScope.published at membership
  split at membership
  · rw [List.mem_singleton.mp membership]
    exact ⟨rfl, rfl⟩
  · simp at membership

theorem atLeastOnce_of_mem_requested {phase : ObserverPhase} {accepted : Bool}
    {operation : Operation} {publication : Publication}
    (membership : publication ∈ requested scope phase filter accepted operation) :
    publication.qos = .atLeastOnce ∧ publication.retain = false := by
  cases operation with
  | attach model replay =>
      simp only [requested] at membership
      split at membership
      · rcases List.mem_cons.mp membership with announced | told
        · rw [announced, ← ObserverScope.announcement_eq, ObserverScope.announcement]
          cases scope.submodel <;> exact ⟨rfl, rfl⟩
        · split at told
          · obtain ⟨event, _, published⟩ := List.mem_flatMap.mp told
            exact atLeastOnce_of_mem_published published
          · simp at told
      · simp at membership
  | tell event =>
      simp only [requested] at membership
      split at membership
      · exact atLeastOnce_of_mem_published membership
      · simp at membership
  | detach | setWhitelist paths | addPath path | useWhitelist | disableWhitelist
  | changeElsewhere change => simp [requested] at membership

/-- A transport that refuses the first publication and accepts all others. -/
def refusingFirst : Publisher Bool := fun _ accepts =>
  (if accepts then .ok () else .error .notConnected, true)

end Observer

end ShellBridge
