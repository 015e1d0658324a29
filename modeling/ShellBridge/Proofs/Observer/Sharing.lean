import ShellBridge.Proofs.Observer.Run

/-!
An observer that several callers use at once.

A call to attach takes two steps: it announces the scope and changes the phase, all in one, and
later it registers the observer with the model.  A call to take notice of an event takes up to
three: it asks for the phase, then for scope and filter, and then it publishes.  A call to detach
takes one.  The steps of different calls come in any order, and the publisher answers as it likes.
-/

namespace ShellBridge

namespace SharedObserver

/-- Where a call stands. -/
inductive Stage where
  /-- To attach: announced, and to be registered with the model. -/
  | registering (model : Nat)
  /-- To attach: returned with success. -/
  | registered (model : Nat)
  /-- To attach: returned with an error. -/
  | refused (error : AttachError)
  /-- To take notice of an event: the observer is attached, scope and filter are to be asked. -/
  | noticed (event : Event)
  /-- To take notice of an event: let through, and to be published. -/
  | passed (publication : Publication)
  /-- To take notice of an event: returned. -/
  | done
  deriving DecidableEq

def Stage.hasReturned : Stage → Bool
  | registered _ | refused _ | done => true
  | registering _ | noticed _ | passed _ => false

/-- Whether the call is one to attach whose announcement was accepted. -/
def Stage.isAnnounced : Stage → Bool
  | registering _ | registered _ => true
  | refused _ | noticed _ | passed _ | done => false

/-- Whether only an accepted announcement leads a call there. -/
def Stage.followsAcceptance : Stage → Bool
  | registering _ | registered _ | noticed _ | passed _ => true
  | refused _ | done => false

theorem Stage.followsAcceptance_of_isAnnounced (stage : Stage)
    (announced : stage.isAnnounced = true) : stage.followsAcceptance = true := by
  cases stage with
  | registering model | registered model => rfl
  | refused error | noticed event | passed publication | done => cases announced

/-- Steps of the calls to an observer, and of the holders of its filter. -/
inductive Action where
  /-- A call to attach begins.  Its announcement gets the answer. -/
  | attach (model : Nat) (answer : Except PublishError Unit)
  /-- A call to take notice of an event begins. -/
  | tell (event : Event)
  /-- The call at the place goes on, if it has not returned.  What it publishes gets the answer. -/
  | resume (place : Nat) (answer : Except PublishError Unit)
  | detach
  | changeFilter (change : Filter → Filter)

/-- What is handed to the publisher, with the answer. -/
inductive Handed where
  | announcement (call : Call)
  /-- By the call at the place, for the event that it took notice of. -/
  | event (place : Nat) (call : Call)

namespace Handed

def call : Handed → Call
  | announcement call | event _ call => call

/-- Whether it is an announcement that was accepted. -/
def isAcceptance : Handed → Bool
  | announcement ⟨_, .ok ()⟩ => true
  | announcement ⟨_, .error _⟩ | event _ _ => false

end Handed

end SharedObserver

open SharedObserver in
/-- An observer with all calls to it. -/
structure SharedObserver where
  observer : Observer
  filter : Filter
  models : List Registry
  /-- The number under which the observer is registered. -/
  number : Nat
  /-- The calls that were begun, in this order.  A call is named by its place. -/
  calls : List Stage

/-- A transport that gives one answer. -/
def answering (answer : Except PublishError Unit) : Publisher Unit :=
  fun _ => return answer

namespace SharedObserver

def new (scope : ObserverScope) (filter : Filter) (models : List Registry) (number : Nat) :
    SharedObserver :=
  ⟨.new scope, filter, models, number, []⟩

def stage? (shared : SharedObserver) (place : Nat) : Option Stage :=
  shared.calls[place]?

/-- A call begins. -/
def begin (shared : SharedObserver) (stage : Stage) : SharedObserver :=
  { shared with calls := shared.calls ++ [stage] }

/-- A call goes on. -/
def advance (shared : SharedObserver) (place : Nat) (stage : Stage) : SharedObserver :=
  { shared with calls := shared.calls.set place stage }

def register (shared : SharedObserver) (model : Nat) : SharedObserver :=
  { shared with models := shared.models.modify model (·.register shared.number) }

/-- One step, with what it hands to the publisher. -/
def perform (shared : SharedObserver) : Action → SharedObserver × List Handed
  | .attach model answer =>
      let (result, _, calls) := shared.observer.attach (recording (answering answer)) ((), [])
      match result with
      | .ok attached =>
          ({ shared with observer := attached }.begin (.registering model),
            calls.map .announcement)
      | .error error => (shared.begin (.refused error), calls.map .announcement)
  | .tell event =>
      (shared.begin (if shared.observer.phase = .attached then .noticed event else .done), [])
  | .resume place answer =>
      match shared.stage? place with
      | some (.registering model) => ((shared.register model).advance place (.registered model), [])
      | some (.noticed event) =>
          -- The phase was asked for in the step before, and is not asked for again.
          match { shared.observer with phase := .attached }.publication? shared.filter event with
          | some publication => (shared.advance place (.passed publication), [])
          | none => (shared.advance place .done, [])
      | some (.passed publication) =>
          (shared.advance place .done, [.event place ⟨publication, answer⟩])
      | some (.registered _) | some (.refused _) | some .done | none => (shared, [])
  | .detach => ({ shared with observer := shared.observer.detach }, [])
  | .changeFilter change => ({ shared with filter := change shared.filter }, [])

def next (shared : SharedObserver) (action : Action) : SharedObserver :=
  (shared.perform action).1

/-- The observer after the steps. -/
def run (shared : SharedObserver) (actions : List Action) : SharedObserver :=
  actions.foldl next shared

/-- What the steps hand to the publisher, one after the other. -/
def handedIn (shared : SharedObserver) : List Action → List Handed
  | [] => []
  | action :: rest => (shared.perform action).2 ++ handedIn (shared.next action) rest

/-- The phases of an observer come one after the other, and the second may be left out. -/
inductive Onward : ObserverPhase → ObserverPhase → Prop
  | stays {phase : ObserverPhase} : Onward phase phase
  | attaches : Onward .unattached .attached
  | gives : Onward .unattached .detached
  | detaches : Onward .attached .detached

/-! ### What a step does -/

theorem stage?_begin_eq_some_iff {shared : SharedObserver} {stage another : Stage} {place : Nat} :
    (shared.begin stage).stage? place = some another ↔
      shared.stage? place = some another ∨ place = shared.calls.length ∧ another = stage := by
  simp only [stage?, begin, List.getElem?_append]
  split
  · next before => simp [Nat.ne_of_lt before]
  · next behind =>
      rw [List.getElem?_eq_none (Nat.le_of_not_lt behind), List.getElem?_singleton]
      by_cases last : place = shared.calls.length
      · simp [last, eq_comm]
      · have later : place - shared.calls.length ≠ 0 := by omega
        simp [last, later]

theorem stage?_advance_eq_some_iff {shared : SharedObserver} {former stage another : Stage}
    {place other : Nat} (found : shared.stage? place = some former) :
    (shared.advance place stage).stage? other = some another ↔
      other = place ∧ another = stage ∨ other ≠ place ∧ shared.stage? other = some another := by
  have within : place < shared.calls.length := (List.getElem?_eq_some_iff.mp found).1
  simp only [stage?, advance, List.getElem?_set]
  by_cases same : place = other
  · subst same
    simp [within, eq_comm]
  · simp [same, Ne.symm same]

/-- What a step does, and what it hands to the publisher. -/
inductive Change (shared : SharedObserver) : Action → SharedObserver → List Handed → Prop
  | attaches (model : Nat) (unattached : shared.observer.phase = .unattached) :
      Change shared (.attach model (.ok ()))
        ({ shared with observer := { shared.observer with phase := .attached } }.begin
          (.registering model))
        [.announcement ⟨shared.observer.scope.announcement, .ok ()⟩]
  | fails (model : Nat) (error : PublishError) (unattached : shared.observer.phase = .unattached) :
      Change shared (.attach model (.error error)) (shared.begin (.refused (.announcement error)))
        [.announcement ⟨shared.observer.scope.announcement, .error error⟩]
  | refuses (model : Nat) (answer : Except PublishError Unit) (error : AttachError)
      (begun : shared.observer.phase ≠ .unattached) :
      Change shared (.attach model answer) (shared.begin (.refused error)) []
  | notices (event : Event) (attached : shared.observer.phase = .attached) :
      Change shared (.tell event) (shared.begin (.noticed event)) []
  | ignores (event : Event) (apart : shared.observer.phase ≠ .attached) :
      Change shared (.tell event) (shared.begin .done) []
  | registers {place model : Nat} (found : shared.stage? place = some (.registering model))
      (answer : Except PublishError Unit) :
      Change shared (.resume place answer)
        ((shared.register model).advance place (.registered model)) []
  | passes {place : Nat} {event : Event} (found : shared.stage? place = some (.noticed event))
      (publication : Publication) (answer : Except PublishError Unit) :
      Change shared (.resume place answer) (shared.advance place (.passed publication)) []
  | withholds {place : Nat} {event : Event} (found : shared.stage? place = some (.noticed event))
      (answer : Except PublishError Unit) :
      Change shared (.resume place answer) (shared.advance place .done) []
  | publishes {place : Nat} {publication : Publication}
      (found : shared.stage? place = some (.passed publication))
      (answer : Except PublishError Unit) :
      Change shared (.resume place answer) (shared.advance place .done)
        [.event place ⟨publication, answer⟩]
  | rests (place : Nat) (answer : Except PublishError Unit) :
      Change shared (.resume place answer) shared []
  | detaches : Change shared .detach { shared with observer := shared.observer.detach } []
  | filters (change : Filter → Filter) :
      Change shared (.changeFilter change) { shared with filter := change shared.filter } []

namespace Change

variable (shared : SharedObserver)

theorem attach (model : Nat) (answer : Except PublishError Unit) :
    Change shared (.attach model answer) (shared.next (.attach model answer))
      (shared.perform (.attach model answer)).2 := by
  rcases shared with ⟨⟨scope, phase⟩, filter, models, number, calls⟩
  cases phase with
  | unattached =>
      cases answer with
      | ok accepted => exact .attaches model rfl
      | error error => exact .fails model error rfl
  | attached => exact .refuses model answer .alreadyAttached nofun
  | detached => exact .refuses model answer .detached nofun

theorem tell (event : Event) :
    Change shared (.tell event) (shared.next (.tell event)) (shared.perform (.tell event)).2 := by
  rw [next, perform]
  split
  · next attached => exact .notices event attached
  · next apart => exact .ignores event apart

theorem resume (place : Nat) (answer : Except PublishError Unit) :
    Change shared (.resume place answer) (shared.next (.resume place answer))
      (shared.perform (.resume place answer)).2 := by
  rw [next, perform]
  cases found : shared.stage? place with
  | none => exact .rests place answer
  | some stage =>
      cases stage with
      | registering model => exact .registers found answer
      | noticed event =>
          dsimp only
          split
          · next publication _ => exact .passes found publication answer
          · exact .withholds found answer
      | passed publication => exact .publishes found answer
      | registered model | refused error | done => exact .rests place answer

theorem step (action : Action) :
    Change shared action (shared.next action) (shared.perform action).2 := by
  cases action with
  | attach model answer => exact attach shared model answer
  | tell event => exact tell shared event
  | resume place answer => exact resume shared place answer
  | detach => exact .detaches
  | changeFilter change => exact .filters change

variable {shared} {action : Action} {after : SharedObserver} {handed : List Handed}

theorem onward (change : Change shared action after handed) :
    Onward shared.observer.phase after.observer.phase := by
  cases change with
  | attaches model unattached =>
      rw [unattached]
      exact .attaches
  | detaches =>
      cases shared.observer.phase with
      | unattached => exact .gives
      | attached => exact .detaches
      | detached => exact .stays
  | fails | refuses | notices | ignores | registers | passes | withholds | publishes | rests
  | filters => exact .stays

/-- An observer that is detached stays so. -/
theorem detached (change : Change shared action after handed)
    (detached : shared.observer.phase = .detached) : after.observer.phase = .detached := by
  have moves := change.onward
  rw [detached] at moves
  generalize after.observer.phase = phase at moves
  cases moves
  rfl

theorem scope_eq (change : Change shared action after handed) :
    after.observer.scope = shared.observer.scope := by
  cases change <;> rfl

theorem number_eq (change : Change shared action after handed) : after.number = shared.number := by
  cases change <;> rfl

/-- A call that has returned stands where it stood. -/
theorem stage?_of_hasReturned (change : Change shared action after handed) {place : Nat}
    {stage : Stage} (found : shared.stage? place = some stage)
    (returned : stage.hasReturned = true) : after.stage? place = some stage := by
  have elsewhere {other : Nat} {former later : Stage} (here : shared.stage? other = some former)
      (going : former.hasReturned = false) :
      (shared.advance other later).stage? place = some stage := by
    rw [stage?_advance_eq_some_iff here]
    right
    refine ⟨?_, found⟩
    rintro rfl
    rw [here] at found
    cases found
    rw [going] at returned
    cases returned
  cases change with
  | attaches | fails | refuses | notices | ignores =>
      exact stage?_begin_eq_some_iff.mpr (.inl found)
  | registers here | passes here | withholds here | publishes here => exact elsewhere here rfl
  | rests | detaches | filters => exact found

/-- Only a call to attach that begins is refused, and does nothing else. -/
theorem refused (change : Change shared action after handed) {place : Nat} {error : AttachError}
    (found : after.stage? place = some (.refused error)) :
    shared.stage? place = some (.refused error) ∨
      ∃ model answer, action = .attach model answer ∧ shared.calls.length = place ∧
        after = shared.begin (.refused error) := by
  cases change with
  | attaches | notices | ignores =>
      rcases stage?_begin_eq_some_iff.mp found with earlier | ⟨_, other⟩
      · exact .inl earlier
      · cases other
  | fails | refuses =>
      rcases stage?_begin_eq_some_iff.mp found with earlier | ⟨rfl, same⟩
      · exact .inl earlier
      · cases same
        exact .inr ⟨_, _, rfl, rfl, rfl⟩
  | registers here | passes here | withholds here | publishes here =>
      rcases (stage?_advance_eq_some_iff here).mp found with ⟨_, other⟩ | ⟨_, earlier⟩
      · cases other
      · exact .inl earlier
  | rests | detaches | filters => exact .inl found

theorem length_le (change : Change shared action after handed) :
    shared.calls.length ≤ after.calls.length := by
  cases change <;> simp [begin, advance, register]

/-- An event that is published was let through. -/
theorem passed_of_event_mem (change : Change shared action after handed) {place : Nat}
    {call : Call} (published : .event place call ∈ handed) :
    ∃ publication, shared.stage? place = some (.passed publication) := by
  cases change with
  | publishes found answer =>
      cases List.mem_singleton.mp published
      exact ⟨_, found⟩
  | attaches | fails => cases List.mem_singleton.mp published
  | refuses | notices | ignores | registers | passes | withholds | rests | detaches | filters =>
      cases published

end Change

theorem perform_resume_of_hasReturned {shared : SharedObserver} {place : Nat} {stage : Stage}
    (found : shared.stage? place = some stage) (returned : stage.hasReturned = true)
    (answer : Except PublishError Unit) :
    shared.perform (.resume place answer) = (shared, []) := by
  cases stage with
  | registered model | refused error | done => simp [perform, found]
  | registering model | noticed event | passed publication => cases returned

/-! ### Calls that nothing comes between

Taken one after the other, the steps of a call do what the whole call does. -/

section Alone

variable {ensemble : Ensemble} {shared : SharedObserver}

theorem stage?_begin (shared : SharedObserver) (stage : Stage) :
    (shared.begin stage).stage? shared.calls.length = some stage :=
  List.getElem?_concat_length

theorem advance_begin (shared : SharedObserver) (stage later : Stage) :
    (shared.begin stage).advance shared.calls.length later = shared.begin later := by
  simp [begin, advance]

/-- The two steps of a call to attach that is refused. -/
theorem attach_refused {model : Nat} {answer : Except PublishError Unit} {error : AttachError}
    {handed : List Handed}
    (first : shared.perform (.attach model answer) = (shared.begin (.refused error), handed)) :
    let steps := [.attach model answer, .resume shared.calls.length answer]
    shared.handedIn steps = handed ∧ shared.run steps = shared.begin (.refused error) := by
  have second : (shared.begin (.refused error)).perform (.resume shared.calls.length answer) =
      (shared.begin (.refused error), []) :=
    perform_resume_of_hasReturned (stage?_begin shared _) rfl answer
  simp [handedIn, run, next, first, second]

/-- The two steps of a call to attach that is accepted. -/
theorem attach_accepted {attached : SharedObserver} {model : Nat}
    {answer : Except PublishError Unit} {handed : List Handed}
    (first : shared.perform (.attach model answer) =
      (attached.begin (.registering model), handed)) :
    let steps := [.attach model answer, .resume attached.calls.length answer]
    shared.handedIn steps = handed ∧
      shared.run steps = (attached.register model).begin (.registered model) := by
  have second : (attached.begin (.registering model)).perform
      (.resume attached.calls.length answer) =
        ((attached.register model).begin (.registered model), []) := by
    rw [perform, stage?_begin]
    exact congrArg (·, [])
      (advance_begin (attached.register model) (.registering model) (.registered model))
  simp [handedIn, run, next, first, second]

/-- A call to attach, and its two steps. -/
theorem makes_attach (held : ensemble.Holds shared.number shared.observer shared.filter)
    (models : ensemble.models = shared.models) (model : Nat) (answer : Except PublishError Unit) :
    let steps := [.attach model answer, .resume shared.calls.length answer]
    ∃ next result,
      Makes (ensemble.attach (fun _ => recording (answering answer)) shared.number model []) ()
          (next, result) () ((shared.handedIn steps).map Handed.call) ∧
        next.Holds shared.number (shared.run steps).observer shared.filter ∧
        next.models = (shared.run steps).models ∧
        (shared.run steps).stage? shared.calls.length =
          some (match result with
            | .ok () => .registered model
            | .error error => .refused error) := by
  intro steps
  have refused := @attach_refused shared model answer
  have attaches := @attach_accepted shared
    { shared with observer := { shared.observer with phase := .attached } } model answer
  rcases shared with ⟨⟨scope, phase⟩, filter, shelf, number, calls⟩
  rw [Ensemble.attach, held.observer?_eq]
  cases phase with
  | attached | detached =>
      obtain ⟨handed, after⟩ := refused rfl
      rw [handed, after]
      exact ⟨ensemble, .error _, Makes.nothing _ _, held, models, stage?_begin _ _⟩
  | unattached =>
      cases answer with
      | error error =>
          obtain ⟨handed, after⟩ := refused rfl
          rw [handed, after]
          exact ⟨ensemble, .error _, fun _ => rfl, held, models, stage?_begin _ _⟩
      | ok accepted =>
          obtain ⟨handed, after⟩ := attaches rfl
          rw [handed, after]
          refine ⟨{ ensemble.setObserver number ⟨scope, .attached⟩ with
            models := ensemble.models.modify model (·.register number) }, .ok accepted,
            fun _ => rfl, held.setObserver _, ?_, stage?_begin _ _⟩
          rw [models]
          rfl

/-- Where the observer is still attached, scope and filter are asked as if the phase were, too. -/
theorem perform_resume_noticed (attached : shared.observer.phase = .attached) (event : Event)
    (answer : Except PublishError Unit) :
    (shared.begin (.noticed event)).perform (.resume shared.calls.length answer) =
      (shared.begin (match shared.observer.publication? shared.filter event with
        | some publication => .passed publication
        | none => .done), []) := by
  rcases shared with ⟨⟨scope, phase⟩, filter, shelf, number, calls⟩
  cases attached
  have asked {later : Stage} := advance_begin ⟨⟨scope, .attached⟩, filter, shelf, number, calls⟩
    (.noticed event) later
  rw [perform, stage?_begin]
  simp only [asked]
  dsimp only [begin]
  cases Observer.publication? ⟨scope, .attached⟩ filter event <;> rfl

theorem perform_resume_passed (publication : Publication) (answer : Except PublishError Unit) :
    (shared.begin (.passed publication)).perform (.resume shared.calls.length answer) =
      (shared.begin .done, [.event shared.calls.length ⟨publication, answer⟩]) := by
  rw [perform, stage?_begin]
  simp only [advance_begin]

/-- A call to take notice of an event, and its three steps. -/
theorem makes_tell (held : ensemble.Holds shared.number shared.observer shared.filter)
    (event : Event) (answer : Except PublishError Unit) :
    let steps := [.tell event, .resume shared.calls.length answer,
      .resume shared.calls.length answer]
    Makes (ensemble.tell (fun _ => recording (answering answer)) event shared.number) () () ()
        ((shared.handedIn steps).map Handed.call) ∧
      shared.run steps = shared.begin .done := by
  intro steps
  have rests : (shared.begin .done).perform (.resume shared.calls.length answer) =
      (shared.begin .done, []) :=
    perform_resume_of_hasReturned (stage?_begin shared .done) rfl answer
  rw [Ensemble.tell, held.observer?_eq, held.filterOf_eq]
  simp only [Observer.onEvent]
  by_cases attached : shared.observer.phase = .attached
  · have first : shared.perform (.tell event) = (shared.begin (.noticed event), []) := by
      rw [perform, if_pos attached]
    have second := perform_resume_noticed attached event answer
    cases passes : shared.observer.publication? shared.filter event with
    | none =>
        rw [passes] at second
        refine ⟨?_, by simp [steps, run, next, first, second, rests]⟩
        simp only [steps, handedIn, next, first, second, rests]
        exact Makes.nothing () ()
    | some publication =>
        rw [passes] at second
        have third := @perform_resume_passed shared publication answer
        refine ⟨?_, by simp [steps, run, next, first, second, third]⟩
        simp only [steps, handedIn, next, first, second, third]
        exact (Makes.publication (answering answer) publication ()).andThen (Makes.nothing () ())
  · have first : shared.perform (.tell event) = (shared.begin .done, []) := by
      rw [perform, if_neg attached]
    have silent : shared.observer.publication? shared.filter event = none := by
      simp [Observer.publication?, attached]
    refine ⟨?_, by simp [steps, run, next, first, rests]⟩
    simp only [steps, handedIn, next, first, rests, silent]
    exact Makes.nothing () ()

end Alone

end SharedObserver

end ShellBridge
