import ShellBridge.Proofs.Observer.Sharing
import Mathlib.Data.List.Induction

/-!
The life of an observer that several callers use at once.

Since the announcement and the change of the phase are one step, one announcement is accepted at
most, and everything else that attaching leads to comes after it.
-/

namespace ShellBridge

namespace SharedObserver

/-- The life of an observer after the steps, and whatever step comes next. -/
structure Orderly (start : SharedObserver) (past : List Action) : Prop where
  onward : ∀ action,
    Onward (start.run past).observer.phase ((start.run past).next action).observer.phase
  /-- One call to attach returns with success at most. -/
  once : ∀ place other model another, (start.run past).stage? place = some (.registered model) →
    (start.run past).stage? other = some (.registered another) → place = other
  /-- The observer is registered by this call with its model, and nowhere else. -/
  registered :
    (∀ place model, (start.run past).stage? place ≠ some (.registered model)) ∧
        (start.run past).models = start.models ∨
      ∃ place model, (start.run past).stage? place = some (.registered model) ∧
        (start.run past).models = start.models.modify model (·.register start.number)
  /-- One announcement is accepted at most, and no call to attach returns with success without. -/
  accepted : ((start.handedIn past).filter Handed.isAcceptance).length ≤ 1 ∧
    ∀ place model, (start.run past).stage? place = some (.registered model) →
      .announcement ⟨start.observer.scope.announcement, .ok ()⟩ ∈ start.handedIn past
  /-- A call to attach that returned with an error took one step, which changed neither the observer
  nor a model. -/
  refused : ∀ place error, (start.run past).stage? place = some (.refused error) →
    ∃ before model answer after, past = before ++ .attach model answer :: after ∧
      (start.run before).calls.length = place ∧
      (start.run before).next (.attach model answer) = (start.run before).begin (.refused error)
  /-- A call that has returned does nothing more. -/
  returned : ∀ place stage, (start.run past).stage? place = some stage → stage.hasReturned = true →
    (∀ answer, (start.run past).perform (.resume place answer) = (start.run past, [])) ∧
      ∀ action, ((start.run past).next action).stage? place = some stage
  /-- No event is published before the announcement was accepted. -/
  announced : ∀ (index place : Nat) (call : Call),
    (start.handedIn past)[index]? = some (.event place call) → ∃ earlier < index,
      (start.handedIn past)[earlier]? =
        some (.announcement ⟨start.observer.scope.announcement, .ok ()⟩)
  /-- A call to take notice of an event that begins after a detachment publishes nothing. -/
  silent : ∀ before between event after,
    past = before ++ .detach :: between ++ .tell event :: after → ∀ call,
      .event (start.run (before ++ .detach :: between)).calls.length call ∉ start.handedIn past

/-! ### What comes of it -/

/-- No announcement was accepted so far, and nothing came of any call. -/
structure Unannounced (start shared : SharedObserver) (handed : List Handed) : Prop where
  scope : shared.observer.scope = start.observer.scope
  number : shared.number = start.number
  phase : shared.observer.phase ≠ .attached
  models : shared.models = start.models
  accepted : handed.filter Handed.isAcceptance = []
  idle : ∀ place stage, shared.stage? place = some stage → stage.followsAcceptance = false

/-- The announcement of the call at the place was accepted, and of no other. -/
structure Announced (start shared : SharedObserver) (handed : List Handed) (place model : Nat) :
    Prop where
  scope : shared.observer.scope = start.observer.scope
  number : shared.number = start.number
  phase : shared.observer.phase ≠ .unattached
  accepted : handed.filter Handed.isAcceptance =
    [.announcement ⟨start.observer.scope.announcement, .ok ()⟩]
  course :
    shared.stage? place = some (.registering model) ∧ shared.models = start.models ∨
      shared.stage? place = some (.registered model) ∧
        shared.models = start.models.modify model (·.register start.number)
  alone : ∀ other stage, shared.stage? other = some stage → stage.isAnnounced = true →
    other = place

theorem Unannounced.next {start shared after : SharedObserver} {handed more : List Handed}
    {action : Action} (before : Unannounced start shared handed)
    (change : Change shared action after more) :
    Unannounced start after (handed ++ more) ∨
      ∃ place model, Announced start after (handed ++ more) place model := by
  have scope := change.scope_eq.trans before.scope
  have number := change.number_eq.trans before.number
  have begins {stage : Stage} (ended : stage.followsAcceptance = false) (place : Nat)
      (another : Stage) (found : (shared.begin stage).stage? place = some another) :
      another.followsAcceptance = false := by
    rcases stage?_begin_eq_some_iff.mp found with earlier | ⟨_, rfl⟩
    · exact before.idle place another earlier
    · exact ended
  have going {place : Nat} {stage : Stage} (found : shared.stage? place = some stage)
      (follows : stage.followsAcceptance = true) : False := by
    rw [before.idle place stage found] at follows
    cases follows
  cases change with
  | attaches model unattached =>
      right
      refine ⟨shared.calls.length, model, scope, number, nofun, ?_, .inl ⟨?_, before.models⟩, ?_⟩
      · rw [List.filter_append, before.accepted, before.scope]
        rfl
      · exact stage?_begin_eq_some_iff.mpr (.inr ⟨rfl, rfl⟩)
      · intro other stage found announced
        rcases stage?_begin_eq_some_iff.mp found with earlier | ⟨last, _⟩
        · exact (going earlier (stage.followsAcceptance_of_isAnnounced announced)).elim
        · exact last
  | fails model error unattached =>
      left
      refine ⟨scope, number, before.phase, before.models, ?_, begins rfl⟩
      rw [List.filter_append, before.accepted]
      rfl
  | refuses model answer error begun =>
      left
      refine ⟨scope, number, before.phase, before.models, ?_, begins rfl⟩
      rw [List.append_nil, before.accepted]
  | notices event attached => exact absurd attached before.phase
  | ignores event apart =>
      left
      refine ⟨scope, number, before.phase, before.models, ?_, begins rfl⟩
      rw [List.append_nil, before.accepted]
  | registers found | passes found | withholds found | publishes found =>
      exact (going found rfl).elim
  | rests =>
      rw [List.append_nil]
      exact .inl before
  | detaches =>
      left
      refine ⟨scope, number, nofun, before.models, ?_, before.idle⟩
      rw [List.append_nil, before.accepted]
  | filters change =>
      left
      refine ⟨scope, number, before.phase, before.models, ?_, before.idle⟩
      rw [List.append_nil, before.accepted]

namespace Announced

variable {start shared : SharedObserver} {handed : List Handed} {place model : Nat}

theorem begin (before : Announced start shared handed place model) {stage : Stage}
    (plain : stage.isAnnounced = false) :
    Announced start (shared.begin stage) handed place model := by
  refine ⟨before.scope, before.number, before.phase, before.accepted, ?_, ?_⟩
  · simp only [stage?_begin_eq_some_iff]
    rcases before.course with ⟨found, models⟩ | ⟨found, models⟩
    · exact .inl ⟨.inl found, models⟩
    · exact .inr ⟨.inl found, models⟩
  · intro other another found announced
    rcases stage?_begin_eq_some_iff.mp found with earlier | ⟨_, rfl⟩
    · exact before.alone other another earlier announced
    · rw [plain] at announced
      cases announced

theorem advance (before : Announced start shared handed place model) {other : Nat}
    {former stage : Stage} (found : shared.stage? other = some former)
    (formerPlain : former.isAnnounced = false) (plain : stage.isAnnounced = false) :
    Announced start (shared.advance other stage) handed place model := by
  have elsewhere {own : Stage} (here : shared.stage? place = some own)
      (announced : own.isAnnounced = true) : place ≠ other := by
    rintro rfl
    rw [found] at here
    cases here
    rw [formerPlain] at announced
    cases announced
  refine ⟨before.scope, before.number, before.phase, before.accepted, ?_, ?_⟩
  · simp only [stage?_advance_eq_some_iff found]
    rcases before.course with ⟨here, models⟩ | ⟨here, models⟩
    · exact .inl ⟨.inr ⟨elsewhere here rfl, here⟩, models⟩
    · exact .inr ⟨.inr ⟨elsewhere here rfl, here⟩, models⟩
  · intro third another foundThird announced
    rcases (stage?_advance_eq_some_iff found).mp foundThird with ⟨_, rfl⟩ | ⟨_, earlier⟩
    · rw [plain] at announced
      cases announced
    · exact before.alone third another earlier announced

/-- The one call that was announced registers with its model. -/
theorem register (before : Announced start shared handed place model) {other another : Nat}
    (found : shared.stage? other = some (.registering another)) :
    Announced start ((shared.register another).advance other (.registered another)) handed place
      model := by
  obtain rfl := before.alone other _ found rfl
  have advanced {third : Nat} {stage : Stage} :
      ((shared.register another).advance other (.registered another)).stage? third = some stage ↔
        third = other ∧ stage = .registered another ∨
          third ≠ other ∧ shared.stage? third = some stage :=
    stage?_advance_eq_some_iff found
  rcases before.course with ⟨here, models⟩ | ⟨here, _⟩
  · rw [found] at here
    cases here
    refine ⟨before.scope, before.number, before.phase, before.accepted, .inr ⟨?_, ?_⟩, ?_⟩
    · exact advanced.mpr (.inl ⟨rfl, rfl⟩)
    · rw [← before.number, ← models]
      rfl
    · intro third stage foundThird announced
      rcases advanced.mp foundThird with ⟨same, _⟩ | ⟨_, earlier⟩
      · exact same
      · exact before.alone third stage earlier announced
  · rw [found] at here
    cases here

theorem next {after : SharedObserver} {more : List Handed} {action : Action}
    (before : Announced start shared handed place model)
    (change : Change shared action after more) :
    Announced start after (handed ++ more) place model := by
  cases change with
  | attaches _ unattached | fails _ _ unattached => exact absurd unattached before.phase
  | refuses | notices | ignores =>
      rw [List.append_nil]
      exact before.begin rfl
  | registers found =>
      rw [List.append_nil]
      exact before.register found
  | passes found | withholds found =>
      rw [List.append_nil]
      exact before.advance found rfl rfl
  | publishes found answer =>
      have advanced : Announced start (shared.advance _ .done) handed place model :=
        before.advance found rfl rfl
      refine { advanced with accepted := ?_ }
      rw [List.filter_append, before.accepted]
      rfl
  | rests =>
      rw [List.append_nil]
      exact before
  | detaches =>
      rw [List.append_nil]
      exact { before with phase := nofun }
  | filters change =>
      rw [List.append_nil]
      exact { before with }

end Announced

/-! ### Runs -/

theorem run_append (shared : SharedObserver) (first second : List Action) :
    shared.run (first ++ second) = (shared.run first).run second :=
  List.foldl_append

theorem run_concat (shared : SharedObserver) (actions : List Action) (last : Action) :
    shared.run (actions ++ [last]) = (shared.run actions).next last :=
  run_append shared actions [last]

theorem handedIn_append (shared : SharedObserver) (first second : List Action) :
    shared.handedIn (first ++ second) =
      shared.handedIn first ++ (shared.run first).handedIn second := by
  induction first generalizing shared with
  | nil => rfl
  | cons action first inductionHypothesis =>
      rw [List.cons_append, handedIn, handedIn, inductionHypothesis, List.append_assoc]
      rfl

theorem handedIn_concat (shared : SharedObserver) (actions : List Action) (last : Action) :
    shared.handedIn (actions ++ [last]) =
      shared.handedIn actions ++ ((shared.run actions).perform last).2 := by
  rw [handedIn_append]
  exact congrArg _ (List.append_nil _)

theorem phase_run_of_detached {shared : SharedObserver}
    (detached : shared.observer.phase = .detached) (actions : List Action) :
    (shared.run actions).observer.phase = .detached := by
  induction actions generalizing shared with
  | nil => exact detached
  | cons action rest inductionHypothesis =>
      exact inductionHypothesis ((Change.step shared action).detached detached)

/-- Only calls that were begun hand anything to the publisher. -/
theorem lt_of_event_mem_handedIn {start : SharedObserver} {past : List Action} {place : Nat}
    {call : Call} (published : .event place call ∈ start.handedIn past) :
    place < (start.run past).calls.length := by
  induction past using List.reverseRecOn with
  | nil => cases published
  | append_singleton past action inductionHypothesis =>
      have change := Change.step (start.run past) action
      rw [handedIn_concat] at published
      rw [run_concat]
      rcases List.mem_append.mp published with earlier | now
      · exact Nat.lt_of_lt_of_le (inductionHypothesis earlier) change.length_le
      · obtain ⟨publication, found⟩ := change.passed_of_event_mem now
        exact Nat.lt_of_lt_of_le (List.getElem?_eq_some_iff.mp found).1 change.length_le

/-- A call that has returned hands nothing to the publisher. -/
theorem event_not_mem_handedIn {shared : SharedObserver} {place : Nat} {stage : Stage}
    (found : shared.stage? place = some stage) (returned : stage.hasReturned = true)
    (actions : List Action) (call : Call) : .event place call ∉ shared.handedIn actions := by
  induction actions generalizing shared with
  | nil => exact List.not_mem_nil
  | cons action rest inductionHypothesis =>
      have change := Change.step shared action
      intro published
      rcases List.mem_append.mp published with now | later
      · obtain ⟨publication, passed⟩ := change.passed_of_event_mem now
        rw [found] at passed
        cases passed
        cases returned
      · exact inductionHypothesis (change.stage?_of_hasReturned found returned) later

theorem Unannounced.new (scope : ObserverScope) (filter : Filter) (models : List Registry)
    (number : Nat) :
    Unannounced (new scope filter models number) (new scope filter models number) [] :=
  ⟨rfl, rfl, nofun, rfl, rfl, nofun⟩

section Fresh

variable {start : SharedObserver} (fresh : Unannounced start start [])

include fresh

/-- At any time no announcement was accepted yet, or just one. -/
theorem unannounced_or_announced (past : List Action) :
    Unannounced start (start.run past) (start.handedIn past) ∨
      ∃ place model, Announced start (start.run past) (start.handedIn past) place model := by
  induction past using List.reverseRecOn with
  | nil => exact .inl fresh
  | append_singleton past action inductionHypothesis =>
      have change := Change.step (start.run past) action
      rw [run_concat, handedIn_concat]
      rcases inductionHypothesis with before | ⟨place, model, before⟩
      · exact before.next change
      · exact .inr ⟨place, model, before.next change⟩

theorem acceptance_mem {past : List Action} {place : Nat} {stage : Stage}
    (found : (start.run past).stage? place = some stage)
    (follows : stage.followsAcceptance = true) :
    .announcement ⟨start.observer.scope.announcement, .ok ()⟩ ∈ start.handedIn past := by
  rcases unannounced_or_announced fresh past with before | ⟨_, _, before⟩
  · rw [before.idle place stage found] at follows
    cases follows
  · have accepted : .announcement ⟨start.observer.scope.announcement, .ok ()⟩ ∈
        (start.handedIn past).filter Handed.isAcceptance := by
      rw [before.accepted]
      exact List.mem_singleton_self _
    exact (List.mem_filter.mp accepted).1

/-- What a call to take notice of an event publishes comes after an accepted announcement. -/
theorem exists_acceptance_lt (past : List Action) {index place : Nat} {call : Call}
    (published : (start.handedIn past)[index]? = some (.event place call)) :
    ∃ earlier < index, (start.handedIn past)[earlier]? =
      some (.announcement ⟨start.observer.scope.announcement, .ok ()⟩) := by
  induction past using List.reverseRecOn with
  | nil => cases published
  | append_singleton past action inductionHypothesis =>
      rw [handedIn_concat] at published ⊢
      rcases Nat.lt_or_ge index (start.handedIn past).length with before | behind
      · rw [List.getElem?_append_left before] at published
        obtain ⟨earlier, less, found⟩ := inductionHypothesis published
        exact ⟨earlier, less,
          by rw [List.getElem?_append_left (Nat.lt_trans less before), found]⟩
      · rw [List.getElem?_append_right behind] at published
        obtain ⟨publication, passed⟩ := (Change.step (start.run past) action).passed_of_event_mem
          (List.mem_of_getElem? published)
        obtain ⟨earlier, found⟩ :=
          List.mem_iff_getElem?.mp (acceptance_mem fresh passed rfl)
        have less : earlier < (start.handedIn past).length :=
          (List.getElem?_eq_some_iff.mp found).1
        exact ⟨earlier, Nat.lt_of_lt_of_le less behind,
          by rw [List.getElem?_append_left less, found]⟩

end Fresh

/-- A call to attach that was refused was so in its first step. -/
theorem exists_attach_of_refused {start : SharedObserver} (past : List Action) {place : Nat}
    {error : AttachError} (found : (start.run past).stage? place = some (.refused error))
    (fresh : start.calls = []) :
    ∃ before model answer after, past = before ++ .attach model answer :: after ∧
      (start.run before).calls.length = place ∧
      (start.run before).next (.attach model answer) =
        (start.run before).begin (.refused error) := by
  induction past using List.reverseRecOn with
  | nil =>
      rw [run, List.foldl_nil, stage?, fresh] at found
      cases found
  | append_singleton past action inductionHypothesis =>
      rw [run_concat] at found
      rcases (Change.step (start.run past) action).refused found with
        earlier | ⟨model, answer, rfl, last, refuses⟩
      · obtain ⟨before, model, answer, after, rfl, last, refuses⟩ := inductionHypothesis earlier
        exact ⟨before, model, answer, after ++ [action], by simp, last, refuses⟩
      · exact ⟨past, model, answer, [], rfl, last, refuses⟩

/-- A call to take notice of an event that finds the observer detached publishes nothing. -/
theorem event_not_mem_of_detached {start : SharedObserver} {past : List Action}
    (detached : (start.run past).observer.phase = .detached) (event : Event)
    (after : List Action) (call : Call) :
    .event (start.run past).calls.length call ∉ start.handedIn (past ++ .tell event :: after) := by
  have ignored : (start.run past).next (.tell event) = (start.run past).begin .done := by
    rw [next, perform, detached]
    rfl
  have ended : ((start.run past).begin .done).stage? (start.run past).calls.length = some .done :=
    stage?_begin_eq_some_iff.mpr (.inr ⟨rfl, rfl⟩)
  rw [handedIn_append, handedIn, ignored]
  intro published
  rcases List.mem_append.mp published with earlier | later
  · exact absurd (lt_of_event_mem_handedIn earlier) (Nat.lt_irrefl _)
  · exact event_not_mem_handedIn ended rfl after call later

/-- The life of an observer that any number of callers attach, detach and tell of events, whatever
the order of their steps and the answers of the publisher. -/
theorem orderly (scope : ObserverScope) (filter : Filter) (models : List Registry) (number : Nat)
    (past : List Action) : (new scope filter models number).Orderly past := by
  have fresh := Unannounced.new scope filter models number
  have begun : (new scope filter models number).calls = [] := rfl
  generalize new scope filter models number = start at fresh begun
  have course := unannounced_or_announced fresh past
  refine ⟨?_, ?_, ?_, ?_, ?_, ?_, ?_, ?_⟩
  · intro action
    exact (Change.step _ action).onward
  · intro place other model another found foundOther
    rcases course with before | ⟨_, _, before⟩
    · cases before.idle place _ found
    · rw [before.alone place _ found rfl, before.alone other _ foundOther rfl]
  · rcases course with before | ⟨place, model, before⟩
    · left
      refine ⟨?_, before.models⟩
      intro place model found
      cases before.idle place _ found
    · rcases before.course with ⟨going, models⟩ | ⟨found, models⟩
      · left
        refine ⟨?_, models⟩
        intro other another found
        obtain rfl := before.alone other _ found rfl
        rw [going] at found
        cases found
      · exact .inr ⟨place, model, found, models⟩
  · constructor
    · rcases course with before | ⟨_, _, before⟩ <;> simp [before.accepted]
    · intro place model found
      exact acceptance_mem fresh found rfl
  · intro place error found
    exact exists_attach_of_refused past found begun
  · intro place stage found returned
    constructor
    · intro answer
      exact perform_resume_of_hasReturned found returned answer
    · intro action
      exact (Change.step _ action).stage?_of_hasReturned found returned
  · intro index place call published
    exact exists_acceptance_lt fresh past published
  · rintro before between event after rfl call
    have detached : (start.run (before ++ .detach :: between)).observer.phase = .detached := by
      rw [run_append]
      exact phase_run_of_detached rfl between
    exact event_not_mem_of_detached detached event after call

/-- An observer that is detached before it is registered is registered nonetheless. -/
example :
    let shared := (new ⟨"plant", "shell", none⟩ .disabled [.empty] 0).run
      [.attach 0 (.ok ()), .detach, .resume 0 (.ok ())]
    shared.observer.phase = .detached ∧ shared.models = [⟨[0]⟩] := by
  decide

end SharedObserver

end ShellBridge
