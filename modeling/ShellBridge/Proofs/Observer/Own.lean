import Mathlib.Data.List.Nodup
import Mathlib.Logic.Function.Basic
import ShellBridge.Proofs.Observer.Run

/-!
One observer among others.

Several observers of an ensemble have a filter and a publisher each.  An operation on one of them
makes the calls that it makes alone, whatever the others are, and it leaves the others and their
publishers as they were.
-/

namespace ShellBridge

section Own

variable {σ α β γ δ : Type}

/-- The publishers of several observers, each with a state of its own.  Every call is noted with the
observer that made it. -/
def recordingEach (publish : Nat → Publisher σ) (number : Nat) :
    Publisher ((Nat → σ) × List (Nat × Call)) :=
  fun publication (states, calls) =>
    let (answer, state) := publish number publication (states number)
    (answer, Function.update states number state, calls ++ [(number, ⟨publication, answer⟩)])

/-- The calls that one of several observers made. -/
def callsOf (number : Nat) (calls : List (Nat × Call)) : List Call :=
  (calls.filter (·.1 = number)).map Prod.snd

theorem callsOf_append (number : Nat) (calls more : List (Nat × Call)) :
    callsOf number (calls ++ more) = callsOf number calls ++ callsOf number more := by
  simp [callsOf]

theorem callsOf_self (number : Nat) (calls : List Call) :
    callsOf number (calls.map (Prod.mk number)) = calls := by
  induction calls with
  | nil => rfl
  | cons call rest inductionHypothesis => simp_all [callsOf]

theorem callsOf_other {number other : Nat} (different : other ≠ number) (calls : List Call) :
    callsOf number (calls.map (Prod.mk other)) = [] := by
  simp [callsOf, different]

theorem sublist_of_length_le_one {calls : List Call} (number : Nat) (once : calls.length ≤ 1) :
    ((calls.map (Prod.mk number)).map Prod.fst).Sublist [number] := by
  have callers : (calls.map (Prod.mk number)).map Prod.fst =
      List.replicate calls.length number := by
    simp [Function.comp_def]
  rw [callers]
  exact (List.replicate_sublist_replicate number).mpr once

theorem Makes.unique {κ : Type} {action : StateM (σ × List κ) α} {state after other : σ}
    {result final : α} {calls more : List κ} (first : Makes action state result after calls)
    (second : Makes action state final other more) :
    result = final ∧ after = other ∧ calls = more := by
  obtain ⟨results, rest⟩ := Prod.mk.inj ((first []).symm.trans (second []))
  obtain ⟨states, noted⟩ := Prod.mk.inj rest
  exact ⟨results, states, noted⟩

/-- Among several observers an action is that of one, which acts in the same way alone: all calls
are its own, and the publishers of the others keep their states. -/
def Own (number : Nat) (joint : StateM ((Nat → σ) × List (Nat × Call)) α)
    (alone : StateM (σ × List Call) β) (leads : α → β → List Call → Prop) : Prop :=
  ∀ states : Nat → σ, ∃ result other after calls,
    Makes joint states result (Function.update states number after) (calls.map (Prod.mk number)) ∧
      Makes alone (states number) other after calls ∧ leads result other calls

namespace Own

variable {number : Nat} {leads : α → β → List Call → Prop}

theorem nothing {result : α} {other : β} (led : leads result other []) :
    Own (σ := σ) number (pure result) (pure other) leads := by
  intro states
  refine ⟨result, other, states number, [], ?_, Makes.nothing _ _, led⟩
  rw [Function.update_eq_self]
  exact Makes.nothing _ _

theorem andThen {joint : StateM ((Nat → σ) × List (Nat × Call)) α}
    {alone : StateM (σ × List Call) β} {next : α → StateM ((Nat → σ) × List (Nat × Call)) γ}
    {goOn : β → StateM (σ × List Call) δ} {ended : γ → δ → List Call → Prop}
    (first : Own number joint alone leads)
    (second : ∀ result other calls, leads result other calls →
      Own number (next result) (goOn other) fun final last more =>
        ended final last (calls ++ more)) :
    Own number (joint >>= next) (alone >>= goOn) ended := by
  intro states
  obtain ⟨result, other, middle, calls, acts, same, led⟩ := first states
  obtain ⟨final, last, after, more, continues, goesOn, lastLed⟩ :=
    second result other calls led (Function.update states number middle)
  rw [Function.update_idem] at continues
  rw [Function.update_self] at goesOn
  refine ⟨final, last, after, calls ++ more, ?_, same.andThen goesOn, lastLed⟩
  rw [List.map_append]
  exact acts.andThen continues

/-- One publication, which is answered alike. -/
theorem publication (publish : Nat → Publisher σ) (number : Nat) (publication : Publication) :
    Own number (recordingEach publish number publication) (recording (publish number) publication)
      fun answer same calls => answer = same ∧ calls = [⟨publication, answer⟩] := by
  intro states
  exact ⟨_, _, _, _, fun _ => rfl, Makes.publication _ _ _, rfl, rfl⟩

/-- What is known of the joint action is what the action does alone. -/
theorem of_makes {joint : StateM ((Nat → σ) × List (Nat × Call)) α}
    {alone : StateM (σ × List Call) β} {states after : Nat → σ} {result : α}
    {calls : List (Nat × Call)} (own : Own number joint alone leads)
    (made : Makes joint states result after calls) :
    ∃ other, Makes alone (states number) other (after number) (callsOf number calls) ∧
      leads result other (callsOf number calls) := by
  obtain ⟨final, other, last, noted, acts, same, led⟩ := own states
  obtain ⟨rfl, rfl, rfl⟩ := acts.unique made
  rw [Function.update_self, callsOf_self]
  exact ⟨other, same, led⟩

end Own

end Own

namespace Ensemble

/-- Every observer has a filter of its own. -/
structure Separate (ensemble : Ensemble) : Prop where
  present : ∀ slot ∈ ensemble.observers.map Prod.snd, slot < ensemble.filters.length
  distinct : (ensemble.observers.map Prod.snd).Nodup

/-- What becomes of an ensemble when something is done with one observer: only its state and its
filter are others. -/
structure Spares (ensemble next : Ensemble) (number : Nat) : Prop where
  slots : next.observers.map Prod.snd = ensemble.observers.map Prod.snd
  length : next.filters.length = ensemble.filters.length
  observers : ∀ other, other ≠ number → next.observers[other]? = ensemble.observers[other]?
  filters : ∀ slot, ensemble.observers[number]?.map Prod.snd ≠ some slot →
    next.filters[slot]? = ensemble.filters[slot]?

variable {ensemble next alone : Ensemble} {number other : Nat} {observer : Observer}
  {filter : Filter}

theorem Separate.exists_holds (separate : ensemble.Separate) {entry : Observer × Nat}
    (known : ensemble.observers[number]? = some entry) :
    ∃ observer filter, ensemble.Holds number observer filter := by
  have present : entry.2 < ensemble.filters.length :=
    separate.present entry.2 (List.mem_map_of_mem (List.mem_of_getElem? known))
  exact ⟨entry.1, ensemble.filters[entry.2], entry.2, known, List.getElem?_eq_getElem present⟩

theorem Holds.unique {after : Observer} {kept : Filter}
    (held : ensemble.Holds number observer filter) (same : ensemble.Holds number after kept) :
    observer = after ∧ filter = kept := by
  have observers := held.observer?_eq.symm.trans same.observer?_eq
  exact ⟨Option.some.inj observers, held.filterOf_eq.symm.trans same.filterOf_eq⟩

theorem Holds.ne_of_unknown (held : ensemble.Holds number observer filter)
    (unknown : ensemble.observers[other]? = none) : other ≠ number := by
  rintro rfl
  obtain ⟨slot, found, _⟩ := held
  rw [unknown] at found
  cases found

namespace Spares

theorem refl (ensemble : Ensemble) (number : Nat) : ensemble.Spares ensemble number :=
  ⟨rfl, rfl, fun _ _ => rfl, fun _ _ => rfl⟩

theorem setObserver (ensemble : Ensemble) (number : Nat) (observer : Observer) :
    ensemble.Spares (ensemble.setObserver number observer) number := by
  refine ⟨?_, rfl, ?_, fun _ _ => rfl⟩
  · apply List.ext_getElem?
    intro place
    by_cases here : number = place <;>
      simp [Ensemble.setObserver, here, Function.comp_def]
  · intro other different
    simp [Ensemble.setObserver, different.symm]

theorem changeFilter (ensemble : Ensemble) (number : Nat) (change : Filter → Filter) :
    ensemble.Spares (ensemble.changeFilter number change) number := by
  unfold Ensemble.changeFilter
  cases found : ensemble.observers[number]? with
  | none => exact refl ensemble number
  | some entry =>
      refine ⟨rfl, by simp, fun _ _ => rfl, ?_⟩
      intro slot different
      rw [found] at different
      have elsewhere : entry.2 ≠ slot := fun same => different (congrArg some same)
      simp [elsewhere]

/-- An observer that registers, in a phase to which attaching has led. -/
theorem attached (ensemble : Ensemble) (number model : Nat) (observer : Observer) :
    ensemble.Spares { ensemble.setObserver number observer with
      models := ensemble.models.modify model (·.register number) } number := by
  have spares := setObserver ensemble number observer
  exact ⟨spares.slots, spares.length, spares.observers, spares.filters⟩

theorem detach (ensemble : Ensemble) (number : Nat) :
    ensemble.Spares (ensemble.detach number) number := by
  unfold Ensemble.detach
  cases ensemble.observer? number with
  | none => exact refl ensemble number
  | some observer => exact setObserver ensemble number observer.detach

theorem separate (spares : ensemble.Spares next number) (separate : ensemble.Separate) :
    next.Separate := by
  constructor
  · rw [spares.slots, spares.length]
    exact separate.present
  · rw [spares.slots]
    exact separate.distinct

/-- Another observer is as before, and so is its filter. -/
theorem holds (spares : ensemble.Spares next number) (separate : ensemble.Separate)
    (held : ensemble.Holds other observer filter) (different : other ≠ number) :
    next.Holds other observer filter := by
  obtain ⟨slot, found, kept⟩ := held
  refine ⟨slot, (spares.observers other different).trans found, ?_⟩
  rw [spares.filters slot ?_, kept]
  intro shared
  obtain ⟨⟨owner, _⟩, first, rfl⟩ := Option.map_eq_some_iff.mp shared
  have listed : other < (ensemble.observers.map Prod.snd).length := by
    rw [List.length_map]
    exact (List.getElem?_eq_some_iff.mp found).1
  have placed : (ensemble.observers.map Prod.snd)[other]? =
      (ensemble.observers.map Prod.snd)[number]? := by
    simp [found, first]
  exact different ((List.getElem?_inj listed separate.distinct).mp placed)

end Spares

theorem Holds.attached {scope : ObserverScope} {phase : ObserverPhase}
    (held : ensemble.Holds number ⟨scope, phase⟩ filter) (model : Nat) :
    Ensemble.Holds { ensemble.setObserver number ⟨scope, .attached⟩ with
      models := ensemble.models.modify model (·.register number) } number ⟨scope, .attached⟩
      filter :=
  held.setObserver ⟨scope, .attached⟩

variable {σ : Type} (publish : Nat → Publisher σ)

theorem own_tell (held : ensemble.Holds number observer filter)
    (same : alone.Holds number observer filter) (event : Event) :
    Own number (ensemble.tell (recordingEach publish) event number)
      (alone.tell (fun _ => recording (publish number)) event number)
      fun _ _ calls => calls.length ≤ 1 := by
  simp only [tell, held.observer?_eq, held.filterOf_eq, same.observer?_eq, same.filterOf_eq,
    Observer.onEvent]
  cases observer.publication? filter event with
  | none => exact Own.nothing (Nat.zero_le 1)
  | some publication =>
      apply (Own.publication publish number publication).andThen
      rintro answer _ _ ⟨_, rfl⟩
      exact Own.nothing (Nat.le_refl 1)

theorem own_replay (held : ensemble.Holds number observer filter)
    (same : alone.Holds number observer filter) (replay : List Event) :
    Own number (replay.forM fun event => ensemble.tell (recordingEach publish) event number)
      (replay.forM fun event => alone.tell (fun _ => recording (publish number)) event number)
      fun _ _ _ => True := by
  induction replay with
  | nil => exact Own.nothing trivial
  | cons event rest inductionHypothesis =>
      apply (own_tell publish held same event).andThen
      intro _ _ _ _
      exact inductionHypothesis

end Ensemble

/-- Whether the observer has begun, as a number. -/
def ObserverPhase.begun : ObserverPhase → Nat
  | unattached => 0
  | attached | detached => 1

theorem ObserverPhase.begun_le_one (phase : ObserverPhase) : phase.begun ≤ 1 := by
  cases phase <;> decide

namespace Observer

/-- The registrations at a model that a step of one observer leads to. -/
def Step.registrations (number model : Nat) (step : Step) : List Nat :=
  match step.operation with
  | .attach at' _ => if at' = model ∧ step.attached then [number] else []
  | _ => []

/-- What has been done with one observer, among others and alone. -/
structure Performed (ensemble : Ensemble) (number : Nat) (observer : Observer)
    (operation : Operation) (next other : Ensemble) (calls : List Call) : Prop where
  spares : ensemble.Spares next number
  /-- The observer is the same in both; to attach, it must not have begun yet. -/
  alike : ∃ after filter, next.Holds number after filter ∧ other.Holds number after filter ∧
    ∀ model, observer.phase.begun + (Step.registrations number model ⟨operation, calls⟩).length ≤
      after.phase.begun
  registers : ∀ model registry, ensemble.models[model]? = some registry →
    next.models[model]? =
      some (⟨registry.observers ++ Step.registrations number model ⟨operation, calls⟩⟩ : Registry)

variable {σ : Type} (publish : Nat → Publisher σ) {ensemble alone : Ensemble} {number : Nat}
  {observer : Observer} {filter : Filter}

/-- A step that changes no observer and no filter, and registers nothing. -/
theorem Performed.unchanged (held : ensemble.Holds number observer filter)
    (same : alone.Holds number observer filter) {operation : Operation} {calls : List Call}
    (silent : ∀ model, Step.registrations number model ⟨operation, calls⟩ = []) :
    Performed ensemble number observer operation ensemble alone calls where
  spares := .refl ensemble number
  alike := by
    refine ⟨observer, filter, held, same, ?_⟩
    intro model
    rw [silent model]
    exact Nat.le_refl _
  registers model registry found := by rw [silent model, List.append_nil, found]

theorem own_changeFilter (held : ensemble.Holds number observer filter)
    (same : alone.Holds number observer filter) (operation : Operation)
    (change : Filter → Filter)
    (silent : ∀ model, Step.registrations number model ⟨operation, []⟩ = []) :
    Own (σ := σ) number (pure (ensemble.changeFilter number change))
      (pure (alone.changeFilter number change)) (Performed ensemble number observer operation) := by
  apply Own.nothing
  refine ⟨.changeFilter ensemble number change, ?_, ?_⟩
  · refine ⟨observer, change filter, held.changeFilter change, same.changeFilter change, ?_⟩
    intro model
    rw [silent model]
    exact Nat.le_refl _
  · intro model registry found
    rw [silent model, List.append_nil, ← found]
    unfold Ensemble.changeFilter
    split <;> rfl

theorem own_attach (held : ensemble.Holds number observer filter)
    (same : alone.Holds number observer filter) (model : Nat) (replay : List Event) :
    Own number ((Operation.attach model replay).perform (recordingEach publish) number ensemble)
      ((Operation.attach model replay).perform (fun _ => recording (publish number)) number alone)
      (Performed ensemble number observer (.attach model replay)) := by
  rcases observer with ⟨scope, phase⟩
  simp only [Operation.perform, Ensemble.attach, held.observer?_eq, same.observer?_eq]
  cases phase with
  | attached | detached =>
      exact Own.nothing (.unchanged held same (by simp [Step.registrations, Step.attached]))
  | unattached =>
      simp only [Observer.attach, bind_assoc]
      apply (Own.publication publish number scope.announcement).andThen
      rintro answer _ _ ⟨rfl, rfl⟩
      cases answer with
      | error error =>
          exact Own.nothing (.unchanged held same (by simp [Step.registrations, Step.attached]))
      | ok accepted =>
          simp only [pure_bind, bind_assoc]
          have attached := held.attached model
          have likewise := same.attached model
          apply (Ensemble.own_replay publish attached likewise replay).andThen
          intro _ _ calls _
          apply Own.nothing
          refine ⟨.attached ensemble number model _, ⟨_, filter, attached, likewise, ?_⟩, ?_⟩
          · intro other
            by_cases here : model = other <;>
              simp [Step.registrations, Step.attached, here, ObserverPhase.begun]
          · intro other registry found
            by_cases here : model = other <;>
              simp [Step.registrations, Step.attached, here, found, Ensemble.setObserver,
                Registry.register]

theorem own_perform (held : ensemble.Holds number observer filter)
    (same : alone.Holds number observer filter) (operation : Operation) :
    Own number (operation.perform (recordingEach publish) number ensemble)
      (operation.perform (fun _ => recording (publish number)) number alone)
      (Performed ensemble number observer operation) := by
  cases operation with
  | attach model replay => exact own_attach publish held same model replay
  | detach =>
      apply Own.nothing
      refine ⟨.detach ensemble number, ⟨_, filter, held.detach, same.detach, ?_⟩, ?_⟩
      · intro model
        cases observer.phase <;> simp [Step.registrations, ObserverPhase.begun]
      · intro model registry found
        rw [Ensemble.detach, held.observer?_eq]
        simpa [Step.registrations, Ensemble.setObserver] using found
  | tell event =>
      apply (Ensemble.own_tell publish held same event).andThen
      intro _ _ calls _
      exact Own.nothing (.unchanged held same fun _ => rfl)
  | setWhitelist paths => exact own_changeFilter held same _ _ fun _ => rfl
  | addPath path => exact own_changeFilter held same _ _ fun _ => rfl
  | useWhitelist => exact own_changeFilter held same _ _ fun _ => rfl
  | disableWhitelist => exact own_changeFilter held same _ _ fun _ => rfl
  | changeElsewhere change => exact own_changeFilter held same _ _ fun _ => rfl

theorem performAll_append {τ : Type} (publish : Nat → Publisher τ) (number : Nat)
    (operations more : List Operation) (ensemble : Ensemble) :
    performAll publish number (operations ++ more) ensemble =
      performAll publish number operations ensemble >>= performAll publish number more := by
  induction operations generalizing ensemble with
  | nil => rfl
  | cons operation rest inductionHypothesis =>
      rw [List.cons_append, performAll, performAll, bind_assoc]
      exact bind_congr fun next => inductionHypothesis next

/-- Nothing is done with an observer that there is not. -/
theorem Operation.perform_of_unknown {τ : Type} (publish : Nat → Publisher τ)
    (unknown : ensemble.observers[number]? = none) (operation : Operation) :
    operation.perform publish number ensemble = pure ensemble := by
  cases operation <;>
    simp [perform, Ensemble.attach, Ensemble.tell, Ensemble.detach, Ensemble.setWhitelist,
      Ensemble.changeFilter, Ensemble.observer?, unknown]

end Observer

end ShellBridge
