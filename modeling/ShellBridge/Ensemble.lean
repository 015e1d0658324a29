import ShellBridge.Observer

/-!
Several observers on several models.

Observers, filters and models are referred to by their numbers.  Observers may share a filter.  A
model tells every event to the observers that registered with it, in the order of registration.
-/

namespace ShellBridge

/-- The observers that registered with a model, by their numbers. -/
structure Registry where
  observers : List Nat
  deriving DecidableEq, Repr

namespace Registry

def empty : Registry := ⟨[]⟩

def register (registry : Registry) (observer : Nat) : Registry :=
  ⟨registry.observers ++ [observer]⟩

def size (registry : Registry) : Nat :=
  registry.observers.length

def isEmpty (registry : Registry) : Bool :=
  registry.observers.isEmpty

def description (registry : Registry) : String :=
  "ObserverRegistry \x7b observers: " ++ toString registry.size ++ " \x7d"

end Registry

structure Ensemble where
  /-- Each observer with the number of its filter. -/
  observers : List (Observer × Nat)
  filters : List Filter
  models : List Registry
  deriving DecidableEq

namespace Ensemble

def empty : Ensemble := ⟨[], [], []⟩

/-- Adds a filter that everything passes; its number is the former count. -/
def addFilter (ensemble : Ensemble) : Ensemble :=
  { ensemble with filters := ensemble.filters ++ [.disabled] }

/-- Adds an unattached observer; its number is the former count. -/
def addObserver (ensemble : Ensemble) (scope : ObserverScope) (filter : Nat) : Ensemble :=
  { ensemble with observers := ensemble.observers ++ [(.new scope, filter)] }

/-- Adds a model without observers; its number is the former count. -/
def addModel (ensemble : Ensemble) : Ensemble :=
  { ensemble with models := ensemble.models ++ [.empty] }

/-- The filter of a number; one that was never added lets everything pass. -/
def filter (ensemble : Ensemble) (number : Nat) : Filter :=
  ensemble.filters.getD number .disabled

def observer? (ensemble : Ensemble) (number : Nat) : Option Observer :=
  (ensemble.observers[number]?).map Prod.fst

/-- The filter of an observer. -/
def filterOf (ensemble : Ensemble) (number : Nat) : Filter :=
  match ensemble.observers[number]? with
  | some (_, filter) => ensemble.filter filter
  | none => .disabled

def model (ensemble : Ensemble) (number : Nat) : Registry :=
  ensemble.models.getD number .empty

def setObserver (ensemble : Ensemble) (number : Nat) (observer : Observer) : Ensemble :=
  { ensemble with observers := ensemble.observers.modify number fun (_, f) => (observer, f) }

/-- Changes the filter of an observer, for all observers that share it. -/
def changeFilter (ensemble : Ensemble) (number : Nat) (change : Filter → Filter) : Ensemble :=
  match ensemble.observers[number]? with
  | some (_, filter) => { ensemble with filters := ensemble.filters.modify filter change }
  | none => ensemble

/-- Lists the given paths and no others, and turns the filter on. -/
def setWhitelist (ensemble : Ensemble) (number : Nat) (paths : List String) : Ensemble :=
  ensemble.changeFilter number fun filter => (filter.setWhitelist paths).enable

def detach (ensemble : Ensemble) (number : Nat) : Ensemble :=
  match ensemble.observer? number with
  | some observer => ensemble.setObserver number observer.detach
  | none => ensemble

variable {σ : Type} (publish : Nat → Publisher σ)

/-- Tells one observer of an event. -/
def tell (ensemble : Ensemble) (event : Event) (number : Nat) : StateM σ Unit :=
  match ensemble.observer? number with
  | some observer => observer.onEvent (publish number) (ensemble.filterOf number) event
  | none => return ()

/-- Tells the observers of a model of an event, in the order of registration. -/
def notify (ensemble : Ensemble) (model : Nat) (event : Event) : StateM σ Unit :=
  (ensemble.model model).observers.forM (ensemble.tell publish event)

/-- Attaches an observer and registers it with a model, which may tell it of events at once. -/
def attach (ensemble : Ensemble) (number model : Nat) (replay : List Event) :
    StateM σ (Ensemble × Except AttachError Unit) :=
  match ensemble.observer? number with
  | none => return (ensemble, .ok ())
  | some observer => do
      match ← observer.attach (publish number) with
      | .error error => return (ensemble, .error error)
      | .ok attached =>
          let ensemble := ensemble.setObserver number attached
          let ensemble :=
            { ensemble with models := ensemble.models.modify model (·.register number) }
          replay.forM fun event => ensemble.tell publish event number
          return (ensemble, .ok ())

end Ensemble

end ShellBridge
