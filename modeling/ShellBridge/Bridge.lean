import ShellBridge.Configuration
import ShellBridge.Ensemble
import ShellBridge.Session
import ShellBridge.Text.Lines

/-!
Bridges.

A bridge connects with its broker, subscribes to its inbox and attaches its observer to the model,
which announces the scope.  Then every input line that reads as an event is told to the model.  When
the input ends the bridge disconnects.

A broker that cannot be reached does not stop a bridge: it goes on without an observer, and what it
reads is dropped.
-/

namespace ShellBridge

/-- What a bridge needs of its session; the states of the transport are of type `σ`. -/
structure Uplink (σ : Type) where
  connect : SessionOptions → StateM σ (Except SessionError Unit)
  subscribe : String → StateM σ (Except SessionError Unit)
  publish : Publisher σ
  disconnect : StateM σ Unit

/-- A bridge, with its only observer, filter and model. -/
structure Bridge where
  ensemble : Ensemble
  deriving DecidableEq

namespace Bridge

/-- The number of the observer, of its filter and of the model. -/
def only : Nat := 0

/-- A bridge whose observer is not attached. -/
def idle (configuration : Configuration) : Bridge :=
  let ensemble := ((Ensemble.empty.addFilter.addObserver configuration.scope only).addModel)
  ⟨ensemble.changeFilter only fun _ => configuration.filter⟩

/-- The event of an input line, without the blanks around it. -/
def eventOfLine? (line : String) : Option Event :=
  let text := Text.trim line
  if text = "" then none else (Event.parse (utf8 text)).toOption

variable {σ : Type} (uplink : Uplink σ)

/-- Attaches the observer to the model.  If the announcement fails it stays unattached. -/
def attach (bridge : Bridge) : StateM σ Bridge := do
  let (ensemble, _) ← bridge.ensemble.attach (fun _ => uplink.publish) only only []
  return ⟨ensemble⟩

/-- Connects, subscribes and announces.  Only a subscription that fails is a failure. -/
def start (configuration : Configuration) : StateM σ (Except Failure Bridge) := do
  let bridge := idle configuration
  match ← uplink.connect configuration.session with
  | .error _ => return .ok bridge
  | .ok () =>
      match ← uplink.subscribe configuration.bus.inbox with
      | .error fault => return .error ⟨"Failed to subscribe to I4.0 inbox", some fault.message⟩
      | .ok () => return .ok (← bridge.attach uplink)

/-- Tells the model of the event of an input line, if it is one. -/
def takeLine (bridge : Bridge) (line : String) : StateM σ Unit :=
  match eventOfLine? line with
  | some event => bridge.ensemble.notify (fun _ => uplink.publish) only event
  | none => return ()

def takeLines (bridge : Bridge) (lines : List String) : StateM σ Unit :=
  lines.forM (bridge.takeLine uplink)

/-- Runs a bridge on input lines.  However it ends, the session is given up. -/
def run (configuration : Configuration) (lines : List String) :
    StateM σ (Except Failure Unit) := do
  match ← start uplink configuration with
  | .error failure =>
      uplink.disconnect
      return .error failure
  | .ok bridge =>
      bridge.takeLines uplink lines
      uplink.disconnect
      return .ok ()

/-- Runs a bridge on a whole input. -/
def runOn (configuration : Configuration) (input : Bytes) : StateM σ (Except Failure Unit) :=
  run uplink configuration (Text.lines input)

end Bridge

/-- A bridge that was started, and whose input arrives in pieces. -/
structure RunningBridge where
  bridge : Bridge
  reader : Text.LineReader
  stopped : Bool
  deriving DecidableEq

namespace RunningBridge

def of (bridge : Bridge) : RunningBridge :=
  ⟨bridge, .start, false⟩

variable {σ : Type} (uplink : Uplink σ)

/-- Gives up the session, once. -/
def stop (running : RunningBridge) : StateM σ RunningBridge := do
  unless running.stopped do uplink.disconnect
  return { running with stopped := true }

/-- Takes a piece of the input.  A line that is not text ends the input. -/
def take (running : RunningBridge) (piece : Bytes) : StateM σ RunningBridge := do
  if running.stopped then return running
  let (reader, lines) := running.reader.take piece
  running.bridge.takeLines uplink lines
  let running := { running with reader := reader }
  if reader.ended then running.stop uplink else return running

/-- Takes the end of the input. -/
def finish (running : RunningBridge) : StateM σ RunningBridge := do
  unless running.stopped do running.bridge.takeLines uplink running.reader.finish
  running.stop uplink

end RunningBridge

end ShellBridge
