import ShellBridge.Bridge
import ShellBridge.Proofs.Observer.Run
import ShellBridge.Proofs.Text.Lines

/-!
What a bridge asks of its session.

A run is a fixed sequence of requests in which only the answers to the first three matter: to
connecting, to subscribing and to the announcement.  The lines of the input enter it by their
publications alone, and its last request is to disconnect.
-/

namespace ShellBridge

/-! ### The publications of an input -/

namespace Configuration

/-- The whitelist lets a path pass: it lists the path, up to normal forms, or lists nothing. -/
def Lists (configuration : Configuration) (path : String) : Prop :=
  configuration.whitelist = [] ∨
    ∃ listed ∈ configuration.whitelist, Path.normalize listed = Path.normalize path

instance (configuration : Configuration) (path : String) : Decidable (configuration.Lists path) :=
  inferInstanceAs (Decidable (_ ∨ ∃ listed ∈ configuration.whitelist, _))

/-- Events of submodels pass, events of elements if the whitelist lets their path pass. -/
def Passes (configuration : Configuration) : Event → Prop
  | .submodelAdded _ | .submodelRemoved _ => True
  | .elementAdded _ path _ | .elementRemoved _ path _ | .elementUpdated _ path _
  | .elementValueChanged _ path _ => configuration.Lists path

instance (configuration : Configuration) : (event : Event) → Decidable (configuration.Passes event)
  | .submodelAdded _ | .submodelRemoved _ => isTrue trivial
  | .elementAdded _ path _ | .elementRemoved _ path _ | .elementUpdated _ path _
  | .elementValueChanged _ path _ => inferInstanceAs (Decidable (configuration.Lists path))

/-- The publications for a line of the input: one, if the line reads, without the blanks around it,
as an event that lies in the scope and passes; none if it is blank or malformed, or if the event is
out of scope or held back. -/
def published (configuration : Configuration) (line : String) : List Publication :=
  match Bridge.eventOfLine? line with
  | some event =>
      if configuration.scope.Covers event.ids ∧ configuration.Passes event then
        [configuration.scope.publication event]
      else []
  | none => []

theorem passes_filter_iff (configuration : Configuration) (path : String) :
    configuration.filter.passes path = true ↔ configuration.Lists path := by
  rw [filter, Lists]
  cases listed : configuration.whitelist with
  | nil => simp [Filter.passes, Filter.disabled]
  | cons first rest =>
      simp only [Filter.passes, Filter.setWhitelist, Filter.enable, List.isEmpty_cons,
        Bool.false_eq_true, if_false, Bool.not_true, Bool.false_or, List.contains_iff_mem,
        TextSet.mem_toList_ofList, List.mem_map, reduceCtorEq, false_or]

theorem passes_iff (configuration : Configuration) (event : Event) :
    configuration.Passes event ↔ event.Passes configuration.filter := by
  cases event <;> simp [Passes, Event.Passes, passes_filter_iff]

/-- In the terms of an observer. -/
theorem published_eq (configuration : Configuration) (line : String) :
    configuration.published line =
      ((Bridge.eventOfLine? line).toList).flatMap
        (configuration.scope.published configuration.filter) := by
  rw [published]
  cases Bridge.eventOfLine? line with
  | none => rfl
  | some event => simp [ObserverScope.published, passes_iff]

/-- Blanks around a line make no difference. -/
theorem published_of_trim_eq (configuration : Configuration) {line other : String}
    (same : Text.trim line = Text.trim other) :
    configuration.published line = configuration.published other := by
  rw [published, published, Bridge.eventOfLine?, Bridge.eventOfLine?, same]

/-- A line that tells of a submodel of the standard shell. -/
def removalLine : String :=
  " \x7b\"kind\":\"submodel_removed\",\"ids\":" ++
    "\x7b\"shellId\":\"urn:example:aas:1\",\"submodelId\":\"s\"\x7d\x7d"

example : (standard "bridge").published removalLine =
    [(standard "bridge").scope.publication (.submodelRemoved ⟨standardShell, "s", none⟩)] := by
  decide +kernel

/-- The lines that a reader finds carry the publications of the lines that were written. -/
theorem flatMap_published_lines (configuration : Configuration) {lines : List String}
    {last : String} (plain : ∀ line ∈ lines, '\n' ∉ line.toList) (plainLast : '\n' ∉ last.toList) :
    (Text.lines (Text.joinLines lines last)).flatMap configuration.published =
      (lines ++ [last]).flatMap configuration.published := by
  have trimmed (line : String) :
      configuration.published (Text.withoutReturn line) = configuration.published line :=
    configuration.published_of_trim_eq (Text.trim_withoutReturn line)
  rw [Text.lines_joinLines plain plainLast, List.flatMap_append, List.flatMap_append,
    List.flatMap_map]
  simp only [trimmed]
  split
  next empty =>
    have blank : configuration.published "" = [] := rfl
    rw [empty, List.flatMap_singleton, blank]
    rfl
  next empty => rfl

end Configuration

/-! ### Requests and their answers -/

namespace Uplink

/-- A request of a bridge, and the answer. -/
inductive Call where
  | connect (options : SessionOptions) (answer : Except SessionError Unit)
  | subscribe (topic : String) (answer : Except SessionError Unit)
  | publish (call : ShellBridge.Call)
  | disconnect

variable {σ : Type}

/-- The session, with every request noted. -/
def recording (uplink : Uplink σ) : Uplink (σ × List Call) where
  connect options := fun (state, calls) =>
    let (answer, state) := uplink.connect options state
    (answer, state, calls ++ [.connect options answer])
  subscribe topic := fun (state, calls) =>
    let (answer, state) := uplink.subscribe topic state
    (answer, state, calls ++ [.subscribe topic answer])
  publish publication := fun (state, calls) =>
    let (answer, state) := uplink.publish publication state
    (answer, state, calls ++ [.publish ⟨publication, answer⟩])
  disconnect := fun (state, calls) =>
    let ((), state) := uplink.disconnect state
    ((), state, calls ++ [.disconnect])

section

variable {α : Type} (uplink : Uplink σ) (state : σ) (log : List Call)

theorem recording_connect (options : SessionOptions)
    (next : Except SessionError Unit → StateM (σ × List Call) α) :
    (uplink.recording.connect options >>= next) (state, log) =
      next (uplink.connect options state).1
        ((uplink.connect options state).2,
          log ++ [.connect options (uplink.connect options state).1]) :=
  rfl

theorem recording_subscribe (topic : String)
    (next : Except SessionError Unit → StateM (σ × List Call) α) :
    (uplink.recording.subscribe topic >>= next) (state, log) =
      next (uplink.subscribe topic state).1
        ((uplink.subscribe topic state).2,
          log ++ [.subscribe topic (uplink.subscribe topic state).1]) :=
  rfl

theorem recording_publish (publication : Publication)
    (next : Except PublishError Unit → StateM (σ × List Call) α) :
    (uplink.recording.publish publication >>= next) (state, log) =
      next (uplink.publish publication state).1
        ((uplink.publish publication state).2,
          log ++ [.publish ⟨publication, (uplink.publish publication state).1⟩]) :=
  rfl

end

/-- Publishes, whatever the answer. -/
def send (uplink : Uplink σ) (publication : Publication) : StateM σ Unit := do
  let _ ← uplink.publish publication

end Uplink

namespace Bridge

/-- How a run ends, and what it asks on the way, for the lines of an input. -/
inductive Course (configuration : Configuration) (lines : List String) :
    Except Failure Unit → List Uplink.Call → Prop
  /-- The broker is out of reach: nothing is published, and that is no failure. -/
  | unreachable (fault : SessionError) :
      Course configuration lines (.ok ())
        [.connect configuration.session (.error fault), .disconnect]
  /-- The subscription fails, and with it the run: nothing is published. -/
  | unsubscribed (fault : SessionError) :
      Course configuration lines
        (.error ⟨"Failed to subscribe to I4.0 inbox", some fault.message⟩)
        [.connect configuration.session (.ok ()),
          .subscribe configuration.bus.inbox (.error fault), .disconnect]
  /-- The announcement of the scope is refused: nothing else is published. -/
  | unannounced (refusal : PublishError) :
      Course configuration lines (.ok ())
        [.connect configuration.session (.ok ()), .subscribe configuration.bus.inbox (.ok ()),
          .publish ⟨configuration.scope.announcementOf, .error refusal⟩, .disconnect]
  /-- The publications of the lines follow the announcement in order, whatever is answered. -/
  | announced (calls : List Call)
      (published : calls.map Call.publication = lines.flatMap configuration.published) :
      Course configuration lines (.ok ())
        ([.connect configuration.session (.ok ()), .subscribe configuration.bus.inbox (.ok ()),
            .publish ⟨configuration.scope.announcementOf, .ok ()⟩] ++
          calls.map Uplink.Call.publish ++ [.disconnect])

variable {σ : Type} (uplink : Uplink σ) (configuration : Configuration)

/-- A bridge whose observer is attached. -/
def attached : Bridge :=
  ⟨[(⟨configuration.scope, .attached⟩, only)], [configuration.filter], [⟨[only]⟩]⟩

/-- A run, in the terms of the publications of its input. -/
def program (publications : List Publication) : StateM σ (Except Failure Unit) := do
  match ← uplink.connect configuration.session with
  | .error _ =>
      uplink.disconnect
      return .ok ()
  | .ok () =>
      match ← uplink.subscribe configuration.bus.inbox with
      | .error fault =>
          uplink.disconnect
          return .error ⟨"Failed to subscribe to I4.0 inbox", some fault.message⟩
      | .ok () =>
          match ← uplink.publish configuration.scope.announcementOf with
          | .error _ =>
              uplink.disconnect
              return .ok ()
          | .ok () =>
              publications.forM uplink.send
              uplink.disconnect
              return .ok ()

/-! ### Lines and their publications -/

/-- Without an observer, what is read is dropped. -/
theorem takeLines_idle (lines : List String) :
    (idle configuration).takeLines uplink lines = pure () := by
  induction lines with
  | nil => rfl
  | cons line rest inductionHypothesis =>
      have dropped : (idle configuration).takeLine uplink line = pure () := by
        rw [takeLine]
        split <;> rfl
      have opened : (idle configuration).takeLines uplink (line :: rest) =
          (idle configuration).takeLine uplink line >>=
            fun _ => (idle configuration).takeLines uplink rest := rfl
      rw [opened, dropped, pure_bind]
      exact inductionHypothesis

theorem notify_attached (event : Event) :
    (attached configuration).ensemble.notify (fun _ => uplink.publish) only event =
      (configuration.scope.published configuration.filter event).forM uplink.send := by
  have told := Observer.toList_publication? ⟨configuration.scope, .attached⟩
    configuration.filter event
  rw [if_pos rfl] at told
  have alone : (attached configuration).ensemble.notify (fun _ => uplink.publish) only event =
      Observer.onEvent uplink.publish ⟨configuration.scope, .attached⟩ configuration.filter
        event := rfl
  rw [alone, ← told, Observer.onEvent]
  cases Observer.publication? ⟨configuration.scope, .attached⟩ configuration.filter event with
  | none => rfl
  | some publication => rfl

theorem takeLine_attached (line : String) :
    (attached configuration).takeLine uplink line =
      (configuration.published line).forM uplink.send := by
  rw [takeLine, Configuration.published_eq]
  cases eventOfLine? line with
  | none => rfl
  | some event =>
      simp only [Option.toList_some, List.flatMap_cons, List.flatMap_nil, List.append_nil]
      exact notify_attached uplink configuration event

theorem takeLines_attached (lines : List String) :
    (attached configuration).takeLines uplink lines =
      (lines.flatMap configuration.published).forM uplink.send := by
  induction lines with
  | nil => rfl
  | cons line rest inductionHypothesis =>
      have opened : (attached configuration).takeLines uplink (line :: rest) =
          (attached configuration).takeLine uplink line >>=
            fun _ => (attached configuration).takeLines uplink rest := rfl
      rw [opened, takeLine_attached, inductionHypothesis, List.flatMap_cons]
      exact (List.forM_append).symm

theorem attach_idle :
    (idle configuration).attach uplink = do
      match ← uplink.publish configuration.scope.announcementOf with
      | .error _ => return idle configuration
      | .ok () => return attached configuration := by
  rw [← ObserverScope.announcement_eq]
  have alone : (idle configuration).ensemble.observer? only = some (.new configuration.scope) := rfl
  rw [attach, Ensemble.attach, alone]
  simp only [Observer.attach, Observer.new, bind_assoc]
  apply bind_congr
  intro answer
  cases answer with
  | error refusal => rfl
  | ok accepted => rfl

theorem idle_ne_attached : idle configuration ≠ attached configuration := by
  intro same
  have phases := congrArg (fun bridge : Bridge => bridge.ensemble.observer? only) same
  cases phases

/-- A bridge that was started is idle, or attached, and then its session has accepted the
connection, the subscription and the announcement. -/
theorem start_eq_ok {state middle : σ} {bridge : Bridge}
    (started : start uplink configuration state = (.ok bridge, middle)) :
    bridge = idle configuration ∨
      bridge = attached configuration ∧ ∃ connected subscribed,
        uplink.connect configuration.session state = (.ok (), connected) ∧
          uplink.subscribe configuration.bus.inbox connected = (.ok (), subscribed) ∧
          uplink.publish configuration.scope.announcementOf subscribed = (.ok (), middle) := by
  rw [start, bind_apply] at started
  rcases connects : uplink.connect configuration.session state with ⟨_ | _, connected⟩
  · rw [connects] at started
    exact .inl (Except.ok.inj (Prod.mk.inj started).1).symm
  rw [connects] at started
  dsimp only at started
  rw [bind_apply] at started
  rcases subscribes : uplink.subscribe configuration.bus.inbox connected with ⟨_ | _, subscribed⟩
  · rw [subscribes] at started
    cases (Prod.mk.inj started).1
  rw [subscribes] at started
  dsimp only at started
  rw [attach_idle, bind_apply, bind_apply] at started
  rcases announces : uplink.publish configuration.scope.announcementOf subscribed with
    ⟨_ | _, announced⟩
  · rw [announces] at started
    exact .inl (Except.ok.inj (Prod.mk.inj started).1).symm
  rw [announces] at started
  obtain ⟨same, last⟩ := Prod.mk.inj started
  have last : announced = middle := last
  rw [last] at announces
  exact .inr ⟨(Except.ok.inj same).symm, connected, subscribed, rfl, subscribes, announces⟩

theorem takeLines_append (bridge : Bridge) (lines more : List String) :
    bridge.takeLines uplink (lines ++ more) = (do
      bridge.takeLines uplink lines
      bridge.takeLines uplink more) :=
  List.forM_append

/-! ### Runs -/

/-- Of the lines of an input only their publications matter. -/
theorem run_eq_program (lines : List String) :
    run uplink configuration lines =
      program uplink configuration (lines.flatMap configuration.published) := by
  rw [run, start, program]
  simp only [bind_assoc]
  apply bind_congr
  intro connected
  cases connected with
  | error fault =>
      rw [pure_bind]
      change ((idle configuration).takeLines uplink lines >>= fun _ => _) = _
      rw [takeLines_idle, pure_bind]
  | ok accepted =>
      rw [bind_assoc]
      apply bind_congr
      intro subscribed
      cases subscribed with
      | error fault => rfl
      | ok accepted =>
          dsimp only
          rw [attach_idle]
          simp only [bind_assoc]
          apply bind_congr
          intro announced
          cases announced with
          | error refusal =>
              simp only [pure_bind, takeLines_idle]
          | ok accepted =>
              simp only [pure_bind, takeLines_attached]

theorem recording_send (publications : List Publication) (state : σ) (log : List Uplink.Call) :
    ∃ (after : σ) (calls : List Call),
      publications.forM uplink.recording.send (state, log) =
          ((), after, log ++ calls.map Uplink.Call.publish) ∧
        calls.map Call.publication = publications := by
  induction publications generalizing state log with
  | nil => exact ⟨state, [], by rw [List.map_nil, List.append_nil]; rfl, rfl⟩
  | cons publication rest inductionHypothesis =>
      obtain ⟨after, calls, sent, published⟩ :=
        inductionHypothesis (uplink.publish publication state).2
          (log ++ [.publish ⟨publication, (uplink.publish publication state).1⟩])
      refine ⟨after, ⟨publication, (uplink.publish publication state).1⟩ :: calls, ?_, ?_⟩
      · rw [List.map_cons, List.append_cons]
        exact sent
      · rw [List.map_cons, published]

/-- The requests of a run, with their answers, are one of the courses. -/
theorem program_course (lines : List String) (state : σ) :
    ∃ result after calls,
      program uplink.recording configuration (lines.flatMap configuration.published) (state, []) =
          (result, after, calls) ∧
        Course configuration lines result calls := by
  rw [program, uplink.recording_connect]
  cases (uplink.connect configuration.session state).1 with
  | error fault => exact ⟨_, _, _, rfl, .unreachable fault⟩
  | ok accepted =>
      dsimp only
      rw [uplink.recording_subscribe]
      cases (uplink.subscribe configuration.bus.inbox _).1 with
      | error fault => exact ⟨_, _, _, rfl, .unsubscribed fault⟩
      | ok accepted =>
          dsimp only
          rw [uplink.recording_publish]
          cases (uplink.publish configuration.scope.announcementOf _).1 with
          | error refusal => exact ⟨_, _, _, rfl, .unannounced refusal⟩
          | ok accepted =>
              dsimp only
              obtain ⟨middle, calls, sent, published⟩ := recording_send uplink
                (lines.flatMap configuration.published) _ _
              refine ⟨_, (uplink.disconnect middle).2, _, ?_, .announced calls published⟩
              rw [bind_apply, sent]
              rfl

/-- The last request of a run is to disconnect. -/
theorem exists_disconnect (lines : List String) (state : σ) :
    ∃ before, (run uplink configuration lines state).2 = (uplink.disconnect before).2 := by
  rw [run, bind_apply]
  cases (start uplink configuration state).1 with
  | error failure => exact ⟨_, rfl⟩
  | ok bridge => exact ⟨_, rfl⟩

end Bridge

end ShellBridge
