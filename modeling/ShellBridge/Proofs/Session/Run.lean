import ShellBridge.Exchange

/-!
Runs of the owner of a session.

Calls to an owner, and what happens to its attempts and sessions, are actions; a run is any sequence
of them, so attempts and sessions overlap in every way.  An action that may ask something of the
transport carries the answer that it would get.
-/

namespace ShellBridge.SessionOwner

/-- Calls to an owner, and what happens to its attempts and sessions. -/
inductive Action (η : Type) where
  /-- A call to connect, up to the point where it is answered or its attempt waits for a broker. -/
  | connect (options : SessionOptions)
  /-- An attempt ends: it succeeds, fails, takes too long or is given up. -/
  | conclude (number : Nat) (conclusion : Exchange.Conclusion)
  | subscribe (topic : String) (answer : Except String Unit)
  | publish (publication : Publication) (answer : Except String Unit)
  | disconnect (answer : Except String Unit)
  | report (generation : Nat) (report : Report)
  | setHandler (handler : η)

def Action.isDisconnect {η : Type} : Action η → Bool
  | .disconnect _ => true
  | _ => false

/-- What an owner asks of the outside. -/
inductive Contact where
  /-- A broker is asked for a session, over a connection of its own. -/
  | dialed (number : Nat) (options : SessionOptions)
  /-- A request is handed to the transport of the session of a generation. -/
  | asked (generation : Nat) (request : Request)
  deriving DecidableEq

/-- What a caller is told at once. -/
inductive Answer where
  | connect (result : Except SessionError Begun)
  | subscribe (result : Except SessionError Unit)
  | publish (result : Except PublishError Unit)
  | none

structure Outcome where
  answer : Answer
  contacts : List Contact

def Outcome.silent : Outcome :=
  ⟨.none, []⟩

/-- A transport that gives one answer, and notes what it is asked. -/
def noting (answer : Except String Unit) : Transport (List Contact) :=
  fun generation request contacts => (answer, contacts ++ [.asked generation request])

variable {η : Type}

/-- The end of an attempt. -/
def conclude (owner : SessionOwner η) (number : Nat) : Exchange.Conclusion → SessionOwner η
  | .connected => (owner.establish number).1
  | .failed _ | .cancelled => owner.abandon number

def perform (owner : SessionOwner η) : Action η → SessionOwner η × Outcome
  | .connect options =>
      match owner.begin options with
      | (next, .ok (.attempt number)) =>
          (next, ⟨.connect (.ok (.attempt number)), [.dialed number options]⟩)
      | (next, result) => (next, ⟨.connect result, []⟩)
  | .conclude number conclusion => (owner.conclude number conclusion, .silent)
  | .subscribe topic answer =>
      let ((next, result), contacts) := owner.subscribe (noting answer) topic []
      (next, ⟨.subscribe result, contacts⟩)
  | .publish publication answer =>
      let (result, contacts) := owner.publish (noting answer) publication []
      (owner, ⟨.publish result, contacts⟩)
  | .disconnect answer =>
      let (next, contacts) := owner.disconnect (noting answer) []
      (next, ⟨.none, contacts⟩)
  | .report generation report => ((owner.report generation report).1, .silent)
  | .setHandler handler => (owner.setHandler handler, .silent)

def next (owner : SessionOwner η) (action : Action η) : SessionOwner η :=
  (owner.perform action).1

/-- The owner after the actions. -/
def run (owner : SessionOwner η) (actions : List (Action η)) : SessionOwner η :=
  actions.foldl next owner

/-- What the actions lead to, one after the other. -/
def outcomes (owner : SessionOwner η) : List (Action η) → List Outcome
  | [] => []
  | action :: rest => (owner.perform action).2 :: outcomes (owner.next action) rest

/-- No call to disconnect comes while an attempt is under way. -/
def Calm (owner : SessionOwner η) (actions : List (Action η)) : Prop :=
  ∀ before answer after, actions = before ++ .disconnect answer :: after →
    (owner.run before).attempts = []

@[simp] theorem run_nil (owner : SessionOwner η) : owner.run [] = owner := rfl

@[simp] theorem run_cons (owner : SessionOwner η) (action : Action η) (rest : List (Action η)) :
    owner.run (action :: rest) = (owner.next action).run rest := rfl

theorem run_append (owner : SessionOwner η) (first second : List (Action η)) :
    owner.run (first ++ second) = (owner.run first).run second :=
  List.foldl_append

theorem run_concat (owner : SessionOwner η) (actions : List (Action η)) (last : Action η) :
    owner.run (actions ++ [last]) = (owner.run actions).next last := by
  rw [run_append, run_cons, run_nil]

theorem calm_nil (owner : SessionOwner η) : owner.Calm [] := by
  intro before answer after split
  simp at split

theorem calm_cons_iff {owner : SessionOwner η} {action : Action η} {rest : List (Action η)} :
    owner.Calm (action :: rest) ↔
      (action.isDisconnect = true → owner.attempts = []) ∧ (owner.next action).Calm rest := by
  constructor
  · intro calm
    constructor
    · intro disconnects
      cases action with
      | disconnect answer => exact calm [] answer rest rfl
      | connect | conclude | subscribe | publish | report | setHandler => cases disconnects
    · intro before answer after split
      exact calm (action :: before) answer after (by rw [split]; rfl)
  · rintro ⟨first, later⟩ before answer after split
    cases before with
    | nil =>
        obtain ⟨rfl, -⟩ := List.cons.inj split
        exact first rfl
    | cons earlier before =>
        obtain ⟨rfl, remaining⟩ := List.cons.inj split
        exact later before answer after remaining

/-- What begins a calm run is calm. -/
theorem Calm.of_append {owner : SessionOwner η} {first second : List (Action η)}
    (calm : owner.Calm (first ++ second)) : owner.Calm first := by
  intro before answer after split
  exact calm before answer (after ++ second) (by rw [split, List.append_assoc]; rfl)

instance decidableCalm : (owner : SessionOwner η) → (actions : List (Action η)) →
    Decidable (owner.Calm actions)
  | owner, [] => isTrue (calm_nil owner)
  | owner, action :: rest =>
      have := decidableCalm (owner.next action) rest
      decidable_of_iff _ calm_cons_iff.symm

/-! ### What an action does

One equation for each state of the place for a session that the action tells apart. -/

section Steps

variable (owner : SessionOwner η)

theorem slot_eq_of_session? {session : Session} (found : owner.session? = some session) :
    owner.slot = .occupied session := by
  rw [session?] at found
  cases slot : owner.slot with
  | vacant | reserved =>
      rw [slot] at found
      cases found
  | occupied current =>
      rw [slot] at found
      rw [← Option.some.inj found]

section Connect

variable (options : SessionOptions)

theorem perform_connect_of_vacant (vacant : owner.slot = .vacant) :
    owner.perform (.connect options) =
      ({ owner with
          slot := .reserved
          begun := owner.begun + 1
          attempts := owner.attempts ++ [⟨owner.begun + 1, options⟩] },
        ⟨.connect (.ok (.attempt (owner.begun + 1))), [.dialed (owner.begun + 1) options]⟩) := by
  simp [perform, begin, vacant]

theorem perform_connect_of_reserved (reserved : owner.slot = .reserved) :
    owner.perform (.connect options) = (owner, ⟨.connect (.error .inProgress), []⟩) := by
  simp [perform, begin, reserved]

theorem perform_connect_of_occupied {session : Session}
    (occupied : owner.slot = .occupied session) :
    owner.perform (.connect options) =
      (owner,
        if options = session.options then ⟨.connect (.ok .alreadyConnected), []⟩
        else
          ⟨.connect (.error (.alreadyConnected session.options.broker session.options.clientId)),
            []⟩) := by
  by_cases same : options = session.options
  · simp [perform, begin, occupied, same]
  · simp [perform, begin, occupied, same, Ne.symm same]

end Connect

section Conclude

variable {number : Nat} {attempt : Attempt}

theorem conclude_of_unknown (unknown : owner.attempt? number = none)
    (conclusion : Exchange.Conclusion) : owner.conclude number conclusion = owner := by
  cases conclusion <;> simp [conclude, establish, abandon, unknown]

theorem conclude_connected (found : owner.attempt? number = some attempt) :
    owner.conclude number .connected =
      { owner.endAttempt number with
        slot := .occupied ⟨attempt.options, none, owner.generations + 1⟩
        generations := owner.generations + 1
        deliveries := owner.deliveries ++ [⟨owner.generations + 1, attempt.options.broker⟩] } := by
  simp [conclude, establish, found]

/-- An attempt that ends without a session frees the place if it is reserved, by whomever. -/
theorem conclude_of_ne_connected (found : owner.attempt? number = some attempt)
    {conclusion : Exchange.Conclusion} (ends : conclusion ≠ .connected) :
    owner.conclude number conclusion =
      { owner.endAttempt number with
        slot := if owner.slot = .reserved then .vacant else owner.slot } := by
  have abandoned : owner.abandon number =
      { owner.endAttempt number with
        slot := if owner.slot = .reserved then .vacant else owner.slot } := by
    by_cases reserved : owner.slot = .reserved <;>
      simp [abandon, found, endAttempt, reserved]
  cases conclusion with
  | connected => exact absurd rfl ends
  | failed fault => exact abandoned
  | cancelled => exact abandoned

end Conclude

section Subscribe

variable (topic : String) (answer : Except String Unit) {session : Session}

theorem perform_subscribe_of_absent (absent : owner.session? = none) :
    owner.perform (.subscribe topic answer) =
      (owner, ⟨.subscribe (.error .notConnected), []⟩) := by
  unfold perform subscribe
  cases slot : owner.slot with
  | vacant | reserved => rfl
  | occupied session => simp [session?, slot, Slot.session?] at absent

theorem perform_subscribe_of_subscribed {existing : String}
    (occupied : owner.slot = .occupied session)
    (subscribed : session.subscription = some existing) :
    owner.perform (.subscribe topic answer) =
      (owner,
        if topic = existing then ⟨.subscribe (.ok ()), []⟩
        else ⟨.subscribe (.error (.alreadySubscribed existing)), []⟩) := by
  by_cases same : topic = existing
  · simp [perform, subscribe, occupied, subscribed, same]
    rfl
  · simp [perform, subscribe, occupied, subscribed, same, Ne.symm same]
    rfl

theorem perform_subscribe_of_unsubscribed (occupied : owner.slot = .occupied session)
    (unsubscribed : session.subscription = none) :
    owner.perform (.subscribe topic answer) =
      (if answer.isOk then
          { owner with slot := .occupied { session with subscription := some topic } }
        else owner,
        ⟨.subscribe (answer.mapError .subscription),
          [.asked session.generation (.subscribe topic)]⟩) := by
  unfold perform subscribe
  simp only [occupied, unsubscribed]
  cases answer <;> rfl

end Subscribe

section Publish

variable (publication : Publication) (answer : Except String Unit)

theorem perform_publish_of_absent (absent : owner.session? = none) :
    owner.perform (.publish publication answer) =
      (owner, ⟨.publish (.error .notConnected), []⟩) := by
  unfold perform publish
  cases slot : owner.slot with
  | vacant | reserved => rfl
  | occupied session => simp [session?, slot, Slot.session?] at absent

theorem perform_publish_of_occupied {session : Session}
    (occupied : owner.slot = .occupied session) :
    owner.perform (.publish publication answer) =
      (owner,
        ⟨.publish (answer.mapError .transport),
          [.asked session.generation (.publish publication)]⟩) := by
  unfold perform publish
  simp only [occupied]
  cases answer <;> rfl

end Publish

section Disconnect

variable (answer : Except String Unit)

theorem perform_disconnect_of_absent (absent : owner.session? = none) :
    owner.perform (.disconnect answer) = ({ owner with slot := .vacant }, .silent) := by
  unfold perform disconnect
  cases slot : owner.slot with
  | vacant | reserved => rfl
  | occupied session => simp [session?, slot, Slot.session?] at absent

theorem perform_disconnect_of_occupied {session : Session}
    (occupied : owner.slot = .occupied session) :
    owner.perform (.disconnect answer) =
      ({ owner with slot := .vacant },
        ⟨.none, [.asked session.generation .disconnect]⟩) := by
  unfold perform disconnect
  simp only [occupied]
  rfl

theorem next_disconnect : owner.next (.disconnect answer) = { owner with slot := .vacant } := by
  rw [next]
  cases found : owner.session? with
  | none => rw [owner.perform_disconnect_of_absent answer found]
  | some session =>
      rw [owner.perform_disconnect_of_occupied answer (owner.slot_eq_of_session? found)]

end Disconnect

section Report

variable {generation : Nat} {delivery : Delivery}

theorem next_report_of_unknown (unknown : owner.delivery? generation = none) (report : Report) :
    owner.next (.report generation report) = owner := by
  simp [next, perform, SessionOwner.report, unknown]

/-- What a broker sends is passed on, and ends nothing. -/
theorem next_report_of_passed {report : Report} (open_ : report ≠ .closed)
    (sound : ∀ cause, report ≠ .failed cause) :
    owner.next (.report generation report) = owner := by
  simp only [next, perform]
  unfold SessionOwner.report
  cases found : owner.delivery? generation with
  | none => rfl
  | some delivery =>
      cases report with
      | arrived topic payload => rfl
      | acknowledged packet => rfl
      | closed => exact absurd rfl open_
      | failed cause => exact absurd rfl (sound cause)

theorem next_report_closed (found : owner.delivery? generation = some delivery) :
    owner.next (.report generation .closed) = owner.endDelivery generation := by
  simp [next, perform, SessionOwner.report, found]

/-- A loss frees the place only from the session of the delivery task that tells of it. -/
theorem next_report_failed (found : owner.delivery? generation = some delivery) (cause : String) :
    owner.next (.report generation (.failed cause)) =
      { owner.endDelivery generation with
        slot :=
          if owner.session?.any (·.generation = generation) then .vacant else owner.slot } := by
  simp only [next, perform, SessionOwner.report, found]
  split <;> rfl

end Report

@[simp] theorem delivery?_endDelivery (generation : Nat) :
    (owner.endDelivery generation).delivery? generation = none := by
  simp [delivery?, endDelivery]

theorem delivery?_endDelivery_of_ne {generation ended : Nat} (other : generation ≠ ended) :
    (owner.endDelivery ended).delivery? generation = owner.delivery? generation := by
  simp only [delivery?, endDelivery, List.find?_filter]
  congr 1
  funext delivery
  by_cases same : delivery.generation = generation
  · simp [same, other]
  · simp [same]

end Steps

/-- What an action may change, and when. -/
inductive Change (owner : SessionOwner η) : Action η → SessionOwner η → Prop
  | nothing {action : Action η} : Change owner action owner
  | begins (options : SessionOptions) (vacant : owner.slot = .vacant) :
      Change owner (.connect options)
        { owner with
          slot := .reserved
          begun := owner.begun + 1
          attempts := owner.attempts ++ [⟨owner.begun + 1, options⟩] }
  | succeeds {number : Nat} {attempt : Attempt} (found : owner.attempt? number = some attempt) :
      Change owner (.conclude number .connected)
        { owner.endAttempt number with
          slot := .occupied ⟨attempt.options, none, owner.generations + 1⟩
          generations := owner.generations + 1
          deliveries := owner.deliveries ++ [⟨owner.generations + 1, attempt.options.broker⟩] }
  | ends {number : Nat} {attempt : Attempt} {conclusion : Exchange.Conclusion}
      (found : owner.attempt? number = some attempt) (sessionless : conclusion ≠ .connected) :
      Change owner (.conclude number conclusion)
        { owner.endAttempt number with
          slot := if owner.slot = .reserved then .vacant else owner.slot }
  | subscribes {session : Session} (occupied : owner.slot = .occupied session) (topic : String)
      (answer : Except String Unit) :
      Change owner (.subscribe topic answer)
        { owner with slot := .occupied { session with subscription := some topic } }
  | disconnects (answer : Except String Unit) :
      Change owner (.disconnect answer) { owner with slot := .vacant }
  /-- A delivery task ends by itself. -/
  | stops (generation : Nat) (report : Report) :
      Change owner (.report generation report) (owner.endDelivery generation)
  /-- A delivery task ends together with its session. -/
  | loses {session : Session} (occupied : owner.slot = .occupied session) (cause : String) :
      Change owner (.report session.generation (.failed cause))
        { owner.endDelivery session.generation with slot := .vacant }
  | installs (handler : η) : Change owner (.setHandler handler) (owner.setHandler handler)

namespace Change

variable (owner : SessionOwner η)

theorem connect (options : SessionOptions) :
    Change owner (.connect options) (owner.next (.connect options)) := by
  rw [next]
  cases slot : owner.slot with
  | vacant =>
      rw [owner.perform_connect_of_vacant options slot]
      exact .begins options slot
  | reserved =>
      rw [owner.perform_connect_of_reserved options slot]
      exact .nothing
  | occupied session =>
      rw [owner.perform_connect_of_occupied options slot]
      exact .nothing

theorem conclude (number : Nat) (conclusion : Exchange.Conclusion) :
    Change owner (.conclude number conclusion) (owner.next (.conclude number conclusion)) := by
  rw [next, perform]
  cases found : owner.attempt? number with
  | none =>
      rw [owner.conclude_of_unknown found]
      exact .nothing
  | some attempt =>
      by_cases succeeds : conclusion = .connected
      · subst succeeds
        rw [owner.conclude_connected found]
        exact .succeeds found
      · rw [owner.conclude_of_ne_connected found succeeds]
        exact .ends found succeeds

theorem subscribe (topic : String) (answer : Except String Unit) :
    Change owner (.subscribe topic answer) (owner.next (.subscribe topic answer)) := by
  rw [next]
  cases found : owner.session? with
  | none =>
      rw [owner.perform_subscribe_of_absent topic answer found]
      exact .nothing
  | some session =>
      have occupied := owner.slot_eq_of_session? found
      cases subscription : session.subscription with
      | some existing =>
          rw [owner.perform_subscribe_of_subscribed topic answer occupied subscription]
          exact .nothing
      | none =>
          rw [owner.perform_subscribe_of_unsubscribed topic answer occupied subscription]
          cases answer with
          | error reason => exact .nothing
          | ok accepted => exact .subscribes occupied topic (.ok accepted)

theorem report (generation : Nat) (report : Report) :
    Change owner (.report generation report) (owner.next (.report generation report)) := by
  cases found : owner.delivery? generation with
  | none =>
      rw [owner.next_report_of_unknown found]
      exact .nothing
  | some delivery =>
      cases report with
      | arrived topic payload =>
          rw [owner.next_report_of_passed (by simp) (by simp)]
          exact .nothing
      | acknowledged packet =>
          rw [owner.next_report_of_passed (by simp) (by simp)]
          exact .nothing
      | closed =>
          rw [owner.next_report_closed found]
          exact .stops generation .closed
      | failed cause =>
          rw [owner.next_report_failed found]
          split
          next mine =>
            cases located : owner.session? with
            | none =>
                rw [located] at mine
                cases mine
            | some session =>
                have named : session.generation = generation := by simpa [located] using mine
                rw [← named]
                exact .loses (owner.slot_eq_of_session? located) cause
          next elsewhere => exact .stops generation (.failed cause)

end Change

/-- Whatever is done to an owner, it changes in one of these ways. -/
theorem change_next (owner : SessionOwner η) (action : Action η) :
    Change owner action (owner.next action) := by
  cases action with
  | connect options => exact Change.connect owner options
  | conclude number conclusion => exact Change.conclude owner number conclusion
  | subscribe topic answer => exact Change.subscribe owner topic answer
  | publish publication answer => exact .nothing
  | disconnect answer =>
      rw [owner.next_disconnect answer]
      exact .disconnects answer
  | report generation report => exact Change.report owner generation report
  | setHandler handler => exact .installs handler

end ShellBridge.SessionOwner
