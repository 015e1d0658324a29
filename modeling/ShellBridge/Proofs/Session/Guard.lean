import ShellBridge.Proofs.Session.Run

/-!
The guard of a session.

A guard is in one phase at a time, so it has at most one attempt under way, and none beside a
session.  An owner keeps its place, its attempts and its delivery tasks apart.  As long as no call
to disconnect comes while an attempt is under way, the owner does what the guard does: it gives the
same answers, asks the same of the outside, and its place and attempts are those of the phase.
-/

namespace ShellBridge.SessionOwner

inductive Phase where
  | disconnected
  | connecting (number : Nat) (options : SessionOptions)
  /-- There is a session, and its delivery task goes on or has ended. -/
  | connected (session : Session) (delivering : Bool)

structure Guard where
  phase : Phase
  /-- How many attempts were begun. -/
  begun : Nat
  /-- How many sessions were established. -/
  established : Nat

namespace Guard

def start : Guard :=
  ⟨.disconnected, 0, 0⟩

def slot (guard : Guard) : Slot :=
  match guard.phase with
  | .disconnected => .vacant
  | .connecting _ _ => .reserved
  | .connected session _ => .occupied session

/-- The attempts under way: one, or none. -/
def attempts (guard : Guard) : List Attempt :=
  match guard.phase with
  | .connecting number options => [⟨number, options⟩]
  | .disconnected | .connected _ _ => []

variable {η : Type}

def next (guard : Guard) : Action η → Guard
  | .connect options =>
      match guard.phase with
      | .disconnected =>
          { guard with
            phase := .connecting (guard.begun + 1) options
            begun := guard.begun + 1 }
      | .connecting _ _ | .connected _ _ => guard
  | .conclude number conclusion =>
      match guard.phase with
      | .connecting current options =>
          if number = current then
            match conclusion with
            | .connected =>
                { guard with
                  phase := .connected ⟨options, none, guard.established + 1⟩ true
                  established := guard.established + 1 }
            | .failed _ | .cancelled => { guard with phase := .disconnected }
          else guard
      | .disconnected | .connected _ _ => guard
  | .subscribe topic answer =>
      match guard.phase, answer with
      | .connected ⟨options, none, generation⟩ delivering, .ok () =>
          { guard with phase := .connected ⟨options, some topic, generation⟩ delivering }
      | _, _ => guard
  | .disconnect _ => { guard with phase := .disconnected }
  | .report generation report =>
      match guard.phase, report with
      | .connected session true, .failed _ =>
          if generation = session.generation then { guard with phase := .disconnected } else guard
      | .connected session true, .closed =>
          if generation = session.generation then
            { guard with phase := .connected session false }
          else guard
      | _, _ => guard
  | .publish _ _ | .setHandler _ => guard

/-- What a caller is told, and what is asked of the outside. -/
def outcome (guard : Guard) : Action η → Outcome
  | .connect options =>
      match guard.phase with
      | .disconnected =>
          ⟨.connect (.ok (.attempt (guard.begun + 1))), [.dialed (guard.begun + 1) options]⟩
      | .connecting _ _ => ⟨.connect (.error .inProgress), []⟩
      | .connected session _ =>
          if options = session.options then ⟨.connect (.ok .alreadyConnected), []⟩
          else
            ⟨.connect (.error
              (.alreadyConnected session.options.broker session.options.clientId)), []⟩
  | .subscribe topic answer =>
      match guard.phase with
      | .connected ⟨_, some existing, _⟩ _ =>
          if topic = existing then ⟨.subscribe (.ok ()), []⟩
          else ⟨.subscribe (.error (.alreadySubscribed existing)), []⟩
      | .connected ⟨_, none, generation⟩ _ =>
          ⟨.subscribe (answer.mapError .subscription), [.asked generation (.subscribe topic)]⟩
      | .disconnected | .connecting _ _ => ⟨.subscribe (.error .notConnected), []⟩
  | .publish publication answer =>
      match guard.phase with
      | .connected session _ =>
          ⟨.publish (answer.mapError .transport),
            [.asked session.generation (.publish publication)]⟩
      | .disconnected | .connecting _ _ => ⟨.publish (.error .notConnected), []⟩
  | .disconnect _ =>
      match guard.phase with
      | .connected session _ => ⟨.none, [.asked session.generation .disconnect]⟩
      | .disconnected | .connecting _ _ => .silent
  | .conclude _ _ | .report _ _ | .setHandler _ => .silent

/-- The guard after the actions. -/
def run (guard : Guard) (actions : List (Action η)) : Guard :=
  actions.foldl next guard

/-- What the actions lead to, one after the other. -/
def outcomes (guard : Guard) : List (Action η) → List Outcome
  | [] => []
  | action :: rest => guard.outcome action :: outcomes (guard.next action) rest

end Guard

/-- The owner stands where the guard does. -/
structure Follows {η : Type} (owner : SessionOwner η) (guard : Guard) : Prop where
  slot : owner.slot = guard.slot
  attempts : owner.attempts = guard.attempts
  begun : owner.begun = guard.begun
  generations : owner.generations = guard.established
  /-- The attempt under way is the last one. -/
  last : ∀ number options, guard.phase = .connecting number options → number = guard.begun
  delivers : ∀ session delivering, guard.phase = .connected session delivering →
    (owner.delivery? session.generation).isSome = delivering

namespace Follows

variable {η : Type} {owner : SessionOwner η} {guard : Guard}

theorem new (handler : η) : Follows (SessionOwner.new handler) .start where
  slot := rfl
  attempts := rfl
  begun := rfl
  generations := rfl
  last := by
    intro number options connecting
    cases connecting
  delivers := by
    intro session delivering connected
    cases connected

theorem step_of {action : Action η} {after : SessionOwner η}
    (performed : owner.perform action = (after, guard.outcome action))
    (follows : Follows after (guard.next action)) :
    Follows (owner.next action) (guard.next action) ∧
      (owner.perform action).2 = guard.outcome action := by
  rw [SessionOwner.next, performed]
  exact ⟨follows, rfl⟩

/-- There is no session outside the phase for it. -/
theorem session?_eq_none (follows : Follows owner guard)
    (absent : ∀ session delivering, guard.phase ≠ .connected session delivering) :
    owner.session? = none := by
  rw [session?, follows.slot, Guard.slot]
  cases phase : guard.phase with
  | disconnected | connecting number options => rfl
  | connected session delivering => exact absurd phase (absent session delivering)

section Steps

variable {begun established : Nat}

theorem connect (follows : Follows owner guard) (options : SessionOptions) :
    Follows (owner.next (.connect options)) (guard.next (.connect options : Action η)) ∧
      (owner.perform (.connect options)).2 = guard.outcome (.connect options : Action η) := by
  rcases guard with ⟨phase, begun, established⟩
  cases phase with
  | disconnected =>
      have started := owner.perform_connect_of_vacant options follows.slot
      have counted : owner.begun = begun := follows.begun
      rw [counted] at started
      apply step_of started
      exact {
        slot := rfl
        attempts := by rw [follows.attempts]; rfl
        begun := rfl
        generations := follows.generations
        last := by
          rintro number options ⟨⟩
          rfl
        delivers := by rintro session delivering ⟨⟩ }
  | connecting number current =>
      exact step_of (owner.perform_connect_of_reserved options follows.slot) follows
  | connected session delivering =>
      exact step_of (owner.perform_connect_of_occupied options follows.slot) follows

/-- A conclusion of an attempt that is not under way. -/
theorem conclude_unknown (follows : Follows owner guard) {number : Nat}
    (unknown : owner.attempt? number = none) (conclusion : Exchange.Conclusion)
    (stays : guard.next (.conclude number conclusion : Action η) = guard) :
    Follows (owner.next (.conclude number conclusion))
      (guard.next (.conclude number conclusion : Action η)) := by
  rw [stays, SessionOwner.next, perform, owner.conclude_of_unknown unknown]
  exact follows

/-- The conclusion of the attempt under way. -/
theorem conclude_current {number : Nat} {options : SessionOptions}
    (follows : Follows owner ⟨.connecting number options, begun, established⟩)
    (conclusion : Exchange.Conclusion) :
    Follows (owner.next (.conclude number conclusion))
      (Guard.next ⟨.connecting number options, begun, established⟩
        (.conclude number conclusion : Action η)) := by
  have reserved : owner.slot = .reserved := follows.slot
  have counted : owner.generations = established := follows.generations
  have alone : owner.attempts = [⟨number, options⟩] := follows.attempts
  have found : owner.attempt? number = some ⟨number, options⟩ := by
    simp [attempt?, alone]
  have cleared : (owner.endAttempt number).attempts = [] := by
    simp [endAttempt, alone]
  rw [SessionOwner.next, perform]
  by_cases succeeds : conclusion = .connected
  · subst succeeds
    rw [owner.conclude_connected found, counted]
    simp only [Guard.next, if_pos]
    exact {
      slot := rfl
      attempts := cleared
      begun := follows.begun
      generations := rfl
      last := by rintro number options ⟨⟩
      delivers := by
        rintro session delivering ⟨⟩
        simp [delivery?] }
  · rw [owner.conclude_of_ne_connected found succeeds, if_pos reserved]
    have freed : Guard.next ⟨.connecting number options, begun, established⟩
        (.conclude number conclusion : Action η) = ⟨.disconnected, begun, established⟩ := by
      cases conclusion with
      | connected => exact absurd rfl succeeds
      | failed fault => simp [Guard.next]
      | cancelled => simp [Guard.next]
    rw [freed]
    exact {
      slot := rfl
      attempts := cleared
      begun := follows.begun
      generations := follows.generations
      last := by rintro number options ⟨⟩
      delivers := by rintro session delivering ⟨⟩ }

theorem conclude (follows : Follows owner guard) (number : Nat)
    (conclusion : Exchange.Conclusion) :
    Follows (owner.next (.conclude number conclusion))
      (guard.next (.conclude number conclusion : Action η)) := by
  rcases guard with ⟨phase, begun, established⟩
  cases phase with
  | disconnected | connected session delivering =>
      have idle : owner.attempts = [] := follows.attempts
      apply follows.conclude_unknown
      · simp [attempt?, idle]
      · rfl
  | connecting current options =>
      have alone : owner.attempts = [⟨current, options⟩] := follows.attempts
      by_cases same : number = current
      · subst same
        exact follows.conclude_current conclusion
      · apply follows.conclude_unknown
        · simp [attempt?, alone, Ne.symm same]
        · simp [Guard.next, same]

/-- The end of a delivery task that is not that of the session. -/
theorem endDelivery (follows : Follows owner guard) {generation : Nat}
    (other : ∀ session delivering, guard.phase = .connected session delivering →
      session.generation ≠ generation) :
    Follows (owner.endDelivery generation) guard where
  slot := follows.slot
  attempts := follows.attempts
  begun := follows.begun
  generations := follows.generations
  last := follows.last
  delivers := by
    intro session delivering connected
    rw [owner.delivery?_endDelivery_of_ne (other session delivering connected)]
    exact follows.delivers session delivering connected

/-- A report that is not about the session. -/
theorem report_other (follows : Follows owner guard) {generation : Nat} (report : Report)
    (other : ∀ session delivering, guard.phase = .connected session delivering →
      session.generation ≠ generation) :
    Follows (owner.next (.report generation report)) guard := by
  have change := Change.report owner generation report
  generalize owner.next (.report generation report) = after at change ⊢
  cases change with
  | nothing => exact follows
  | stops => exact follows.endDelivery other
  | @loses session occupied cause =>
      have place := follows.slot
      rw [occupied, Guard.slot] at place
      cases phase : guard.phase with
      | disconnected | connecting number options =>
          rw [phase] at place
          cases place
      | connected current delivering =>
          rw [phase] at place
          cases place
          exact absurd rfl (other session delivering phase)

/-- A report of the delivery task of the session. -/
theorem report_current {session : Session}
    (follows : Follows owner ⟨.connected session true, begun, established⟩) (report : Report) :
    Follows (owner.next (.report session.generation report))
      (Guard.next ⟨.connected session true, begun, established⟩
        (.report session.generation report : Action η)) := by
  have occupied : owner.slot = .occupied session := follows.slot
  obtain ⟨delivery, found⟩ := Option.isSome_iff_exists.mp (follows.delivers session true rfl)
  cases report with
  | arrived topic payload =>
      rw [owner.next_report_of_passed (by simp) (by simp)]
      exact follows
  | acknowledged packet =>
      rw [owner.next_report_of_passed (by simp) (by simp)]
      exact follows
  | closed =>
      rw [owner.next_report_closed found]
      simp only [Guard.next, if_pos]
      exact {
        slot := follows.slot
        attempts := follows.attempts
        begun := follows.begun
        generations := follows.generations
        last := by rintro number options ⟨⟩
        delivers := by
          rintro _ _ ⟨⟩
          simp }
  | failed cause =>
      have mine : owner.session?.any (·.generation = session.generation) = true := by
        simp [session?, occupied, Slot.session?]
      rw [owner.next_report_failed found, if_pos mine]
      simp only [Guard.next, if_pos]
      exact {
        slot := rfl
        attempts := follows.attempts
        begun := follows.begun
        generations := follows.generations
        last := by rintro number options ⟨⟩
        delivers := by rintro session delivering ⟨⟩ }

theorem report (follows : Follows owner guard) (generation : Nat) (report : Report) :
    Follows (owner.next (.report generation report))
      (guard.next (.report generation report : Action η)) := by
  rcases guard with ⟨phase, begun, established⟩
  cases phase with
  | disconnected | connecting number options =>
      exact follows.report_other report (by rintro session delivering ⟨⟩)
  | connected session delivering =>
      by_cases same : generation = session.generation
      · subst same
        cases delivering with
        | true => exact follows.report_current report
        | false =>
            have unheard : owner.delivery? session.generation = none := by
              simpa using follows.delivers session false rfl
            rw [owner.next_report_of_unknown unheard]
            exact follows
      · have stays : Guard.next ⟨.connected session delivering, begun, established⟩
            (.report generation report : Action η) =
              ⟨.connected session delivering, begun, established⟩ := by
          cases delivering <;> cases report <;> simp [Guard.next, same]
        rw [stays]
        apply follows.report_other
        rintro _ _ ⟨⟩
        exact Ne.symm same

theorem subscribe (follows : Follows owner guard) (topic : String)
    (answer : Except String Unit) :
    Follows (owner.next (.subscribe topic answer))
        (guard.next (.subscribe topic answer : Action η)) ∧
      (owner.perform (.subscribe topic answer)).2 =
        guard.outcome (.subscribe topic answer : Action η) := by
  rcases guard with ⟨phase, begun, established⟩
  cases phase with
  | disconnected | connecting number current =>
      have absent := follows.session?_eq_none (by rintro session delivering ⟨⟩)
      exact step_of (owner.perform_subscribe_of_absent topic answer absent) follows
  | connected session delivering =>
      rcases session with ⟨options, subscription, generation⟩
      cases subscription with
      | some existing =>
          exact step_of (owner.perform_subscribe_of_subscribed topic answer follows.slot rfl)
            follows
      | none =>
          apply step_of (owner.perform_subscribe_of_unsubscribed topic answer follows.slot rfl)
          cases answer with
          | error reason => exact follows
          | ok accepted =>
              exact {
                slot := rfl
                attempts := follows.attempts
                begun := follows.begun
                generations := follows.generations
                last := by rintro number options ⟨⟩
                delivers := by
                  rintro session delivering ⟨⟩
                  exact follows.delivers ⟨options, none, generation⟩ delivering rfl }

theorem publish (follows : Follows owner guard) (publication : Publication)
    (answer : Except String Unit) :
    Follows (owner.next (.publish publication answer))
        (guard.next (.publish publication answer : Action η)) ∧
      (owner.perform (.publish publication answer)).2 =
        guard.outcome (.publish publication answer : Action η) := by
  rcases guard with ⟨phase, begun, established⟩
  cases phase with
  | disconnected | connecting number current =>
      have absent := follows.session?_eq_none (by rintro session delivering ⟨⟩)
      exact step_of (owner.perform_publish_of_absent publication answer absent) follows
  | connected session delivering =>
      exact step_of (owner.perform_publish_of_occupied publication answer follows.slot) follows

/-- Here the calls have to be calm: the guard forgets an attempt, and the owner does not. -/
theorem disconnect (follows : Follows owner guard) (answer : Except String Unit)
    (idle : owner.attempts = []) :
    Follows (owner.next (.disconnect answer)) (guard.next (.disconnect answer : Action η)) ∧
      (owner.perform (.disconnect answer)).2 =
        guard.outcome (.disconnect answer : Action η) := by
  have freed : Follows { owner with slot := .vacant }
      (guard.next (.disconnect answer : Action η)) := {
    slot := rfl
    attempts := idle
    begun := follows.begun
    generations := follows.generations
    last := by rintro number options ⟨⟩
    delivers := by rintro session delivering ⟨⟩ }
  rcases guard with ⟨phase, begun, established⟩
  cases phase with
  | disconnected | connecting number current =>
      have absent := follows.session?_eq_none (by rintro session delivering ⟨⟩)
      exact step_of (owner.perform_disconnect_of_absent answer absent) freed
  | connected session delivering =>
      exact step_of (owner.perform_disconnect_of_occupied answer follows.slot) freed

end Steps

/-- One action, in a calm state if it is a call to disconnect. -/
theorem step (follows : Follows owner guard) (action : Action η)
    (calm : action.isDisconnect = true → owner.attempts = []) :
    Follows (owner.next action) (guard.next action) ∧
      (owner.perform action).2 = guard.outcome action := by
  cases action with
  | connect options => exact follows.connect options
  | conclude number conclusion => exact ⟨follows.conclude number conclusion, rfl⟩
  | subscribe topic answer => exact follows.subscribe topic answer
  | publish publication answer => exact follows.publish publication answer
  | disconnect answer => exact follows.disconnect answer (calm rfl)
  | report generation report => exact ⟨follows.report generation report, rfl⟩
  | setHandler handler =>
      exact ⟨⟨follows.slot, follows.attempts, follows.begun, follows.generations, follows.last,
        follows.delivers⟩, rfl⟩

theorem run (follows : Follows owner guard) (actions : List (Action η))
    (calm : owner.Calm actions) :
    Follows (owner.run actions) (guard.run actions) ∧
      owner.outcomes actions = guard.outcomes actions := by
  induction actions generalizing owner guard with
  | nil => exact ⟨follows, rfl⟩
  | cons action rest inductionHypothesis =>
      obtain ⟨idle, later⟩ := calm_cons_iff.mp calm
      obtain ⟨stepped, outcome⟩ := follows.step action idle
      obtain ⟨rests, outcomes⟩ := inductionHypothesis stepped later
      refine ⟨rests, ?_⟩
      rw [SessionOwner.outcomes, Guard.outcomes, outcome, outcomes]

end Follows

theorem Guard.reserved_iff (guard : Guard) :
    guard.slot = .reserved ↔ ∃ attempt, guard.attempts = [attempt] := by
  rw [Guard.slot, Guard.attempts]
  cases guard.phase <;> simp

/-- In a run without a call to disconnect while an attempt is under way, callers are told what the
guard tells them and nothing else is asked of the outside; the place for the session and the
attempts under way are those of the guard, and the place is reserved exactly while one attempt is
under way. -/
theorem run_follows_guard {η : Type} (handler : η) (actions : List (Action η))
    (calm : (SessionOwner.new handler).Calm actions) :
    (SessionOwner.new handler).outcomes actions = Guard.start.outcomes actions ∧
      ((SessionOwner.new handler).run actions).slot = (Guard.start.run actions).slot ∧
      ((SessionOwner.new handler).run actions).attempts = (Guard.start.run actions).attempts ∧
      (((SessionOwner.new handler).run actions).slot = .reserved ↔
        ∃ attempt, ((SessionOwner.new handler).run actions).attempts = [attempt]) := by
  obtain ⟨follows, outcomes⟩ := (Follows.new handler).run actions calm
  refine ⟨outcomes, follows.slot, follows.attempts, ?_⟩
  rw [follows.slot, follows.attempts]
  exact Guard.reserved_iff _

/-- Two calls to connect that overlap, an attempt that takes too long, a session, a call for
another one beside it, a refused and a repeated subscription, and the end of the session. -/
theorem run_follows_guard_of_overlap :
    let first := SessionOptions.anonymous "a" "c"
    let second := SessionOptions.anonymous "b" "c"
    let actions : List (Action Unit) :=
      [.connect first, .connect second, .subscribe "t" (.ok ()),
        .conclude 1 (.failed (.timeout first.connectTimeout)), .connect second,
        .conclude 2 .connected, .connect first, .connect second, .subscribe "t" (.error "full"),
        .subscribe "t" (.ok ()), .disconnect (.ok ()), .report 1 (.failed "closed")]
    (SessionOwner.new ()).Calm actions ∧
      (SessionOwner.new ()).outcomes actions = Guard.start.outcomes actions ∧
      ((SessionOwner.new ()).run actions).slot = (Guard.start.run actions).slot ∧
      ((SessionOwner.new ()).run actions).attempts = (Guard.start.run actions).attempts ∧
      (((SessionOwner.new ()).run actions).slot = .reserved ↔
        ∃ attempt, ((SessionOwner.new ()).run actions).attempts = [attempt]) := by
  intro first second actions
  have calm : (SessionOwner.new ()).Calm actions := by decide
  exact ⟨calm, run_follows_guard () actions calm⟩

end ShellBridge.SessionOwner
