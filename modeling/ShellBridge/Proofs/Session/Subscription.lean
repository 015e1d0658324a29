import ShellBridge.Proofs.Session.Delivery
import Mathlib.Data.List.Nodup

/-!
The topic of inbound messages of a session.

A session begins without a topic.  As long as it has none, whoever asks for one makes the transport
ask for it, and the first that the transport takes stays the topic of the session until its end.
From then on nobody makes the transport ask again: the same topic is there already, and every other
one is refused.  So all buses on one session have the same inbox.
-/

namespace ShellBridge.SessionOwner

/-- Actions on an owner, and calls to open a bus on its session. -/
inductive Call (η : Type) where
  | act (action : Action η)
  | openBus (bus : Databus) (answer : Except String Unit)

namespace Call

variable {η : Type}

/-- The topic that a caller asks for, and the answer that the transport would give. -/
def request? : Call η → Option (String × Except String Unit)
  | act (.subscribe topic answer) => some (topic, answer)
  | openBus bus answer => some (bus.inbox, answer)
  | act _ => none

/-- Whether the transport takes what the call makes the owner ask for. -/
def isTaken : Call η → Bool
  | act (.subscribe _ answer) | act (.publish _ answer) | act (.disconnect answer)
  | openBus _ answer => answer.isOk
  | act _ => true

end Call

/-- What a caller who asked for a topic is told. -/
def Answer.subscription? : Answer → Option (Except SessionError Unit)
  | .subscribe result => some result
  | .connect _ | .publish _ | .none => Option.none

/-- The topic that the transport is asked for, with the generation of the session. -/
def Contact.topic? : Contact → Option (Nat × String)
  | .asked generation (.subscribe topic) => some (generation, topic)
  | .asked _ (.publish _) | .asked _ .disconnect | .dialed _ _ => none

/-- What a call leads to. -/
structure Effect (η : Type) where
  owner : SessionOwner η
  /-- What a caller who asked for a topic is told. -/
  result : Option (Except SessionError Unit)
  contacts : List Contact
  bus? : Option Databus

variable {η : Type}

def serve (owner : SessionOwner η) : Call η → Effect η
  | .act action =>
      let (next, outcome) := owner.perform action
      ⟨next, outcome.answer.subscription?, outcome.contacts, none⟩
  | .openBus bus answer =>
      let ((next, result), contacts) := owner.openBus (noting answer) bus []
      ⟨next, some (result.map fun _ => ()), contacts, result.toOption⟩

/-- The owner after the calls. -/
def serveAll (owner : SessionOwner η) (calls : List (Call η)) : SessionOwner η :=
  calls.foldl (fun owner call => (owner.serve call).owner) owner

/-- The topics that the transport takes from a call, each with the generation of the session. -/
def taken (owner : SessionOwner η) (call : Call η) : List (Nat × String) :=
  if call.isTaken then (owner.serve call).contacts.filterMap Contact.topic? else []

/-- The topics that the transport takes from the calls, one after the other. -/
def takenIn (owner : SessionOwner η) : List (Call η) → List (Nat × String)
  | [] => []
  | call :: rest => owner.taken call ++ takenIn (owner.serve call).owner rest

/-- The bus that a call opens, with the generation of the session that it is opened on. -/
def opened? (owner : SessionOwner η) (call : Call η) : Option (Nat × Databus) := do
  let bus ← (owner.serve call).bus?
  let session ← (owner.serve call).owner.session?
  some (session.generation, bus)

/-- The buses that the calls open, one after the other. -/
def openedIn (owner : SessionOwner η) : List (Call η) → List (Nat × Databus)
  | [] => []
  | call :: rest => (owner.opened? call).toList ++ openedIn (owner.serve call).owner rest

/-- After the calls each session has had one topic at most. -/
structure OneTopic (start : SessionOwner η) (past : List (Call η)) : Prop where
  /-- The transport took no two topics for one session. -/
  once : ((start.takenIn past).map Prod.fst).Nodup
  /-- The topic of the session in place is the one that was taken for it. -/
  told : ∀ topic, (start.serveAll past).subscription? = some topic ↔
    ∃ session, (start.serveAll past).session? = some session ∧
      (session.generation, topic) ∈ start.takenIn past
  /-- A session that is established now has none. -/
  fresh : ∀ action session, (start.serveAll past).established? action = some session →
    ((start.serveAll past).next action).subscription? = none
  /-- A session keeps its topic until it ends or another is established. -/
  lasts : ∀ topic, (start.serveAll past).subscription? = some topic → ∀ call session,
    ((start.serveAll past).serve call).owner.session? = some session →
      session.subscription = some topic ∨
        ∃ action, call = .act action ∧ (start.serveAll past).established? action = some session
  /-- Where a topic was taken, nothing is asked any more: the same topic is there already, and every
  other one is refused. -/
  settled : ∀ session topic, (start.serveAll past).session? = some session →
    (session.generation, topic) ∈ start.takenIn past →
      ∀ call asked answer, call.request? = some (asked, answer) →
        ((start.serveAll past).serve call).owner = start.serveAll past ∧
          ((start.serveAll past).serve call).contacts = [] ∧
          ((start.serveAll past).serve call).result =
            some (if asked = topic then .ok () else .error (.alreadySubscribed topic))
  /-- Where none was taken, the transport is asked, whatever it has refused before, and it
  decides. -/
  awaited : ∀ session, (start.serveAll past).session? = some session →
    (∀ topic, (session.generation, topic) ∉ start.takenIn past) →
      ∀ call topic answer, call.request? = some (topic, answer) →
        ((start.serveAll past).serve call).contacts =
            [.asked session.generation (.subscribe topic)] ∧
          ((start.serveAll past).serve call).result = some (answer.mapError .subscription) ∧
          (answer = .ok () →
            ((start.serveAll past).serve call).owner.subscription? = some topic)
  /-- Where there is no session, nothing is asked either. -/
  absent : (start.serveAll past).session? = none →
    ∀ call topic answer, call.request? = some (topic, answer) →
      ((start.serveAll past).serve call).contacts = [] ∧
        ((start.serveAll past).serve call).result = some (.error .notConnected)
  /-- Whoever is refused has changed nothing. -/
  refused : ∀ call fault, ((start.serveAll past).serve call).result = some (.error fault) →
    ((start.serveAll past).serve call).owner = start.serveAll past
  /-- A bus is opened on a session whose topic is the inbox. -/
  inbox : ∀ call bus, ((start.serveAll past).serve call).bus? = some bus →
    ∃ session, ((start.serveAll past).serve call).owner.session? = some session ∧
      session.subscription = some bus.inbox
  /-- All buses on one session have the same inbox. -/
  shared : ∀ generation bus bus', (generation, bus) ∈ start.openedIn past →
    (generation, bus') ∈ start.openedIn past → bus.inbox = bus'.inbox

/-! ### What a call does -/

section Steps

variable (owner : SessionOwner η) {call : Call η} {topic : String} {answer : Except String Unit}
  {session : Session}

/-- Opening a bus is asking for its inbox. -/
theorem serve_openBus (bus : Databus) :
    owner.serve (.openBus bus answer) =
      { owner.serve (.act (.subscribe bus.inbox answer)) with
        bus? := (owner.serve (.act (.subscribe bus.inbox answer))).result.bind fun result =>
          (result.map fun _ => bus).toOption } := by
  simp only [serve, openBus, perform, bind, StateT.bind]
  rcases owner.subscribe (noting answer) bus.inbox [] with ⟨⟨next, result⟩, contacts⟩
  cases result <;> rfl

/-- Who asks for a topic subscribes to it or opens a bus with this inbox. -/
theorem eq_of_request? (asks : call.request? = some (topic, answer)) :
    call = .act (.subscribe topic answer) ∨
      ∃ bus, bus.inbox = topic ∧ call = .openBus bus answer := by
  cases call with
  | act action =>
      cases action with
      | subscribe =>
          cases asks
          exact .inl rfl
      | connect | conclude | publish | disconnect | report | setHandler => cases asks
  | openBus bus answer =>
      cases asks
      exact .inr ⟨bus, rfl, rfl⟩

/-- All who ask for a topic are served alike, but that some get a bus. -/
theorem serve_of_request? (asks : call.request? = some (topic, answer)) :
    ∃ bus?,
      owner.serve call = { owner.serve (.act (.subscribe topic answer)) with bus? := bus? } := by
  rcases eq_of_request? asks with rfl | ⟨bus, rfl, rfl⟩
  · exact ⟨none, rfl⟩
  · exact ⟨_, owner.serve_openBus bus⟩

theorem isTaken_of_request? (asks : call.request? = some (topic, answer)) :
    call.isTaken = answer.isOk := by
  rcases eq_of_request? asks with rfl | ⟨bus, rfl, rfl⟩ <;> rfl

section Asking

variable {owner} (asks : call.request? = some (topic, answer))
include asks

theorem serve_of_absent (absent : owner.session? = none) :
    (owner.serve call).owner = owner ∧ (owner.serve call).contacts = [] ∧
      (owner.serve call).result = some (.error .notConnected) := by
  obtain ⟨bus?, served⟩ := owner.serve_of_request? asks
  rw [served, serve, owner.perform_subscribe_of_absent topic answer absent]
  exact ⟨rfl, rfl, rfl⟩

theorem serve_of_subscribed {existing : String} (occupied : owner.slot = .occupied session)
    (subscribed : session.subscription = some existing) :
    (owner.serve call).owner = owner ∧ (owner.serve call).contacts = [] ∧
      (owner.serve call).result =
        some (if topic = existing then .ok () else .error (.alreadySubscribed existing)) := by
  obtain ⟨bus?, served⟩ := owner.serve_of_request? asks
  rw [served, serve, owner.perform_subscribe_of_subscribed topic answer occupied subscribed]
  by_cases same : topic = existing
  · rw [if_pos same, if_pos same]
    exact ⟨rfl, rfl, rfl⟩
  · rw [if_neg same, if_neg same]
    exact ⟨rfl, rfl, rfl⟩

theorem serve_of_unsubscribed (occupied : owner.slot = .occupied session)
    (unsubscribed : session.subscription = none) :
    (owner.serve call).owner =
        (if answer.isOk then
          { owner with slot := .occupied { session with subscription := some topic } }
        else owner) ∧
      (owner.serve call).contacts = [.asked session.generation (.subscribe topic)] ∧
      (owner.serve call).result = some (answer.mapError .subscription) := by
  obtain ⟨bus?, served⟩ := owner.serve_of_request? asks
  rw [served, serve, owner.perform_subscribe_of_unsubscribed topic answer occupied unsubscribed]
  exact ⟨rfl, rfl, rfl⟩

/-- The topic that the transport takes. -/
theorem taken_of_unsubscribed (occupied : owner.slot = .occupied session)
    (unsubscribed : session.subscription = none) :
    owner.taken call = if answer.isOk then [(session.generation, topic)] else [] := by
  rw [taken, isTaken_of_request? asks, (serve_of_unsubscribed asks occupied unsubscribed).2.1]
  rfl

end Asking

theorem taken_of_silent (silent : (owner.serve call).contacts = []) : owner.taken call = [] := by
  rw [taken, silent, List.filterMap_nil, ite_self]

/-- Nobody else makes the transport ask for a topic, or is told about one. -/
theorem serve_of_other (other : call.request? = none) :
    (owner.serve call).contacts.filterMap Contact.topic? = [] ∧
      (owner.serve call).result = none := by
  cases call with
  | openBus => cases other
  | act action =>
      rw [serve]
      cases action with
      | subscribe => cases other
      | conclude | report | setHandler => exact ⟨rfl, rfl⟩
      | connect options =>
          cases slot : owner.slot with
          | vacant =>
              rw [owner.perform_connect_of_vacant options slot]
              exact ⟨rfl, rfl⟩
          | reserved =>
              rw [owner.perform_connect_of_reserved options slot]
              exact ⟨rfl, rfl⟩
          | occupied session =>
              rw [owner.perform_connect_of_occupied options slot]
              by_cases same : options = session.options
              · rw [if_pos same]
                exact ⟨rfl, rfl⟩
              · rw [if_neg same]
                exact ⟨rfl, rfl⟩
      | publish publication answer =>
          cases found : owner.session? with
          | none =>
              rw [owner.perform_publish_of_absent publication answer found]
              exact ⟨rfl, rfl⟩
          | some session =>
              rw [owner.perform_publish_of_occupied publication answer
                (owner.slot_eq_of_session? found)]
              exact ⟨rfl, rfl⟩
      | disconnect answer =>
          cases found : owner.session? with
          | none =>
              rw [owner.perform_disconnect_of_absent answer found]
              exact ⟨rfl, rfl⟩
          | some session =>
              rw [owner.perform_disconnect_of_occupied answer (owner.slot_eq_of_session? found)]
              exact ⟨rfl, rfl⟩

theorem taken_of_other (other : call.request? = none) : owner.taken call = [] := by
  rw [taken, (owner.serve_of_other other).1, ite_self]

/-- A session that is established has no topic. -/
theorem session_of_established? {action : Action η}
    (established : owner.established? action = some session) :
    (owner.next action).session? = some session ∧ session.subscription = none := by
  obtain ⟨number, attempt, rfl, found, rfl⟩ := attempt_of_established? established
  rw [next, perform, owner.conclude_connected found]
  exact ⟨rfl, rfl⟩

/-- Nobody else changes the session in place, other than by establishing one. -/
theorem session?_of_serve_other (other : call.request? = none)
    (found : (owner.serve call).owner.session? = some session) :
    owner.session? = some session ∨
      ∃ action, call = .act action ∧ owner.established? action = some session := by
  cases call with
  | openBus => cases other
  | act action =>
      have change := owner.change_next action
      have found : (owner.next action).session? = some session := found
      generalize owner.next action = after at change found
      cases change with
      | nothing | stops | installs => exact .inl found
      | begins | disconnects | loses => cases found
      | succeeds attempted =>
          cases found
          exact .inr ⟨_, rfl, owner.established?_connected attempted⟩
      | ends => exact .inl (session?_of_freed found)
      | subscribes => cases other

/-- A session with a topic stays as it is until it ends or another is established. -/
theorem session?_of_serve {current : Session} (inPlace : owner.session? = some current)
    (subscribed : current.subscription = some topic)
    (found : (owner.serve call).owner.session? = some session) :
    session = current ∨ ∃ action, call = .act action ∧ owner.established? action = some session := by
  cases asks : call.request? with
  | none =>
      rcases owner.session?_of_serve_other asks found with before | established
      · rw [inPlace] at before
        cases before
        exact .inl rfl
      · exact .inr established
  | some request =>
      rw [(serve_of_subscribed asks (owner.slot_eq_of_session? inPlace) subscribed).1,
        inPlace] at found
      cases found
      exact .inl rfl

/-- Who gets a bus has asked for its inbox, with success. -/
theorem openBus_of_bus? {bus : Databus} (opened : (owner.serve call).bus? = some bus) :
    (∃ answer, call = .openBus bus answer) ∧ (owner.serve call).result = some (.ok ()) := by
  cases call with
  | act action => cases opened
  | openBus asked answer =>
      rw [serve_openBus] at opened ⊢
      dsimp only at opened ⊢
      cases told : (owner.serve (.act (.subscribe asked.inbox answer))).result with
      | none =>
          rw [told] at opened
          cases opened
      | some result =>
          cases result with
          | error fault =>
              rw [told] at opened
              cases opened
          | ok accepted =>
              rw [told] at opened
              cases opened
              exact ⟨⟨answer, rfl⟩, rfl⟩

/-- A call for a topic that fails changes nothing; after one that succeeds the session has the
topic. -/
theorem serve_of_result (asks : call.request? = some (topic, answer)) :
    (∃ fault, (owner.serve call).result = some (.error fault) ∧ (owner.serve call).owner = owner) ∨
      (owner.serve call).result = some (.ok ()) ∧
        ∃ session, (owner.serve call).owner.session? = some session ∧
          session.subscription = some topic := by
  cases found : owner.session? with
  | none =>
      obtain ⟨same, -, result⟩ := serve_of_absent asks found
      exact .inl ⟨_, result, same⟩
  | some session =>
      have occupied := owner.slot_eq_of_session? found
      cases subscription : session.subscription with
      | some existing =>
          obtain ⟨same, -, result⟩ := serve_of_subscribed asks occupied subscription
          by_cases equal : topic = existing
          · rw [if_pos equal] at result
            right
            rw [same, equal]
            exact ⟨result, session, found, subscription⟩
          · rw [if_neg equal] at result
            exact .inl ⟨_, result, same⟩
      | none =>
          obtain ⟨after, -, result⟩ := serve_of_unsubscribed asks occupied subscription
          cases answer with
          | error reason => exact .inl ⟨_, result, after⟩
          | ok accepted =>
              right
              rw [after]
              exact ⟨result, _, rfl, rfl⟩

/-- A call that is refused is refused without a change. -/
theorem owner_of_refused {fault : SessionError}
    (refused : (owner.serve call).result = some (.error fault)) :
    (owner.serve call).owner = owner := by
  cases asks : call.request? with
  | none =>
      rw [(owner.serve_of_other asks).2] at refused
      cases refused
  | some request =>
      rcases owner.serve_of_result asks with ⟨-, -, same⟩ | ⟨accepted, -⟩
      · exact same
      · rw [accepted] at refused
        cases refused

/-- A bus is opened on a session whose topic is the inbox. -/
theorem serve_of_bus? {bus : Databus} (opened : (owner.serve call).bus? = some bus) :
    ∃ session, (owner.serve call).owner.session? = some session ∧
      session.subscription = some bus.inbox := by
  obtain ⟨⟨answer, rfl⟩, accepted⟩ := owner.openBus_of_bus? opened
  rcases owner.serve_of_result (rfl : (Call.openBus bus answer : Call η).request? = _) with
    ⟨fault, failed, -⟩ | ⟨-, subscribed⟩
  · rw [accepted] at failed
    cases failed
  · exact subscribed

end Steps

/-! ### Runs -/

/-- The topics that were taken are those of the sessions that they were taken for. -/
structure Settled (owner : SessionOwner η) (taken : List (Nat × String)) : Prop where
  counted : owner.Counted
  known : ∀ entry ∈ taken, entry.1 ≤ owner.generations
  once : (taken.map Prod.fst).Nodup
  topic : ∀ session, owner.session? = some session → ∀ topic,
    session.subscription = some topic ↔ (session.generation, topic) ∈ taken

namespace Settled

variable {owner : SessionOwner η} {taken : List (Nat × String)} {call : Call η}

theorem new (handler : η) : (SessionOwner.new handler).Settled [] where
  counted := .new handler
  known := by rintro entry ⟨⟩
  once := List.nodup_nil
  topic := by rintro session ⟨⟩

/-- The transport takes a topic for a session that has none. -/
theorem takes (settled : owner.Settled taken) {session : Session}
    (occupied : owner.slot = .occupied session) (unsubscribed : session.subscription = none)
    (topic : String) :
    Settled { owner with slot := .occupied { session with subscription := some topic } }
      (taken ++ [(session.generation, topic)]) := by
  have found : owner.session? = some session := by
    rw [session?, occupied]
    rfl
  -- Had a topic been taken for this session before, the session would have it.
  have unknown (other : String) : (session.generation, other) ∉ taken := by
    rw [← settled.topic session found, unsubscribed]
    simp
  constructor
  · constructor
    · rintro _ ⟨⟩
      exact settled.counted.session session found
    · exact settled.counted.deliveries
  · intro entry membership
    rcases List.mem_append.mp membership with before | now
    · exact settled.known entry before
    · rw [List.mem_singleton.mp now]
      exact settled.counted.session session found
  · rw [List.map_append, List.nodup_append]
    refine ⟨settled.once, List.nodup_singleton _, ?_⟩
    intro earlier before later now same
    obtain ⟨⟨generation, other⟩, membership, rfl⟩ := List.mem_map.mp before
    rw [List.map_singleton, List.mem_singleton] at now
    have same : generation = session.generation := same.trans now
    rw [same] at membership
    exact unknown other membership
  · rintro _ ⟨⟩ other
    simp [unknown, eq_comm]

theorem serve_other (settled : owner.Settled taken) (other : call.request? = none) :
    (owner.serve call).owner.Settled taken := by
  cases call with
  | openBus => cases other
  | act action =>
      have grows := owner.generations_le_next action
      constructor
      · exact settled.counted.next action
      · intro entry membership
        exact Nat.le_trans (settled.known entry membership) grows
      · exact settled.once
      · intro session found topic
        rcases owner.session?_of_serve_other other found with before | ⟨_, -, established⟩
        · exact settled.topic session before topic
        -- What was taken was taken for earlier generations than that of a session that begins.
        · constructor
          · intro given
            rw [(owner.session_of_established? established).2] at given
            cases given
          · intro membership
            have below := settled.known _ membership
            rw [(owner.next_of_established? established).1] at below
            exact absurd below (Nat.not_succ_le_self _)

theorem serve (settled : owner.Settled taken) (call : Call η) :
    (owner.serve call).owner.Settled (taken ++ owner.taken call) := by
  cases asks : call.request? with
  | none =>
      rw [owner.taken_of_other asks, List.append_nil]
      exact settled.serve_other asks
  | some request =>
      obtain ⟨topic, answer⟩ := request
      cases found : owner.session? with
      | none =>
          obtain ⟨same, silent, -⟩ := serve_of_absent asks found
          rw [same, owner.taken_of_silent silent, List.append_nil]
          exact settled
      | some session =>
          have occupied := owner.slot_eq_of_session? found
          cases subscription : session.subscription with
          | some existing =>
              obtain ⟨same, silent, -⟩ := serve_of_subscribed asks occupied subscription
              rw [same, owner.taken_of_silent silent, List.append_nil]
              exact settled
          | none =>
              rw [(serve_of_unsubscribed asks occupied subscription).1,
                taken_of_unsubscribed asks occupied subscription]
              cases answer with
              | error reason =>
                  change owner.Settled (taken ++ [])
                  rw [List.append_nil]
                  exact settled
              | ok accepted => exact settled.takes occupied subscription topic

theorem serveAll (settled : owner.Settled taken) (calls : List (Call η)) :
    (owner.serveAll calls).Settled (taken ++ owner.takenIn calls) := by
  induction calls generalizing owner taken with
  | nil =>
      rw [takenIn, List.append_nil]
      exact settled
  | cons call rest inductionHypothesis =>
      have further := inductionHypothesis (settled.serve call)
      rw [List.append_assoc] at further
      exact further

/-- The inboxes of the buses are topics that were taken. -/
theorem inbox_mem (settled : owner.Settled taken) (calls : List (Call η)) {generation : Nat}
    {bus : Databus} (opened : (generation, bus) ∈ owner.openedIn calls) :
    (generation, bus.inbox) ∈ taken ++ owner.takenIn calls := by
  induction calls generalizing owner taken with
  | nil => cases opened
  | cons call rest inductionHypothesis =>
      have stepped := settled.serve call
      rw [takenIn, ← List.append_assoc]
      rcases List.mem_append.mp opened with now | later
      · apply List.mem_append_left
        rw [Option.mem_toList, opened?] at now
        obtain ⟨bus', gives, now⟩ := Option.bind_eq_some_iff.mp now
        obtain ⟨session, found, now⟩ := Option.bind_eq_some_iff.mp now
        obtain ⟨subscribedSession, found', subscribed⟩ := owner.serve_of_bus? gives
        rw [found] at found'
        cases found'
        cases now
        exact (stepped.topic session found bus.inbox).mp subscribed
      · exact inductionHypothesis stepped later

/-- The topic of the session in place, read off what was taken. -/
theorem subscription?_iff (settled : owner.Settled taken) (topic : String) :
    owner.subscription? = some topic ↔
      ∃ session, owner.session? = some session ∧ (session.generation, topic) ∈ taken := by
  rw [subscription?, Option.bind_eq_some_iff]
  constructor
  · rintro ⟨session, found, subscribed⟩
    exact ⟨session, found, (settled.topic session found topic).mp subscribed⟩
  · rintro ⟨session, found, membership⟩
    exact ⟨session, found, (settled.topic session found topic).mpr membership⟩

/-- Two topics that were taken for one session are the same. -/
theorem unique (settled : owner.Settled taken) {generation : Nat} {topic topic' : String}
    (first : (generation, topic) ∈ taken) (second : (generation, topic') ∈ taken) :
    topic = topic' := by
  have same := List.inj_on_of_nodup_map settled.once first second rfl
  cases same
  rfl

end Settled

/-- A session has one topic at most, whatever calls came before. -/
theorem one_topic_per_session (handler : η) (past : List (Call η)) :
    (SessionOwner.new handler).OneTopic past := by
  have settled := (Settled.new handler).serveAll past
  rw [List.nil_append] at settled
  constructor
  case once => exact settled.once
  case told => exact settled.subscription?_iff
  case fresh =>
    intro action session established
    obtain ⟨inPlace, topicless⟩ := session_of_established? _ established
    rw [subscription?, inPlace]
    exact topicless
  case lasts =>
    intro topic given call session found
    obtain ⟨current, inPlace, subscribed⟩ := Option.bind_eq_some_iff.mp given
    rcases session?_of_serve _ inPlace subscribed found with rfl | established
    · exact .inl subscribed
    · exact .inr established
  case settled =>
    intro session topic found membership call asked answer asks
    exact serve_of_subscribed asks (slot_eq_of_session? _ found)
      ((settled.topic session found topic).mpr membership)
  case awaited =>
    intro session found untaken call topic answer asks
    have unsubscribed : session.subscription = none := by
      apply Option.eq_none_iff_forall_ne_some.mpr
      intro topic subscribed
      exact untaken topic ((settled.topic session found topic).mp subscribed)
    obtain ⟨after, asked, told⟩ :=
      serve_of_unsubscribed asks (slot_eq_of_session? _ found) unsubscribed
    refine ⟨asked, told, ?_⟩
    rintro rfl
    rw [after]
    rfl
  case absent =>
    intro absent call topic answer asks
    exact (serve_of_absent asks absent).2
  case refused =>
    intro call fault failed
    exact owner_of_refused _ failed
  case inbox =>
    intro call bus opened
    exact serve_of_bus? _ opened
  case shared =>
    intro generation bus bus' first second
    have taken := (Settled.new handler).inbox_mem past first
    have taken' := (Settled.new handler).inbox_mem past second
    rw [List.nil_append] at taken taken'
    exact settled.unique taken taken'

/-- On the first session the transport refuses a topic and then takes another, on which a second bus
may be opened, but no third one with another inbox.  The session is lost, and the topic that was
refused there is taken for the next one. -/
theorem one_topic_per_session_of_retry :
    let options := SessionOptions.anonymous "a" "c"
    let past : List (Call Nat) :=
      [.act (.connect options), .act (.conclude 1 .connected),
        .act (.subscribe "t" (.error "full")), .openBus ⟨"u", "x"⟩ (.ok ()),
        .openBus ⟨"u", "y"⟩ (.error "full"), .openBus ⟨"t", "x"⟩ (.ok ()),
        .act (.report 1 (.failed "gone")), .act (.subscribe "t" (.ok ())),
        .act (.connect options), .act (.conclude 2 .connected), .act (.subscribe "t" (.ok ()))]
    let owner := (SessionOwner.new 0).serveAll past
    (SessionOwner.new 0).takenIn past = [(1, "u"), (2, "t")] ∧
      (SessionOwner.new 0).openedIn past = [(1, ⟨"u", "x"⟩), (1, ⟨"u", "y"⟩)] ∧
      owner.subscription? = some "t" ∧
      (owner.serve (.openBus ⟨"u", "x"⟩ (.ok ()))).result =
        some (.error (.alreadySubscribed "t")) ∧
      (owner.serve (.act (.subscribe "t" (.error "full")))).result = some (.ok ()) := by
  intro options past owner
  have one : (SessionOwner.new 0).OneTopic past := one_topic_per_session 0 past
  have taken : (SessionOwner.new 0).takenIn past = [(1, "u"), (2, "t")] := by decide
  have opened : (SessionOwner.new 0).openedIn past = [(1, ⟨"u", "x"⟩), (1, ⟨"u", "y"⟩)] := by
    decide
  have inPlace : owner.session? = some ⟨options, some "t", 2⟩ := by rfl
  have last : (2, "t") ∈ (SessionOwner.new 0).takenIn past := by
    rw [taken]
    decide
  have told : owner.subscription? = some "t" := (one.told "t").mpr ⟨_, inPlace, last⟩
  have settled := one.settled _ "t" inPlace last
  exact ⟨taken, opened, told, (settled (.openBus ⟨"u", "x"⟩ (.ok ())) "u" (.ok ()) rfl).2.2,
    (settled (.act (.subscribe "t" (.error "full"))) "t" (.error "full") rfl).2.2⟩

end ShellBridge.SessionOwner
