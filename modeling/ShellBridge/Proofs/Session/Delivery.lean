import ShellBridge.Proofs.Session.Interruption
import ShellBridge.Proofs.Session.Transport
import Mathlib.Data.List.Basic
import Mathlib.Data.List.Induction

/-!
What delivery tasks tell of their sessions.

The delivery task of a session begins with the session and goes on until the first report that ends
it.  What arrives and what is acknowledged it tells the handler that is installed at the moment.
That the connection is lost it tells if its session is in place at the moment, and then the session
ends.  A session never comes back to its place, so its loss is told once at most, and the task of a
session that has left its place disturbs no other one.
-/

namespace ShellBridge

/-- What a handler is told of a report that does not end the delivery task. -/
def Report.notice? : Report → Option Notice
  | .arrived topic payload => some (.arrived topic payload)
  | .acknowledged packet => some (.delivered packet)
  | .closed | .failed _ => none

def Notice.isLoss : Notice → Bool
  | .lost _ _ => true
  | .arrived _ _ | .delivered _ => false

/-- The delivery task that a session begins with. -/
def Session.delivery (session : Session) : Delivery :=
  ⟨session.generation, session.options.broker⟩

namespace SessionOwner

/-- What the delivery task of a generation tells a handler. -/
structure Told (η : Type) where
  generation : Nat
  handler : η
  notice : Notice
  deriving DecidableEq

def Told.isLoss {η : Type} (told : Told η) : Bool :=
  told.notice.isLoss

variable {η : Type}

/-- What an action makes delivery tasks tell. -/
def told (owner : SessionOwner η) : Action η → List (Told η)
  | .report generation report =>
      (owner.report generation report).2.toList.map fun (handler, notice) =>
        ⟨generation, handler, notice⟩
  | .connect _ | .conclude _ _ | .subscribe _ _ | .publish _ _ | .disconnect _ | .setHandler _ => []

/-- What the actions make delivery tasks tell, one after the other. -/
def toldIn (owner : SessionOwner η) : List (Action η) → List (Told η)
  | [] => []
  | action :: rest => owner.told action ++ toldIn (owner.next action) rest

/-- The session that an action establishes. -/
def established? (owner : SessionOwner η) : Action η → Option Session
  | .conclude number .connected =>
      if (owner.attempt? number).isSome then
        (owner.next (.conclude number .connected)).session?
      else none
  | _ => none

/-- The sessions that the actions establish, one after the other. -/
def sessionsIn (owner : SessionOwner η) : List (Action η) → List Session
  | [] => []
  | action :: rest => (owner.established? action).toList ++ sessionsIn (owner.next action) rest

/-- The session of the generation is in place. -/
def InPlace (owner : SessionOwner η) (generation : Nat) : Prop :=
  ∃ session, owner.session? = some session ∧ session.generation = generation

/-- After the actions the delivery task of the session goes on: the session was established, and no
report has ended the task since. -/
def Delivers (start : SessionOwner η) (past : List (Action η)) (session : Session) : Prop :=
  ∃ earlier action since, past = earlier ++ action :: since ∧
    (start.run earlier).established? action = some session ∧
    ∀ report, Action.report session.generation report ∈ since → report.isEnd = false

/-- The reports to the delivery task of a generation, each with the handler of its moment. -/
def heard (generation : Nat) : η → List (Action η) → List (η × Report)
  | _, [] => []
  | handler, .report number report :: rest =>
      if number = generation then (handler, report) :: heard generation handler rest
      else heard generation handler rest
  | _, .setHandler handler :: rest => heard generation handler rest
  | handler, _ :: rest => heard generation handler rest

/-- What a delivery task passes on of the reports that it hears: those before its end. -/
def passedOn (reports : List (η × Report)) : List (η × Notice) :=
  (reports.takeWhile fun entry => !entry.2.isEnd).filterMap fun entry =>
    entry.2.notice?.map (entry.1, ·)

/-- After the actions every loss is that of the session that it is told of. -/
structure Attributed (start : SessionOwner η) (past : List (Action η)) : Prop where
  /-- No two sessions have the same generation. -/
  distinct : ((start.sessionsIn past).map Session.generation).Nodup
  /-- A failure of its transport ends the session in place and is told as the loss of its broker. -/
  lost : ∀ session, start.Delivers past session →
    (start.run past).InPlace session.generation → ∀ cause,
      ((start.run past).next (.report session.generation (.failed cause))).slot = .vacant ∧
        (start.run past).told (.report session.generation (.failed cause)) =
          [⟨session.generation, (start.run past).handler, .lost session.options.broker cause⟩]
  /-- Where another session is in place, or none, no report changes this, and no loss is told. -/
  stale : ∀ generation, ¬ (start.run past).InPlace generation → ∀ report,
    ((start.run past).next (.report generation report)).slot = (start.run past).slot ∧
      ∀ told ∈ (start.run past).told (.report generation report), told.isLoss = false
  /-- Once a session has left its place its loss is never told. -/
  final : ∀ session ∈ start.sessionsIn past, ¬ (start.run past).InPlace session.generation →
    ∀ future, ∀ told ∈ (start.run past).toldIn future,
      told.generation = session.generation → told.isLoss = false
  /-- A call to disconnect makes the session leave its place. -/
  disconnected : ∀ answer generation,
    ¬ ((start.run past).next (.disconnect answer)).InPlace generation
  /-- No loss is told twice. -/
  once : ∀ generation, ((start.toldIn past).filter fun told =>
    told.generation = generation ∧ told.isLoss = true).length ≤ 1
  /-- Everything else that is told of a session is what its delivery task heard before it ended, in
  this order, and told to the handler of the moment. -/
  inOrder : ∀ earlier action since session, past = earlier ++ action :: since →
    (start.run earlier).established? action = some session →
      ((start.toldIn past).filter fun told =>
          told.generation = session.generation ∧ told.isLoss = false).map
            (fun told => (told.handler, told.notice)) =
        passedOn (heard session.generation (start.run earlier).handler since)
  /-- A delivery task that has ended, or was never begun, does nothing. -/
  ended : ∀ generation, (∀ session, start.Delivers past session →
    session.generation ≠ generation) → ∀ report,
      (start.run past).next (.report generation report) = start.run past ∧
        (start.run past).told (.report generation report) = []
  /-- No report begins an attempt or asks anything of the outside, or reaches another task. -/
  contained : ∀ generation report,
    ((start.run past).perform (.report generation report)).2.contacts = [] ∧
      ((start.run past).next (.report generation report)).begun = (start.run past).begun ∧
      ((start.run past).next (.report generation report)).attempts = (start.run past).attempts ∧
      ((start.run past).next (.report generation report)).generations =
        (start.run past).generations ∧
      ∀ other, other ≠ generation →
        ((start.run past).next (.report generation report)).delivery? other =
          (start.run past).delivery? other

/-! ### What an action does to delivery tasks -/

section Steps

variable (owner : SessionOwner η)

theorem isEnd_eq_isNone (report : Report) : report.isEnd = report.notice?.isNone := by
  cases report <;> rfl

theorem isLoss_of_notice? {report : Report} {notice : Notice}
    (given : report.notice? = some notice) : notice.isLoss = false := by
  cases report with
  | arrived | acknowledged =>
      cases given
      rfl
  | closed | failed => cases given

theorem any_iff_inPlace (generation : Nat) :
    owner.session?.any (·.generation = generation) = true ↔ owner.InPlace generation := by
  rw [InPlace]
  cases owner.session? <;> simp

theorem established?_connected {number : Nat} {attempt : Attempt}
    (found : owner.attempt? number = some attempt) :
    owner.established? (.conclude number .connected) =
      some ⟨attempt.options, none, owner.generations + 1⟩ := by
  rw [established?, found, next, perform, owner.conclude_connected found]
  rfl

section Established

variable {owner} {action : Action η} {session : Session}

/-- A session is established where an attempt that is under way succeeds. -/
theorem attempt_of_established? (established : owner.established? action = some session) :
    ∃ number attempt, action = .conclude number .connected ∧
      owner.attempt? number = some attempt ∧
      session = ⟨attempt.options, none, owner.generations + 1⟩ := by
  cases action with
  | conclude number conclusion =>
      cases conclusion with
      | connected =>
          cases found : owner.attempt? number with
          | none => simp [established?, found] at established
          | some attempt =>
              rw [owner.established?_connected found] at established
              cases established
              exact ⟨number, attempt, rfl, found, rfl⟩
      | failed | cancelled => cases established
  | connect | subscribe | publish | disconnect | report | setHandler => cases established

/-- A session gets the next generation, and its delivery task begins. -/
theorem next_of_established? (established : owner.established? action = some session) :
    session.generation = owner.generations + 1 ∧
      (owner.next action).generations = owner.generations + 1 ∧
      (owner.next action).deliveries = owner.deliveries ++ [session.delivery] ∧
      owner.told action = [] := by
  obtain ⟨number, attempt, rfl, found, rfl⟩ := attempt_of_established? established
  rw [next, perform, owner.conclude_connected found]
  exact ⟨rfl, rfl, rfl, rfl⟩

theorem generations_next_of_none (sessionless : owner.established? action = none) :
    (owner.next action).generations = owner.generations := by
  have change := owner.change_next action
  generalize owner.next action = after at change
  cases change with
  | succeeds found =>
      rw [owner.established?_connected found] at sessionless
      cases sessionless
  | nothing | begins | ends | subscribes | disconnects | stops | loses | installs => rfl

theorem deliveries_next_of_none (sessionless : owner.established? action = none)
    (other : ∀ generation report, action ≠ .report generation report) :
    (owner.next action).deliveries = owner.deliveries := by
  have change := owner.change_next action
  generalize owner.next action = after at change
  cases change with
  | succeeds found =>
      rw [owner.established?_connected found] at sessionless
      cases sessionless
  | stops generation report => exact absurd rfl (other generation report)
  | loses => exact absurd rfl (other _ _)
  | nothing | begins | ends | subscribes | disconnects | installs => rfl

end Established

theorem generations_le_next (action : Action η) :
    owner.generations ≤ (owner.next action).generations := by
  cases established : owner.established? action with
  | none => exact Nat.le_of_eq (generations_next_of_none established).symm
  | some session =>
      rw [(next_of_established? established).2.1]
      exact Nat.le_succ _

theorem handler_next {action : Action η} (other : ∀ handler, action ≠ .setHandler handler) :
    (owner.next action).handler = owner.handler := by
  have change := owner.change_next action
  generalize owner.next action = after at change
  cases change with
  | installs handler => exact absurd rfl (other handler)
  | nothing | begins | succeeds | ends | subscribes | disconnects | stops | loses => rfl

section Report

variable {generation : Nat}

/-- A report reaches no task but that of its generation. -/
theorem delivery?_next_report_of_ne {other : Nat} (different : other ≠ generation)
    (report : Report) :
    (owner.next (.report generation report)).delivery? other = owner.delivery? other := by
  have change := Change.report owner generation report
  generalize owner.next (.report generation report) = after at change
  cases change with
  | nothing => rfl
  | stops | loses => exact owner.delivery?_endDelivery_of_ne different

theorem delivery?_next_report_of_isEnd {report : Report} (ends : report.isEnd = true) :
    (owner.next (.report generation report)).delivery? generation = none := by
  cases found : owner.delivery? generation with
  | none =>
      rw [owner.next_report_of_unknown found]
      exact found
  | some delivery =>
      cases report with
      | arrived | acknowledged => cases ends
      | closed =>
          rw [owner.next_report_closed found]
          exact owner.delivery?_endDelivery generation
      | failed cause =>
          rw [owner.next_report_failed found]
          exact owner.delivery?_endDelivery generation

theorem next_report_of_goesOn {report : Report} (goesOn : report.isEnd = false) :
    owner.next (.report generation report) = owner := by
  apply owner.next_report_of_passed
  · rintro rfl
    cases goesOn
  · rintro cause rfl
    cases goesOn

theorem told_report_of_unknown (unknown : owner.delivery? generation = none) (report : Report) :
    owner.told (.report generation report) = [] := by
  simp [told, SessionOwner.report, unknown]

variable {delivery : Delivery} (found : owner.delivery? generation = some delivery)
include found

theorem told_report_of_notice? {report : Report} {notice : Notice}
    (given : report.notice? = some notice) :
    owner.told (.report generation report) = [⟨generation, owner.handler, notice⟩] := by
  cases report with
  | arrived | acknowledged =>
      cases given
      simp [told, SessionOwner.report, found]
  | closed | failed => cases given

theorem told_report_closed : owner.told (.report generation .closed) = [] := by
  simp [told, SessionOwner.report, found]

theorem told_report_failed_of_inPlace (inPlace : owner.InPlace generation) (cause : String) :
    owner.told (.report generation (.failed cause)) =
      [⟨generation, owner.handler, .lost delivery.broker cause⟩] := by
  rw [← any_iff_inPlace] at inPlace
  simp [told, SessionOwner.report, found, inPlace]

theorem told_report_failed_of_left (left : ¬ owner.InPlace generation) (cause : String) :
    owner.told (.report generation (.failed cause)) = [] := by
  rw [← any_iff_inPlace] at left
  simp [told, SessionOwner.report, found, left]

/-- A report of the end tells of nothing but a loss. -/
theorem isLoss_of_mem_told_of_isEnd {report : Report} (ends : report.isEnd = true) {told : Told η}
    (membership : told ∈ owner.told (.report generation report)) : told.isLoss = true := by
  cases report with
  | arrived | acknowledged => cases ends
  | closed =>
      rw [owner.told_report_closed found] at membership
      cases membership
  | failed cause =>
      by_cases inPlace : owner.InPlace generation
      · rw [owner.told_report_failed_of_inPlace found inPlace] at membership
        cases List.mem_singleton.mp membership
        rfl
      · rw [owner.told_report_failed_of_left found inPlace] at membership
        cases membership

end Report

/-- Where a delivery task is after an action: it begins with its session, and ends with a report of
its end. -/
theorem delivery?_next_eq_some_iff
    (counted : ∀ delivery ∈ owner.deliveries, delivery.generation ≤ owner.generations)
    (action : Action η) {generation : Nat} {delivery : Delivery} :
    (owner.next action).delivery? generation = some delivery ↔
      (∃ session, owner.established? action = some session ∧ session.delivery = delivery ∧
        session.generation = generation) ∨
      owner.delivery? generation = some delivery ∧
        ∀ report, action = .report generation report → report.isEnd = false := by
  by_cases isReport : ∃ of report, action = .report of report
  · obtain ⟨of, report, rfl⟩ := isReport
    by_cases same : of = generation
    · subst same
      cases ends : report.isEnd with
      | true =>
          rw [owner.delivery?_next_report_of_isEnd ends]
          simp [established?, ends]
      | false =>
          rw [owner.next_report_of_goesOn ends]
          simp [established?, ends]
    · rw [owner.delivery?_next_report_of_ne (Ne.symm same)]
      simp [established?, same]
  · have other : ∀ of report, action ≠ .report of report := by
      intro of report same
      exact isReport ⟨of, report, same⟩
    cases established : owner.established? action with
    | none =>
        rw [delivery?, deliveries_next_of_none established other]
        simp [delivery?, other]
    | some session =>
        obtain ⟨next, _, began, _⟩ := next_of_established? established
        have absent : owner.delivery? session.generation = none := by
          rw [delivery?, List.find?_eq_none]
          intro former membership
          have below := counted former membership
          simp
          omega
        have appended : (owner.next action).delivery? generation =
            (owner.delivery? generation).or
              (if session.generation = generation then some session.delivery else none) := by
          rw [delivery?, began, List.find?_append]
          by_cases same : session.generation = generation <;>
            simp [delivery?, Session.delivery, same]
        rw [appended]
        by_cases same : session.generation = generation
        · subst same
          simp [absent]
        · simp [same, other]

/-- What is told was told by a delivery task that went on; a loss, of the session in place, which
leaves its place with it. -/
theorem exists_report_of_mem_told {action : Action η} {told : Told η}
    (membership : told ∈ owner.told action) :
    (∃ report, action = .report told.generation report) ∧
      (∃ delivery, owner.delivery? told.generation = some delivery) ∧
      (told.isLoss = true →
        owner.InPlace told.generation ∧ ¬ (owner.next action).InPlace told.generation) := by
  cases action with
  | report generation report =>
      cases found : owner.delivery? generation with
      | none =>
          rw [owner.told_report_of_unknown found] at membership
          cases membership
      | some delivery =>
          cases report with
          | arrived topic payload =>
              rw [owner.told_report_of_notice? found rfl] at membership
              cases List.mem_singleton.mp membership
              exact ⟨⟨_, rfl⟩, ⟨delivery, found⟩, nofun⟩
          | acknowledged packet =>
              rw [owner.told_report_of_notice? found rfl] at membership
              cases List.mem_singleton.mp membership
              exact ⟨⟨_, rfl⟩, ⟨delivery, found⟩, nofun⟩
          | closed =>
              rw [owner.told_report_closed found] at membership
              cases membership
          | failed cause =>
              by_cases inPlace : owner.InPlace generation
              · rw [owner.told_report_failed_of_inPlace found inPlace] at membership
                cases List.mem_singleton.mp membership
                refine ⟨⟨_, rfl⟩, ⟨delivery, found⟩, ?_⟩
                intro _
                refine ⟨inPlace, ?_⟩
                rw [owner.next_report_failed found, if_pos ((owner.any_iff_inPlace _).mpr inPlace)]
                rintro ⟨session, ⟨⟩, _⟩
              · rw [owner.told_report_failed_of_left found inPlace] at membership
                cases membership
  | connect | conclude | subscribe | publish | disconnect | setHandler => cases membership

/-- A session that was established does not come back to its place. -/
theorem inPlace_of_next {action : Action η} {generation : Nat}
    (counted : generation ≤ owner.generations)
    (inPlace : (owner.next action).InPlace generation) : owner.InPlace generation := by
  have change := owner.change_next action
  generalize owner.next action = after at change inPlace
  obtain ⟨session, found, rfl⟩ := inPlace
  cases change with
  | nothing | stops | installs => exact ⟨session, found, rfl⟩
  | begins | disconnects | loses => cases found
  | succeeds =>
      cases found
      exact absurd counted (Nat.not_succ_le_self _)
  | ends => exact ⟨session, session?_of_freed found, rfl⟩
  | @subscribes current occupied topic answer =>
      cases found
      refine ⟨current, ?_, rfl⟩
      rw [session?, occupied]
      rfl

end Steps

/-! ### Runs -/

/-- All generations are counted. -/
structure Counted (owner : SessionOwner η) : Prop where
  session : ∀ session, owner.session? = some session → session.generation ≤ owner.generations
  deliveries : ∀ delivery ∈ owner.deliveries, delivery.generation ≤ owner.generations

namespace Counted

variable {owner : SessionOwner η}

theorem new (handler : η) : (SessionOwner.new handler).Counted := by
  constructor
  · rintro session ⟨⟩
  · rintro delivery ⟨⟩

theorem next (counted : owner.Counted) (action : Action η) : (owner.next action).Counted := by
  constructor
  · exact (owner.change_next action).generation_le counted.session
  · intro delivery membership
    have grows := owner.generations_le_next action
    by_cases isReport : ∃ generation report, action = .report generation report
    · obtain ⟨generation, report, rfl⟩ := isReport
      have change := Change.report owner generation report
      generalize owner.next (.report generation report) = after at change membership grows
      apply Nat.le_trans _ grows
      apply counted.deliveries
      cases change with
      | nothing => exact membership
      | stops | loses => exact (List.mem_filter.mp membership).1
    · cases established : owner.established? action with
      | none =>
          rw [deliveries_next_of_none established
            (fun generation report same => isReport ⟨generation, report, same⟩)] at membership
          exact Nat.le_trans (counted.deliveries delivery membership) grows
      | some session =>
          obtain ⟨generation, counts, began, _⟩ := next_of_established? established
          rw [began] at membership
          rcases List.mem_append.mp membership with former | mine
          · exact Nat.le_trans (counted.deliveries delivery former) grows
          · rw [List.mem_singleton.mp mine, counts]
            exact Nat.le_of_eq generation

theorem run (counted : owner.Counted) (actions : List (Action η)) :
    (owner.run actions).Counted := by
  induction actions generalizing owner with
  | nil => exact counted
  | cons action rest inductionHypothesis => exact inductionHypothesis (counted.next action)

/-- The generation of a delivery task is counted. -/
theorem le_of_delivery? (counted : owner.Counted) {generation : Nat} {delivery : Delivery}
    (found : owner.delivery? generation = some delivery) : generation ≤ owner.generations := by
  have named : delivery.generation = generation := by simpa using List.find?_some found
  rw [← named]
  exact counted.deliveries delivery (List.mem_of_find?_eq_some found)

end Counted

section Runs

variable {owner : SessionOwner η} {generation : Nat}

theorem toldIn_append (owner : SessionOwner η) (first second : List (Action η)) :
    owner.toldIn (first ++ second) = owner.toldIn first ++ (owner.run first).toldIn second := by
  induction first generalizing owner with
  | nil => rfl
  | cons action rest inductionHypothesis =>
      rw [List.cons_append, toldIn, toldIn, inductionHypothesis, List.append_assoc, run_cons]

theorem generations_run (owner : SessionOwner η) (actions : List (Action η)) :
    (owner.run actions).generations = owner.generations + (owner.sessionsIn actions).length := by
  induction actions generalizing owner with
  | nil => rfl
  | cons action rest inductionHypothesis =>
      rw [run_cons, inductionHypothesis, sessionsIn]
      cases established : owner.established? action with
      | none => simp [generations_next_of_none established]
      | some session =>
          rw [(next_of_established? established).2.1]
          simp
          omega

/-- The sessions have one generation after the other. -/
theorem generations_sessionsIn (owner : SessionOwner η) (actions : List (Action η)) :
    (owner.sessionsIn actions).map Session.generation =
      List.range' (owner.generations + 1) (owner.sessionsIn actions).length := by
  induction actions generalizing owner with
  | nil => rfl
  | cons action rest inductionHypothesis =>
      rw [sessionsIn, List.map_append, inductionHypothesis]
      cases established : owner.established? action with
      | none => simp [generations_next_of_none established]
      | some session =>
          obtain ⟨generation, counts, _⟩ := next_of_established? established
          simp [generation, counts, List.range'_succ]

theorem generation_le_of_mem_sessionsIn (owner : SessionOwner η) {actions : List (Action η)}
    {session : Session} (membership : session ∈ owner.sessionsIn actions) :
    session.generation ≤ (owner.run actions).generations := by
  have counted : session.generation ∈ (owner.sessionsIn actions).map Session.generation :=
    List.mem_map_of_mem membership
  rw [generations_sessionsIn, List.mem_range'_1] at counted
  rw [generations_run]
  omega

/-- What is told is told of sessions that were established. -/
theorem generation_le_of_mem_toldIn (counted : owner.Counted) {actions : List (Action η)}
    {told : Told η} (membership : told ∈ owner.toldIn actions) :
    told.generation ≤ (owner.run actions).generations := by
  induction actions generalizing owner with
  | nil => cases membership
  | cons action rest inductionHypothesis =>
      rw [run_cons]
      rcases List.mem_append.mp membership with now | later
      · obtain ⟨_, ⟨delivery, found⟩, _⟩ := owner.exists_report_of_mem_told now
        apply Nat.le_trans (counted.le_of_delivery? found)
        apply Nat.le_trans (owner.generations_le_next action)
        rw [generations_run]
        exact Nat.le_add_right _ _
      · exact inductionHypothesis (counted.next action) later

theorem isLoss_eq_false_of_left (counted : generation ≤ owner.generations)
    (left : ¬ owner.InPlace generation) (future : List (Action η)) {told : Told η}
    (membership : told ∈ owner.toldIn future) (of : told.generation = generation) :
    told.isLoss = false := by
  induction future generalizing owner with
  | nil => cases membership
  | cons action rest inductionHypothesis =>
      rcases List.mem_append.mp membership with now | later
      · obtain ⟨_, _, loss⟩ := owner.exists_report_of_mem_told now
        cases isLoss : told.isLoss with
        | false => rfl
        | true =>
            rw [of] at loss
            exact absurd (loss isLoss).1 left
      · apply inductionHypothesis _ _ later
        · exact Nat.le_trans counted (owner.generations_le_next action)
        · intro inPlace
          exact left (owner.inPlace_of_next counted inPlace)

theorem length_losses_le (counted : owner.Counted) (generation : Nat)
    (actions : List (Action η)) :
    ((owner.toldIn actions).filter fun told =>
      told.generation = generation ∧ told.isLoss = true).length ≤ 1 := by
  induction actions generalizing owner with
  | nil => exact Nat.zero_le _
  | cons action rest inductionHypothesis =>
      have further := inductionHypothesis (counted.next action)
      rw [toldIn, List.filter_append]
      by_cases loses : ∃ told ∈ owner.told action,
          told.generation = generation ∧ told.isLoss = true
      · obtain ⟨told, membership, rfl, isLoss⟩ := loses
        obtain ⟨_, ⟨delivery, found⟩, loss⟩ := owner.exists_report_of_mem_told membership
        have known := Nat.le_trans (counted.le_of_delivery? found)
          (owner.generations_le_next action)
        have nothing : ((owner.next action).toldIn rest).filter
            (fun other => other.generation = told.generation ∧ other.isLoss = true) = [] := by
          rw [List.filter_eq_nil_iff]
          intro other later
          have spared := isLoss_eq_false_of_left known (loss isLoss).2 rest later
          simp only [decide_eq_true_eq, not_and, Bool.not_eq_true]
          exact spared
        have alone : (owner.told action).length ≤ 1 := by
          cases action with
          | report of report =>
              rw [SessionOwner.told, List.length_map, Option.length_toList]
              split <;> omega
          | connect | conclude | subscribe | publish | disconnect | setHandler =>
              exact Nat.zero_le _
        rw [nothing, List.append_nil]
        exact Nat.le_trans (List.length_filter_le _ _) alone
      · have nothing : (owner.told action).filter
            (fun told => told.generation = generation ∧ told.isLoss = true) = [] := by
          rw [List.filter_eq_nil_iff]
          intro told membership
          rw [decide_eq_true_eq]
          intro isLoss
          exact loses ⟨told, membership, isLoss⟩
        rw [nothing]
        exact further

/-- A delivery task that has ended tells nothing any more. -/
theorem generation_ne_of_mem_toldIn (counted : owner.Counted)
    (known : generation ≤ owner.generations) (ended : owner.delivery? generation = none)
    (since : List (Action η)) {told : Told η} (membership : told ∈ owner.toldIn since) :
    told.generation ≠ generation := by
  induction since generalizing owner with
  | nil => cases membership
  | cons action rest inductionHypothesis =>
      rcases List.mem_append.mp membership with now | later
      · obtain ⟨_, ⟨delivery, found⟩, _⟩ := owner.exists_report_of_mem_told now
        rintro rfl
        rw [ended] at found
        cases found
      · apply inductionHypothesis (counted.next action) _ _ later
        · exact Nat.le_trans known (owner.generations_le_next action)
        · rw [Option.eq_none_iff_forall_ne_some]
          intro delivery found
          rcases (owner.delivery?_next_eq_some_iff counted.deliveries action).mp found with
            ⟨session, established, _, rfl⟩ | ⟨former, _⟩
          · rw [(next_of_established? established).1] at known
            exact Nat.not_succ_le_self _ known
          · rw [ended] at former
            cases former

/-- The next action is not for the delivery task. -/
theorem heard_cons_of_other (owner : SessionOwner η) {action : Action η}
    (other : ∀ report, action ≠ .report generation report) (rest : List (Action η)) :
    heard generation owner.handler (action :: rest) =
      heard generation (owner.next action).handler rest := by
  cases action with
  | report of report =>
      have different : of ≠ generation := by
        rintro rfl
        exact other report rfl
      rw [heard, if_neg different, owner.handler_next (by simp)]
  | setHandler handler => rfl
  | connect | conclude | subscribe | publish | disconnect =>
      rw [owner.handler_next (by simp)]
      rfl

/-- As long as a delivery task goes on, it passes on what it hears. -/
theorem toldIn_of_delivery? (counted : owner.Counted) {delivery : Delivery}
    (found : owner.delivery? generation = some delivery) (since : List (Action η)) :
    ((owner.toldIn since).filter fun told =>
        told.generation = generation ∧ told.isLoss = false).map
          (fun told => (told.handler, told.notice)) =
      passedOn (heard generation owner.handler since) := by
  induction since generalizing owner with
  | nil => rfl
  | cons action rest inductionHypothesis =>
      rw [toldIn, List.filter_append, List.map_append]
      by_cases mine : ∃ report, action = .report generation report
      · obtain ⟨report, rfl⟩ := mine
        have opened : heard generation owner.handler (.report generation report :: rest) =
            (owner.handler, report) :: heard generation owner.handler rest := if_pos rfl
        rw [opened]
        cases given : report.notice? with
        | some notice =>
            have goesOn : report.isEnd = false := by
              rw [isEnd_eq_isNone, given]
              rfl
            have further := inductionHypothesis counted found
            have first : passedOn
                ((owner.handler, report) :: heard generation owner.handler rest) =
                  (owner.handler, notice) :: passedOn (heard generation owner.handler rest) := by
              simp [passedOn, goesOn, given]
            rw [owner.told_report_of_notice? found given, owner.next_report_of_goesOn goesOn,
              first, ← further]
            simp [Told.isLoss, isLoss_of_notice? given]
        | none =>
            have ends : report.isEnd = true := by
              rw [isEnd_eq_isNone, given]
              rfl
            have known := Nat.le_trans (counted.le_of_delivery? found)
              (owner.generations_le_next (.report generation report))
            have now : (owner.told (.report generation report)).filter
                (fun told => told.generation = generation ∧ told.isLoss = false) = [] := by
              rw [List.filter_eq_nil_iff]
              intro told membership
              simp [owner.isLoss_of_mem_told_of_isEnd found ends membership]
            have later : ((owner.next (.report generation report)).toldIn rest).filter
                (fun told => told.generation = generation ∧ told.isLoss = false) = [] := by
              rw [List.filter_eq_nil_iff]
              intro told membership
              have different := generation_ne_of_mem_toldIn (counted.next _) known
                (owner.delivery?_next_report_of_isEnd ends) rest membership
              simp [different]
            rw [now, later]
            simp [passedOn, ends]
      · have other : ∀ report, action ≠ .report generation report := by
          intro report same
          exact mine ⟨report, same⟩
        have goesOn : (owner.next action).delivery? generation = some delivery := by
          rw [owner.delivery?_next_eq_some_iff counted.deliveries action]
          exact .inr ⟨found, fun report same => absurd same (other report)⟩
        have now : (owner.told action).filter
            (fun told => told.generation = generation ∧ told.isLoss = false) = [] := by
          rw [List.filter_eq_nil_iff]
          intro told membership
          obtain ⟨⟨report, same⟩, _⟩ := owner.exists_report_of_mem_told membership
          simp only [decide_eq_true_eq, not_and]
          rintro rfl
          exact absurd same (other report)
        rw [now, heard_cons_of_other owner other]
        exact inductionHypothesis (counted.next action) goesOn

theorem delivers_concat_iff {start : SessionOwner η} {past : List (Action η)}
    {action : Action η} {session : Session} :
    start.Delivers (past ++ [action]) session ↔
      (start.run past).established? action = some session ∨
        start.Delivers past session ∧
          ∀ report, action = .report session.generation report → report.isEnd = false := by
  constructor
  · rintro ⟨earlier, first, since, split, established, goesOn⟩
    rcases List.eq_nil_or_concat' since with rfl | ⟨between, last, rfl⟩
    · obtain ⟨rfl, same⟩ := List.append_inj' split rfl
      cases same
      exact .inl established
    · have split' : past ++ [action] = (earlier ++ first :: between) ++ [last] := by
        rw [split]
        simp
      obtain ⟨rfl, same⟩ := List.append_inj' split' rfl
      cases same
      right
      constructor
      · refine ⟨earlier, first, between, rfl, established, ?_⟩
        intro report membership
        exact goesOn report (List.mem_append_left _ membership)
      · rintro report rfl
        exact goesOn report (List.mem_append_right _ List.mem_cons_self)
  · rintro (established | ⟨⟨earlier, first, since, rfl, established, goesOn⟩, last⟩)
    · exact ⟨past, action, [], rfl, established, nofun⟩
    · refine ⟨earlier, first, since ++ [action], by simp, established, ?_⟩
      intro report membership
      rcases List.mem_append.mp membership with before | now
      · exact goesOn report before
      · exact last report (List.mem_singleton.mp now).symm

/-- The delivery tasks of a run are those of the sessions that were established and whose tasks no
report has ended. -/
theorem delivery?_run_eq_some_iff (handler : η) (past : List (Action η)) {delivery : Delivery} :
    ((SessionOwner.new handler).run past).delivery? generation = some delivery ↔
      ∃ session, (SessionOwner.new handler).Delivers past session ∧
        session.delivery = delivery ∧ session.generation = generation := by
  induction past using List.reverseRecOn generalizing generation delivery with
  | nil =>
      constructor
      · rintro ⟨⟩
      · rintro ⟨session, ⟨earlier, action, since, split, _⟩, _⟩
        simp at split
  | append_singleton past action inductionHypothesis =>
      have counted := (Counted.new handler).run past
      rw [run_concat, delivery?_next_eq_some_iff _ counted.deliveries, inductionHypothesis]
      simp only [delivers_concat_iff]
      constructor
      · rintro (⟨session, established, began, rfl⟩ | ⟨⟨session, delivers, began, rfl⟩, goesOn⟩)
        · exact ⟨session, .inl established, began, rfl⟩
        · exact ⟨session, .inr ⟨delivers, goesOn⟩, began, rfl⟩
      · rintro ⟨session, established | ⟨delivers, goesOn⟩, began, rfl⟩
        · exact .inl ⟨session, established, began, rfl⟩
        · exact .inr ⟨⟨session, delivers, began, rfl⟩, goesOn⟩

end Runs

namespace Attributed

theorem of_run (handler : η) (past : List (Action η)) :
    (SessionOwner.new handler).Attributed past where
  distinct := by
    rw [generations_sessionsIn]
    exact List.nodup_range'
  lost := by
    intro session delivers inPlace cause
    have found := (delivery?_run_eq_some_iff handler past).mpr ⟨session, delivers, rfl, rfl⟩
    constructor
    · rw [next_report_failed _ found, if_pos ((any_iff_inPlace _ _).mpr inPlace)]
    · exact told_report_failed_of_inPlace _ found inPlace cause
  stale := by
    intro generation left report
    constructor
    · have change := Change.report ((SessionOwner.new handler).run past) generation report
      generalize ((SessionOwner.new handler).run past).next (.report generation report) = after
        at change
      cases change with
      | nothing | stops => rfl
      | @loses session occupied cause =>
          refine absurd ⟨session, ?_, rfl⟩ left
          rw [session?, occupied]
          rfl
    · intro told membership
      obtain ⟨⟨_, same⟩, _, loss⟩ := exists_report_of_mem_told _ membership
      cases isLoss : told.isLoss with
      | false => rfl
      | true =>
          cases same
          exact absurd (loss isLoss).1 left
  final := by
    intro session established left future told membership of
    have known := generation_le_of_mem_sessionsIn _ established
    exact isLoss_eq_false_of_left known left future membership of
  disconnected := by
    rintro answer generation ⟨session, found, _⟩
    rw [next_disconnect] at found
    cases found
  once := fun generation => length_losses_le (Counted.new handler) generation past
  inOrder := by
    intro earlier action since session split established
    have counted := (Counted.new handler).run earlier
    have counted' := counted.next action
    obtain ⟨generation, _, began, nothing⟩ := next_of_established? established
    have delivering : (((SessionOwner.new handler).run earlier).next action).delivery?
        session.generation = some session.delivery := by
      rw [delivery?_next_eq_some_iff _ counted.deliveries]
      exact .inl ⟨session, established, rfl, rfl⟩
    have kept : ∀ other, action ≠ .setHandler other := by
      rintro other rfl
      cases established
    have installed := handler_next ((SessionOwner.new handler).run earlier) kept
    -- Nothing was told of the session before it was established.
    have before : ((SessionOwner.new handler).toldIn earlier).filter (fun told =>
        told.generation = session.generation ∧ told.isLoss = false) = [] := by
      rw [List.filter_eq_nil_iff]
      intro told membership
      have below := generation_le_of_mem_toldIn (Counted.new handler) membership
      simp only [decide_eq_true_eq, not_and]
      omega
    rw [split, toldIn_append, toldIn, nothing, List.nil_append, List.filter_append, before,
      List.nil_append, ← installed]
    exact toldIn_of_delivery? counted' delivering since
  ended := by
    intro generation silent report
    have unknown : ((SessionOwner.new handler).run past).delivery? generation = none := by
      rw [Option.eq_none_iff_forall_ne_some]
      intro delivery found
      obtain ⟨session, delivers, _, same⟩ := (delivery?_run_eq_some_iff handler past).mp found
      exact silent session delivers same
    exact ⟨next_report_of_unknown _ unknown report, told_report_of_unknown _ unknown report⟩
  contained := by
    intro generation report
    have others := fun other (different : other ≠ generation) =>
      delivery?_next_report_of_ne ((SessionOwner.new handler).run past) different report
    have change := Change.report ((SessionOwner.new handler).run past) generation report
    refine ⟨rfl, ?_, ?_, ?_, others⟩ <;>
      generalize ((SessionOwner.new handler).run past).next (.report generation report) = after
        at change <;>
      cases change <;> rfl

end Attributed

/-- Every loss is that of the session that it is told of, in every run of an owner.  The reports of
a connection come to an end with the connection, and running the transport opens no other one. -/
theorem losses_attributed :
    (∀ (η : Type) (handler : η) (past : List (Action η)),
      (SessionOwner.new handler).Attributed past) ∧
    (∀ (script : BrokerScript) (connection : Connection), (connection.run script).EndsLast) ∧
    ∀ (network : Network) (millis : Nat),
      (network.wait millis).1.openings = network.openings ∧
        ∀ number connection, network.connections[number]? = some connection →
          connection.isOpen = false → network.settleOne number = (network, []) := by
  refine ⟨fun η => Attributed.of_run, Connection.endsLast_run, ?_⟩
  intro network millis
  refine ⟨network.openings_wait millis, ?_⟩
  intro number connection found closed
  exact network.settleOne_of_closed found closed

/-- The first of two sessions is closed and the second one established before the transport of the
first fails: this changes nothing and nobody is told.  When that of the second fails, the handler
that is installed by then is told. -/
theorem losses_attributed_of_reconnection :
    let first := SessionOptions.anonymous "a" "c"
    let second := SessionOptions.anonymous "b" "c"
    let past : List (Action Nat) :=
      [.connect first, .conclude 1 .connected, .report 1 (.arrived "t" [1]), .setHandler 7,
        .report 1 (.acknowledged 3), .disconnect (.ok ()), .connect second,
        .conclude 2 .connected]
    let owner := (SessionOwner.new 0).run past
    ¬ owner.InPlace 1 ∧ owner.InPlace 2 ∧
      (SessionOwner.new 0).Delivers past ⟨second, none, 2⟩ ∧
      (owner.next (.report 1 (.failed "late"))).slot = .occupied ⟨second, none, 2⟩ ∧
      owner.told (.report 1 (.failed "late")) = [] ∧
      (owner.next (.report 2 (.failed "gone"))).slot = .vacant ∧
      owner.told (.report 2 (.failed "gone")) = [⟨2, 7, .lost "b" "gone"⟩] ∧
      (SessionOwner.new 0).toldIn past = [⟨1, 0, .arrived "t" [1]⟩, ⟨1, 7, .delivered 3⟩] := by
  intro first second past owner
  have attributed : (SessionOwner.new 0).Attributed past := losses_attributed.1 Nat 0 past
  have left : ¬ owner.InPlace 1 := by
    rw [← any_iff_inPlace]
    decide
  have inPlace : owner.InPlace 2 := ⟨⟨second, none, 2⟩, rfl, rfl⟩
  have delivers : (SessionOwner.new 0).Delivers past ⟨second, none, 2⟩ :=
    ⟨past.take 7, .conclude 2 .connected, [], rfl, rfl, nofun⟩
  have lost := attributed.lost _ delivers inPlace "gone"
  have stale := (attributed.stale 1 left (.failed "late")).1
  exact ⟨left, inPlace, delivers, stale, by decide, lost.1, lost.2, by decide⟩

end SessionOwner

end ShellBridge
