import ShellBridge.Proofs.Session.Run

/-!
Calls to disconnect while an attempt is under way.

Such a call frees the place, and the attempt goes on without its reservation.  The owner stays
disconnected until an attempt succeeds, and an interrupted attempt that succeeds takes the place
like any other.  So the call is final for the attempts that it interrupts in just the runs in which
none of these succeeds.
-/

namespace ShellBridge.SessionOwner

variable {η : Type}

/-- The numbers of the attempts under way. -/
def underWay (owner : SessionOwner η) : List Nat :=
  owner.attempts.map (·.number)

/-- The attempt makes the owner connected if it succeeds now: there is a session then that was not
there before. -/
def Connects (owner : SessionOwner η) (number : Nat) : Prop :=
  ∃ session, (owner.next (.conclude number .connected)).session? = some session ∧
    owner.session? ≠ some session

/-- A call to disconnect is final for the attempts that it interrupts, in what comes later. -/
structure DisconnectFinal (owner : SessionOwner η) (answer : Except String Unit)
    (later : List (Action η)) : Prop where
  /-- None of these attempts makes the owner connected. -/
  interrupted : ∀ before number after, later = before ++ .conclude number .connected :: after →
    number ∈ owner.underWay → ¬ ((owner.next (.disconnect answer)).run before).Connects number
  /-- The owner is not connected before an attempt succeeds that began after the call. -/
  awaited : ∀ before after, later = before ++ after →
    ((owner.next (.disconnect answer)).run before).isConnected = true →
      ∃ earlier number rest, before = earlier ++ .conclude number .connected :: rest ∧
        owner.begun < number ∧ ((owner.next (.disconnect answer)).run earlier).Connects number

theorem mem_underWay_iff {owner : SessionOwner η} {number : Nat} :
    number ∈ owner.underWay ↔ ∃ attempt, owner.attempt? number = some attempt := by
  rw [← Option.isSome_iff_exists]
  simp [attempt?, underWay]

/-- What is in place after an attempt that ends without a session was so before. -/
theorem session?_of_freed {owner : SessionOwner η} {session : Session}
    (found : (if owner.slot = .reserved then Slot.vacant else owner.slot).session? = some session) :
    owner.session? = some session := by
  split at found
  · cases found
  · exact found

namespace Change

variable {owner after : SessionOwner η} {action : Action η}

/-- Without a session, only an attempt that succeeds makes one. -/
theorem isConnected (change : Change owner action after) (connected : after.isConnected = true) :
    owner.isConnected = true ∨
      ∃ number ∈ owner.underWay, action = .conclude number .connected := by
  obtain ⟨session, found⟩ := Option.isSome_iff_exists.mp connected
  cases change with
  | nothing | stops | installs => exact .inl connected
  | begins | disconnects | loses => cases found
  | succeeds known => exact .inr ⟨_, mem_underWay_iff.mpr ⟨_, known⟩, rfl⟩
  | ends =>
      left
      rw [SessionOwner.isConnected, session?_of_freed found]
      rfl
  | subscribes occupied topic answer =>
      left
      rw [SessionOwner.isConnected, session?, occupied]
      rfl

theorem begun_le (change : Change owner action after) : owner.begun ≤ after.begun := by
  cases change with
  | begins => exact Nat.le_succ _
  | nothing | succeeds | ends | subscribes | disconnects | stops | loses | installs =>
      exact Nat.le_refl _

/-- An attempt that is under way was so before, or began just now. -/
theorem mem_underWay (change : Change owner action after) {number : Nat}
    (membership : number ∈ after.underWay) : number ∈ owner.underWay ∨ owner.begun < number := by
  cases change with
  | nothing | subscribes | disconnects | stops | loses | installs => exact .inl membership
  | begins options vacant =>
      simp only [underWay, List.map_append, List.map_cons, List.map_nil, List.mem_append,
        List.mem_singleton] at membership
      rcases membership with earlier | began
      · exact .inl earlier
      · exact .inr (by omega)
  | succeeds | ends =>
      left
      simp only [underWay, endAttempt, List.mem_map, List.mem_filter] at membership ⊢
      obtain ⟨attempt, ⟨remaining, -⟩, named⟩ := membership
      exact ⟨attempt, remaining, named⟩

/-- The generation of a session is counted. -/
theorem generation_le (change : Change owner action after)
    (counted : ∀ session, owner.session? = some session → session.generation ≤ owner.generations)
    (session : Session) (found : after.session? = some session) :
    session.generation ≤ after.generations := by
  cases change with
  | nothing | stops | installs => exact counted session found
  | begins | disconnects | loses => cases found
  | succeeds =>
      cases found
      exact Nat.le_refl _
  | ends => exact counted session (session?_of_freed found)
  | @subscribes current occupied topic answer =>
      cases found
      have former : owner.session? = some current := by
        rw [session?, occupied]
        rfl
      exact counted current former

end Change

section Runs

variable (owner : SessionOwner η)

theorem mem_underWay_of_run (actions : List (Action η)) {number : Nat}
    (membership : number ∈ (owner.run actions).underWay) :
    number ∈ owner.underWay ∨ owner.begun < number := by
  induction actions generalizing owner with
  | nil => exact .inl membership
  | cons action rest inductionHypothesis =>
      have change := owner.change_next action
      rcases inductionHypothesis (owner.next action) membership with earlier | later
      · exact change.mem_underWay earlier
      · exact .inr (Nat.lt_of_le_of_lt change.begun_le later)

theorem generation_le_run (actions : List (Action η))
    (counted : ∀ session, owner.session? = some session → session.generation ≤ owner.generations)
    (session : Session) (found : (owner.run actions).session? = some session) :
    session.generation ≤ (owner.run actions).generations := by
  induction actions generalizing owner with
  | nil => exact counted session found
  | cons action rest inductionHypothesis =>
      exact inductionHypothesis (owner.next action)
        ((owner.change_next action).generation_le counted) found

/-- A run that begins without a session and ends with one holds an attempt that succeeded. -/
theorem exists_success_of_connected (absent : owner.isConnected = false)
    (actions : List (Action η)) (connected : (owner.run actions).isConnected = true) :
    ∃ before number after, actions = before ++ .conclude number .connected :: after ∧
      number ∈ (owner.run before).underWay := by
  induction actions generalizing owner with
  | nil =>
      rw [run_nil, absent] at connected
      cases connected
  | cons action rest inductionHypothesis =>
      cases later : (owner.next action).isConnected with
      | true =>
          rcases (owner.change_next action).isConnected later with before | ⟨number, mem, succeeds⟩
          · rw [absent] at before
            cases before
          · exact ⟨[], number, rest, by rw [succeeds]; rfl, mem⟩
      | false =>
          obtain ⟨before, number, after, split, mem⟩ :=
            inductionHypothesis (owner.next action) later connected
          exact ⟨action :: before, number, after, by rw [split]; rfl, mem⟩

end Runs

/-- An attempt that succeeds makes the owner connected whenever it is under way, with or without a
reservation. -/
theorem connects_iff {owner : SessionOwner η}
    (counted : ∀ session, owner.session? = some session → session.generation ≤ owner.generations)
    (number : Nat) : owner.Connects number ↔ number ∈ owner.underWay := by
  rw [mem_underWay_iff, Connects, next, perform]
  constructor
  · rintro ⟨session, found, new⟩
    cases known : owner.attempt? number with
    | none =>
        rw [owner.conclude_of_unknown known] at found
        exact absurd found new
    | some attempt => exact ⟨attempt, rfl⟩
  · rintro ⟨attempt, known⟩
    refine ⟨⟨attempt.options, none, owner.generations + 1⟩, ?_, ?_⟩
    · rw [owner.conclude_connected known]
      rfl
    · intro former
      exact absurd (counted _ former) (Nat.not_succ_le_self _)

/-- A call to disconnect is final for the attempts that it interrupts, if and only if none of them
succeeds after it. -/
theorem disconnect_final_iff (handler : η) (earlier later : List (Action η))
    (answer : Except String Unit) :
    ((SessionOwner.new handler).run earlier).DisconnectFinal answer later ↔
      ∀ before number after, later = before ++ .conclude number .connected :: after →
        number ∈ ((SessionOwner.new handler).run earlier).underWay →
          number ∉ ((((SessionOwner.new handler).run earlier).next (.disconnect answer)).run
            before).underWay := by
  have connects (before : List (Action η)) (number : Nat) :
      ((((SessionOwner.new handler).run earlier).next (.disconnect answer)).run
          before).Connects number ↔
        number ∈ ((((SessionOwner.new handler).run earlier).next (.disconnect answer)).run
          before).underWay := by
    apply connects_iff
    have counted := (SessionOwner.new handler).generation_le_run
      (earlier ++ .disconnect answer :: before) (by rintro session ⟨⟩)
    rw [run_append, run_cons] at counted
    exact counted
  constructor
  · intro final before number after split interrupted
    rw [← connects]
    exact final.interrupted before number after split interrupted
  · intro spared
    constructor
    · intro before number after split interrupted
      rw [connects]
      exact spared before number after split interrupted
    · intro before after split connected
      have absent : (((SessionOwner.new handler).run earlier).next
          (.disconnect answer)).isConnected = false := by
        rw [next_disconnect]
        rfl
      obtain ⟨first, number, rest, inside, mem⟩ :=
        exists_success_of_connected _ absent before connected
      refine ⟨first, number, rest, inside, ?_, (connects first number).mpr mem⟩
      rcases mem_underWay_of_run _ first mem with interrupted | began
      · rw [next_disconnect] at interrupted
        refine absurd mem (spared first number (rest ++ after) ?_ interrupted)
        rw [split, inside, List.append_assoc]
        rfl
      · rw [next_disconnect] at began
        exact began

/-- An attempt that is interrupted and then succeeds. -/
theorem not_disconnectFinal_of_success :
    ¬ ((SessionOwner.new ()).run [.connect (.anonymous "a" "c")]).DisconnectFinal (.ok ())
        [.conclude 1 .connected] ∧
      ((SessionOwner.new ()).run [.connect (.anonymous "a" "c"), .disconnect (.ok ()),
        .conclude 1 .connected]).isConnected = true := by
  refine ⟨?_, by decide⟩
  intro final
  exact final.interrupted [] 1 [] rfl (by decide)
    ⟨⟨.anonymous "a" "c", none, 1⟩, by decide, by decide⟩

end ShellBridge.SessionOwner
