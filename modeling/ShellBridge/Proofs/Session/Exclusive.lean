import ShellBridge.Proofs.Session.Guard

/-!
When the place for a session is held by one attempt at a time.

A call to disconnect frees the place although the attempt that reserved it goes on, and nothing in
the place tells whose reservation it is.  So the place is held by one attempt at a time in just the
runs in which no call to disconnect comes while an attempt is under way.
-/

namespace ShellBridge.SessionOwner

variable {η : Type}

/-- The attempt has reserved the place.  Only an attempt that begins reserves it, so this is the one
that began last. -/
def Holds (owner : SessionOwner η) (number : Nat) : Prop :=
  owner.slot = .reserved ∧ number = owner.begun

instance (owner : SessionOwner η) (number : Nat) : Decidable (owner.Holds number) :=
  inferInstanceAs (Decidable (_ ∧ _))

/-- The action leaves the session in place, or ends it by a call to disconnect or by a loss that its
own delivery task tells of. -/
def Respects (owner : SessionOwner η) (session : Session) (action : Action η) : Prop :=
  (∃ subscription,
      (owner.next action).slot = .occupied { session with subscription := subscription }) ∨
    (owner.next action).slot = .vacant ∧
      ((∃ answer, action = .disconnect answer) ∨
        ∃ cause, action = .report session.generation (.failed cause))

/-- The place is held by one attempt at a time. -/
structure Exclusive (owner : SessionOwner η) : Prop where
  alone : owner.attempts.length ≤ 1
  reserved_iff : owner.slot = .reserved ↔ owner.attempts.length = 1
  /-- An attempt that ends changes the place only if it has reserved it. -/
  concluded : ∀ number conclusion,
    (owner.conclude number conclusion).slot ≠ owner.slot → owner.Holds number
  /-- No other session takes the place of a session. -/
  kept : ∀ session, owner.slot = .occupied session → ∀ action, owner.Respects session action

/-- A reservation is made by an attempt that begins, and stays its own. -/
theorem Holds.of_next {owner : SessionOwner η} {action : Action η} {number : Nat}
    (holds : (owner.next action).Holds number) :
    owner.Holds number ∨
      owner.slot = .vacant ∧ number = owner.begun + 1 ∧ ∃ options, action = .connect options := by
  have change := owner.change_next action
  generalize owner.next action = after at change holds
  rcases holds with ⟨reserved, last⟩
  cases change with
  | nothing | stops | installs => exact .inl ⟨reserved, last⟩
  | begins options vacant => exact .inr ⟨vacant, last, options, rfl⟩
  | succeeds | subscribes | disconnects | loses => cases reserved
  | ends => by_cases was : owner.slot = .reserved <;> simp [was] at reserved

/-- A session is safe from everything but the end of an attempt, and from that if there is none. -/
theorem respects {owner : SessionOwner η} {session : Session}
    (occupied : owner.slot = .occupied session) (idle : owner.attempts = [])
    (action : Action η) : owner.Respects session action := by
  have unknown (number : Nat) (attempt : Attempt) : owner.attempt? number ≠ some attempt := by
    simp [attempt?, idle]
  have change := owner.change_next action
  unfold Respects
  generalize owner.next action = after at change ⊢
  cases change with
  | nothing | stops | installs => exact .inl ⟨session.subscription, occupied⟩
  | begins options vacant =>
      rw [occupied] at vacant
      cases vacant
  | succeeds found => exact absurd found (unknown _ _)
  | ends found sessionless => exact absurd found (unknown _ _)
  | subscribes current topic answer =>
      rw [occupied] at current
      cases current
      exact .inl ⟨some topic, rfl⟩
  | disconnects answer => exact .inr ⟨rfl, .inl ⟨answer, rfl⟩⟩
  | loses current cause =>
      rw [occupied] at current
      cases current
      exact .inr ⟨rfl, .inr ⟨cause, rfl⟩⟩

namespace Follows

variable {owner : SessionOwner η} {guard : Guard}

theorem alone (follows : Follows owner guard) : owner.attempts.length ≤ 1 := by
  rw [follows.attempts, Guard.attempts]
  cases guard.phase <;> simp

theorem reserved_iff (follows : Follows owner guard) :
    owner.slot = .reserved ↔ owner.attempts.length = 1 := by
  rw [follows.slot, follows.attempts, Guard.slot, Guard.attempts]
  cases guard.phase <;> simp

theorem holds_of_mem (follows : Follows owner guard) {attempt : Attempt}
    (membership : attempt ∈ owner.attempts) : owner.Holds attempt.number := by
  rw [follows.attempts] at membership
  rcases guard with ⟨phase, begun, established⟩
  cases phase with
  | disconnected | connected session delivering => simp [Guard.attempts] at membership
  | connecting number options =>
      rw [List.mem_singleton.mp membership]
      refine ⟨follows.slot, ?_⟩
      rw [follows.begun]
      exact follows.last number options rfl

theorem concluded (follows : Follows owner guard) (number : Nat)
    (conclusion : Exchange.Conclusion)
    (changed : (owner.conclude number conclusion).slot ≠ owner.slot) : owner.Holds number := by
  cases found : owner.attempt? number with
  | none =>
      rw [owner.conclude_of_unknown found] at changed
      exact absurd rfl changed
  | some attempt =>
      have named : attempt.number = number := by
        simpa using List.find?_some found
      rw [← named]
      exact follows.holds_of_mem (List.mem_of_find?_eq_some found)

theorem kept (follows : Follows owner guard) (session : Session)
    (occupied : owner.slot = .occupied session) (action : Action η) :
    owner.Respects session action := by
  apply respects occupied
  have place := follows.slot
  rw [occupied] at place
  rw [follows.attempts]
  rcases guard with ⟨phase, begun, established⟩
  cases phase with
  | disconnected | connecting number options => cases place
  | connected current delivering => rfl

theorem exclusive (follows : Follows owner guard) : owner.Exclusive :=
  ⟨follows.alone, follows.reserved_iff, follows.concluded, follows.kept⟩

end Follows

/-- A call to disconnect while an attempt is under way leaves an attempt without its reservation. -/
theorem Exclusive.attempts_eq_nil_of_disconnect {owner : SessionOwner η}
    {answer : Except String Unit} (before : owner.Exclusive)
    (after : (owner.next (.disconnect answer)).Exclusive) : owner.attempts = [] := by
  rw [owner.next_disconnect answer] at after
  have vacant : ¬ owner.attempts.length = 1 := by
    intro one
    have reserved := after.reserved_iff.mpr one
    cases reserved
  apply List.eq_nil_of_length_eq_zero
  have := before.alone
  omega

/-- The place is held by one attempt at a time all through a run, if and only if no call to
disconnect comes while an attempt is under way. -/
theorem exclusive_iff_calm (handler : η) (actions : List (Action η)) :
    (∀ before after, actions = before ++ after →
        ((SessionOwner.new handler).run before).Exclusive) ↔
      (SessionOwner.new handler).Calm actions := by
  constructor
  · intro exclusive before answer after split
    have first := exclusive before (.disconnect answer :: after) split
    have second := exclusive (before ++ [.disconnect answer]) after (by rw [split]; simp)
    rw [run_concat] at second
    exact first.attempts_eq_nil_of_disconnect second
  · intro calm before after split
    rw [split] at calm
    obtain ⟨follows, -⟩ := (Follows.new handler).run before calm.of_append
    exact follows.exclusive

/-- Two attempts overlap, the first of them interrupted.  When the first is given up, it frees the
reservation of the second; when both succeed, the session of the second is replaced. -/
theorem not_exclusive_of_interrupted :
    let first := SessionOptions.anonymous "a" "c"
    let second := SessionOptions.anonymous "b" "c"
    let owner := (SessionOwner.new ()).run
      [.connect first, .disconnect (.ok ()), .connect second]
    ¬ owner.Exclusive ∧ owner.attempts.length = 2 ∧
      owner.slot = .reserved ∧ ¬ owner.Holds 1 ∧ (owner.conclude 1 .cancelled).slot = .vacant ∧
      (owner.conclude 2 .connected).slot = .occupied ⟨second, none, 1⟩ ∧
      ((owner.conclude 2 .connected).conclude 1 .connected).slot = .occupied ⟨first, none, 2⟩ := by
  intro first second owner
  refine ⟨?_, by decide⟩
  intro exclusive
  exact absurd exclusive.alone (by decide)

end ShellBridge.SessionOwner
