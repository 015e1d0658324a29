import ShellBridge.Proofs.Session.Run

/-!
The owners of an exchange.

Whatever is done with an exchange, and whatever its network reports, nothing happens to its owners
but the actions of a run.  So what holds of all runs of an owner holds of the owners of an exchange.
-/

namespace ShellBridge

variable {η : Type}

namespace SessionOwner

/-- The owner is a new one after some actions. -/
def Ran (owner : SessionOwner η) : Prop :=
  ∃ handler actions, owner = (SessionOwner.new handler).run actions

namespace Ran

variable {owner : SessionOwner η}

theorem next (ran : owner.Ran) (action : Action η) : (owner.next action).Ran := by
  obtain ⟨handler, actions, after⟩ := ran
  refine ⟨handler, actions ++ [action], ?_⟩
  rw [run_concat, ← after]

theorem begin (ran : owner.Ran) (options : SessionOptions) : (owner.begin options).1.Ran := by
  have same : (owner.begin options).1 = owner.next (.connect options) := by
    rw [SessionOwner.next, perform]
    rcases owner.begin options with ⟨after, fault | ⟨- | number⟩⟩ <;> rfl
  rw [same]
  exact ran.next (.connect options)

theorem establish (ran : owner.Ran) (number : Nat) : (owner.establish number).1.Ran :=
  ran.next (.conclude number .connected)

theorem abandon (ran : owner.Ran) (number : Nat) : (owner.abandon number).Ran :=
  ran.next (.conclude number .cancelled)

theorem report (ran : owner.Ran) (generation : Nat) (report : Report) :
    (owner.report generation report).1.Ran :=
  ran.next (.report generation report)

theorem setHandler (ran : owner.Ran) (handler : η) : (owner.setHandler handler).Ran :=
  ran.next (.setHandler handler)

variable {σ : Type} (transport : Transport σ) (state : σ)

/-- The action carries the answer of this transport. -/
theorem subscribe (ran : owner.Ran) (topic : String) :
    (owner.subscribe transport topic state).1.1.Ran := by
  cases slot : owner.slot with
  | vacant | reserved =>
      unfold SessionOwner.subscribe
      simp only [slot]
      exact ran
  | occupied session =>
      cases subscription : session.subscription with
      | some existing =>
          unfold SessionOwner.subscribe
          simp only [slot, subscription]
          split <;> exact ran
      | none =>
          rcases asked : transport session.generation (.subscribe topic) state with ⟨answer, after⟩
          have stepped := ran.next (.subscribe topic answer)
          rw [SessionOwner.next,
            owner.perform_subscribe_of_unsubscribed topic answer slot subscription] at stepped
          unfold SessionOwner.subscribe
          simp only [slot, subscription, bind, StateT.bind, asked]
          cases answer with
          | error reason => exact ran
          | ok accepted => exact stepped

theorem disconnect (ran : owner.Ran) : (owner.disconnect transport state).1.Ran := by
  have same : (owner.disconnect transport state).1 = owner.next (.disconnect (.ok ())) := by
    rw [next_disconnect]
    unfold SessionOwner.disconnect
    cases owner.slot <;> rfl
  rw [same]
  exact ran.next (.disconnect (.ok ()))

end Ran

end SessionOwner

namespace Exchange

/-- What can be done with an exchange, and what its brokers do. -/
inductive Operation (η : Type) where
  | addOwner (handler : η)
  | setHandler (number : Nat) (handler : η)
  | dial (number : Nat) (options : SessionOptions)
  | conclude (pending : Pending) (patience : Option Nat)
  | subscribe (number : Nat) (topic : String)
  | publish (number : Nat) (publication : Publication)
  | disconnect (number : Nat)
  | publishFrom (broker : Nat) (publication : Publication)
  | dropFrom (broker : Nat)
  | settle
  | wait (millis : Nat)
  | clear

def perform (exchange : Exchange η) : Operation η → Exchange η
  | .addOwner handler => exchange.addOwner handler
  | .setHandler number handler => exchange.setHandler number handler
  | .dial number options => (dial number options exchange).2
  | .conclude pending patience => (conclude pending patience exchange).2
  | .subscribe number topic => (subscribe number topic exchange).2
  | .publish number publication => (publish number publication exchange).2
  | .disconnect number => (disconnect number exchange).2
  | .publishFrom broker publication => exchange.publishFrom broker publication
  | .dropFrom broker => exchange.dropFrom broker
  | .settle => exchange.settle
  | .wait millis => exchange.wait millis
  | .clear => exchange.clear

/-- All owners are new ones after some actions. -/
def OwnersRan (exchange : Exchange η) : Prop :=
  ∀ owner ∈ exchange.owners, owner.Ran

namespace OwnersRan

variable {exchange : Exchange η}

theorem of_owner? (ran : exchange.OwnersRan) {number : Nat} {owner : SessionOwner η}
    (found : exchange.owner? number = some owner) : owner.Ran :=
  ran owner (List.mem_of_getElem? found)

theorem setOwner (ran : exchange.OwnersRan) (number : Nat) {owner : SessionOwner η}
    (next : owner.Ran) : (exchange.setOwner number owner).OwnersRan := by
  intro other membership
  rcases List.mem_or_eq_of_mem_set membership with remaining | rfl
  · exact ran other remaining
  · exact next

theorem addOwner (ran : exchange.OwnersRan) (handler : η) :
    (exchange.addOwner handler).OwnersRan := by
  intro owner membership
  rcases List.mem_append.mp membership with remaining | added
  · exact ran owner remaining
  · rw [List.mem_singleton.mp added]
    exact ⟨handler, [], rfl⟩

theorem setHandler (ran : exchange.OwnersRan) (number : Nat) (handler : η) :
    (exchange.setHandler number handler).OwnersRan := by
  intro owner membership
  obtain ⟨place, inside⟩ := List.mem_iff_getElem?.mp membership
  rw [Exchange.setHandler, List.getElem?_modify] at inside
  obtain ⟨before, present, changed⟩ := Option.map_eq_some_iff.mp inside
  have known := ran before (List.mem_of_getElem? present)
  rw [← changed]
  split
  · exact known.setHandler handler
  · exact known

theorem deliver (ran : exchange.OwnersRan) (carried : Carried) (report : Report) :
    (exchange.deliver carried report).OwnersRan := by
  rw [Exchange.deliver]
  cases found : exchange.owner? carried.owner with
  | none => exact ran
  | some owner =>
      exact ran.setOwner carried.owner ((ran.of_owner? found).report carried.generation report)

theorem deliverAll (ran : exchange.OwnersRan) (reports : Network.Reports) :
    (exchange.deliverAll reports).OwnersRan := by
  induction reports generalizing exchange with
  | nil => exact ran
  | cons first rest inductionHypothesis =>
      exact inductionHypothesis (ran.deliver first.1 first.2)

theorem onNetwork (ran : exchange.OwnersRan) (change : Network → Network × Network.Reports) :
    (exchange.onNetwork change).OwnersRan := by
  have changed : OwnersRan { exchange with network := (change exchange.network).1 } := ran
  exact changed.deliverAll (change exchange.network).2

theorem dial (ran : exchange.OwnersRan) (number : Nat) (options : SessionOptions) :
    (Exchange.dial number options exchange).2.OwnersRan := by
  rw [Exchange.dial]
  cases found : exchange.owner? number with
  | none => exact ran
  | some owner =>
      have reserved := (ran.of_owner? found).begin options
      dsimp only
      rcases begun : owner.begin options with ⟨after, fault | ⟨- | attempt⟩⟩
      · exact ran
      · exact ran
      · rw [begun] at reserved
        have abandoned := ran.setOwner number (reserved.abandon attempt)
        dsimp only
        split
        next refusal refused => exact abandoned
        next address parsed =>
          split
          next network fault dialed => exact abandoned
          next network connection dialed => exact ran.setOwner number reserved

theorem abandon (ran : exchange.OwnersRan) (pending : Pending) :
    (exchange.abandon pending).OwnersRan := by
  have closed : OwnersRan
      { exchange with network := exchange.network.close pending.connection } := ran
  rw [Exchange.abandon]
  cases found : owner? { exchange with network := exchange.network.close pending.connection }
      pending.owner with
  | none => exact closed
  | some owner =>
      exact closed.setOwner pending.owner ((closed.of_owner? found).abandon pending.attempt)

theorem establish (ran : exchange.OwnersRan) (pending : Pending) :
    (exchange.establish pending).OwnersRan := by
  rw [Exchange.establish]
  cases found : exchange.owner? pending.owner with
  | none => exact ran
  | some owner =>
      have established := (ran.of_owner? found).establish pending.attempt
      rw [Option.map_some]
      rcases succeeded : owner.establish pending.attempt with ⟨after, - | generation⟩
      · exact ran
      · rw [succeeded] at established
        exact ran.setOwner pending.owner established

theorem conclude (ran : exchange.OwnersRan) (pending : Pending) (patience : Option Nat) :
    (Exchange.conclude pending patience exchange).2.OwnersRan := by
  have waited (millis : Nat) : (exchange.wait millis).OwnersRan := ran.onNetwork (·.wait millis)
  rw [Exchange.conclude]
  rcases answer exchange.network pending with ⟨time, verdict⟩
  dsimp only
  split
  · cases verdict with
    | ok accepted => exact (waited time).establish pending
    | error fault => exact (waited time).abandon pending
  · split <;> exact (waited _).abandon pending

/-- What an owner asks of its session. -/
theorem ask {α : Type} (ran : exchange.OwnersRan) (number : Nat) (absent : α)
    (action : SessionOwner η → StateM Network (SessionOwner η × α))
    (acts : ∀ owner network, owner.Ran → (action owner network).1.1.Ran) :
    (Exchange.ask number absent action exchange).2.OwnersRan := by
  rw [Exchange.ask]
  cases found : exchange.owner? number with
  | none => exact ran
  | some owner => exact ran.setOwner number (acts owner exchange.network (ran.of_owner? found))

theorem perform (ran : exchange.OwnersRan) (operation : Operation η) :
    (exchange.perform operation).OwnersRan := by
  cases operation with
  | addOwner handler => exact ran.addOwner handler
  | setHandler number handler => exact ran.setHandler number handler
  | dial number options => exact ran.dial number options
  | conclude pending patience => exact ran.conclude pending patience
  | subscribe number topic =>
      exact ran.ask number _ _ fun owner network before => before.subscribe _ network topic
  | publish number publication => exact ran.ask number _ _ fun owner network before => before
  | disconnect number =>
      exact ran.ask number _ _ fun owner network before => before.disconnect _ network
  | publishFrom | dropFrom | clear => exact ran
  | settle => exact ran.onNetwork Network.settle
  | wait millis => exact ran.onNetwork (·.wait millis)

theorem run (ran : exchange.OwnersRan) (operations : List (Operation η)) :
    (operations.foldl Exchange.perform exchange).OwnersRan := by
  induction operations generalizing exchange with
  | nil => exact ran
  | cons operation rest inductionHypothesis => exact inductionHypothesis (ran.perform operation)

end OwnersRan

/-- After any operations on an exchange, each of its owners is a new one after some actions. -/
theorem ran_of_owner? (network : Network) (operations : List (Operation η)) {number : Nat}
    {owner : SessionOwner η}
    (found : (operations.foldl perform (Exchange.new network)).owner? number = some owner) :
    owner.Ran := by
  have new : (Exchange.new network : Exchange η).OwnersRan := by
    rintro owner ⟨⟩
  exact (new.run operations).of_owner? found

end Exchange

end ShellBridge
