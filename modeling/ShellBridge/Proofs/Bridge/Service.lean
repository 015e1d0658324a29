import Mathlib.Data.List.Induction
import ShellBridge.Exchange
import ShellBridge.Proofs.Bridge.Run

/-!
The service of a bridge, from the bytes of its input to the end of its session.

The input may arrive in any pieces: what is told of are its lines.  So a run depends on the
publications of these lines and on what its session answers, and on nothing else.
-/

namespace ShellBridge

/-! ### An input in pieces -/

namespace RunningBridge

variable {σ : Type} (uplink : Uplink σ)

/-- Takes one piece of the input after the other. -/
def takeAll (running : RunningBridge) (pieces : List Bytes) : StateM σ RunningBridge :=
  pieces.foldlM (fun running piece => running.take uplink piece) running

theorem takeAll_concat (running : RunningBridge) (pieces : List Bytes) (piece : Bytes) :
    running.takeAll uplink (pieces ++ [piece]) =
      running.takeAll uplink pieces >>= fun running => running.take uplink piece := by
  simp [takeAll]

theorem finish_of_stopped (bridge : Bridge) (reader : Text.LineReader) :
    finish uplink ⟨bridge, reader, true⟩ = pure ⟨bridge, reader, true⟩ :=
  rfl

theorem finish_of_going (bridge : Bridge) (reader : Text.LineReader) :
    finish uplink ⟨bridge, reader, false⟩ = (do
      bridge.takeLines uplink reader.finish
      uplink.disconnect
      return ⟨bridge, reader, true⟩) :=
  rfl

/-- Pieces that do not end the input are told of as the lines that they make up. -/
theorem takeAll_of_going (bridge : Bridge) {pieces : List Bytes}
    (going : (Text.LineReader.start.take pieces.flatten).1.ended = false) :
    (of bridge).takeAll uplink pieces = (do
      bridge.takeLines uplink (Text.LineReader.start.take pieces.flatten).2
      return ⟨bridge, (Text.LineReader.start.take pieces.flatten).1, false⟩) := by
  induction pieces using List.reverseRecOn with
  | nil => rfl
  | append_singleton pieces piece inductionHypothesis =>
      rw [List.flatten_append, List.flatten_singleton] at going ⊢
      cases before : (Text.LineReader.start.take pieces.flatten).1.ended with
      | true =>
          rw [(Text.LineReader.take_append_of_ended before piece).2] at going
          cases going
      | false =>
          rw [Text.LineReader.take_append before] at going ⊢
          dsimp only at going
          rw [takeAll_concat, inductionHypothesis before, Bridge.takeLines_append]
          simp only [bind_assoc, pure_bind, take, going, Bool.false_eq_true, if_false]

/-- A bridge whose input ended told of the lines in front of that, and gave up the session. -/
theorem takeAll_of_ended (bridge : Bridge) {pieces : List Bytes}
    (ended : (Text.LineReader.start.take pieces.flatten).1.ended = true) :
    ∃ reader, (of bridge).takeAll uplink pieces = (do
      bridge.takeLines uplink (Text.LineReader.start.take pieces.flatten).2
      uplink.disconnect
      return ⟨bridge, reader, true⟩) := by
  induction pieces using List.reverseRecOn with
  | nil => cases ended
  | append_singleton pieces piece inductionHypothesis =>
      rw [List.flatten_append, List.flatten_singleton] at ended ⊢
      cases before : (Text.LineReader.start.take pieces.flatten).1.ended with
      | true =>
          obtain ⟨reader, taken⟩ := inductionHypothesis before
          refine ⟨reader, ?_⟩
          rw [(Text.LineReader.take_append_of_ended before piece).1, takeAll_concat, taken]
          simp only [bind_assoc, pure_bind, take, if_true]
      | false =>
          refine ⟨((Text.LineReader.start.take pieces.flatten).1.take piece).1, ?_⟩
          rw [Text.LineReader.take_append before] at ended ⊢
          dsimp only at ended
          rw [takeAll_concat, takeAll_of_going uplink bridge before, Bridge.takeLines_append]
          simp only [bind_assoc, pure_bind, take, ended, stop, Bool.false_eq_true, if_false,
            if_true]

end RunningBridge

/-! ### The session in the end -/

theorem SessionOwner.slot_of_disconnect {η σ : Type} (transport : Transport σ)
    (owner : SessionOwner η) (state : σ) :
    (owner.disconnect transport state).1.slot = .vacant := by
  unfold SessionOwner.disconnect
  cases owner.slot with
  | vacant | reserved => rfl
  | occupied session => rfl

theorem Exchange.slot_of_disconnect {η : Type} {exchange : Exchange η} {number : Nat}
    {owner : SessionOwner η}
    (found : (Exchange.disconnect number exchange).2.owner? number = some owner) :
    owner.slot = .vacant := by
  unfold Exchange.disconnect ask at found
  cases present : exchange.owner? number with
  | none =>
      simp only [present] at found
      cases found
  | some before =>
      simp only [present] at found
      have replaced : (exchange.owners.set number
          (before.disconnect (Network.transport number) exchange.network).1)[number]? =
          some owner := found
      obtain ⟨inside, -⟩ := List.getElem?_eq_some_iff.mp present
      rw [List.getElem?_set_self inside] at replaced
      rw [← Option.some.inj replaced]
      exact before.slot_of_disconnect _ _

namespace Bridge

section

variable {σ : Type} (uplink : Uplink σ) (configuration : Configuration)

/-- Runs a bridge on an input that arrives in pieces. -/
def runInPieces (pieces : List Bytes) : StateM σ (Except Failure Unit) := do
  match ← start uplink configuration with
  | .error failure =>
      uplink.disconnect
      return .error failure
  | .ok bridge =>
      let running ← (RunningBridge.of bridge).takeAll uplink pieces
      let _ ← running.finish uplink
      return .ok ()

/-- How an input is cut into pieces makes no difference. -/
theorem runInPieces_eq (pieces : List Bytes) :
    runInPieces uplink configuration pieces = runOn uplink configuration pieces.flatten := by
  rw [runInPieces, runOn, run]
  apply bind_congr
  intro started
  cases started with
  | error failure => rfl
  | ok bridge =>
      dsimp only [Text.lines]
      cases ended : (Text.LineReader.start.take pieces.flatten).1.ended with
      | true =>
          obtain ⟨reader, taken⟩ := RunningBridge.takeAll_of_ended uplink bridge ended
          have nothing : (Text.LineReader.start.take pieces.flatten).1.finish = [] := by
            rw [Text.LineReader.finish, ended]
            rfl
          rw [taken, nothing, List.append_nil]
          simp only [bind_assoc, pure_bind, RunningBridge.finish_of_stopped]
      | false =>
          rw [RunningBridge.takeAll_of_going uplink bridge ended]
          simp only [bind_assoc, pure_bind, RunningBridge.finish_of_going, takeLines_append]

end

/-- What holds of the runs of a bridge on an input that consists of lines and of what is left behind
the last line feed. -/
structure Serves (configuration : Configuration) (lines : List String) (last : String) : Prop where
  /-- The requests of a run, the answers and the result make up one of the courses, whatever the
  session is. -/
  course : ∀ {σ : Type} (uplink : Uplink σ) (state : σ), ∃ result after calls,
    runOn uplink.recording configuration (Text.joinLines lines last) (state, []) =
        (result, after, calls) ∧
      Course configuration (lines ++ [last]) result calls
  /-- It makes no difference in which pieces the input arrives. -/
  cut : ∀ {σ : Type} (uplink : Uplink σ) (pieces : List Bytes),
    pieces.flatten = Text.joinLines lines last →
      runInPieces uplink configuration pieces =
        runOn uplink configuration (Text.joinLines lines last)
  /-- A bridge that was started, be it out of reach of its broker or not, reads all the lines. -/
  consumed : ∀ {σ : Type} (uplink : Uplink σ) (state middle : σ) (bridge : Bridge)
    (pieces : List Bytes), start uplink configuration state = (.ok bridge, middle) →
      pieces.flatten = Text.joinLines lines last →
        ((RunningBridge.of bridge).takeAll uplink pieces middle).1 =
          ⟨bridge, ⟨utf8 last, false⟩, false⟩
  /-- Lines without publications may be inserted or deleted: whatever has the same publications is
  served in the same way. -/
  unaffected : ∀ {σ : Type} (uplink : Uplink σ) (others : List String) (otherLast : String),
    (∀ line ∈ others ++ [otherLast], '\n' ∉ line.toList) →
      (others ++ [otherLast]).flatMap configuration.published =
          (lines ++ [last]).flatMap configuration.published →
        runOn uplink configuration (Text.joinLines others otherLast) =
          runOn uplink configuration (Text.joinLines lines last)
  /-- There is no session in the end. -/
  disconnected : ∀ {η : Type} (exchange : Exchange η) (number : Nat) (owner : SessionOwner η),
    (runOn (Exchange.uplink number) configuration (Text.joinLines lines last)
        exchange).2.owner? number = some owner → owner.slot = .vacant

/-- Of an input only the publications of its lines matter. -/
theorem runOn_eq_program {σ : Type} (uplink : Uplink σ) (configuration : Configuration)
    {lines : List String} {last : String} (plain : ∀ line ∈ lines ++ [last], '\n' ∉ line.toList) :
    runOn uplink configuration (Text.joinLines lines last) =
      program uplink configuration ((lines ++ [last]).flatMap configuration.published) := by
  rw [List.forall_mem_append, List.forall_mem_singleton] at plain
  rw [runOn, run_eq_program, configuration.flatMap_published_lines plain.1 plain.2]

/-- A session that is out of reach. -/
def outOfReach : Uplink Unit where
  connect _ := pure (.error .notConnected)
  subscribe _ := pure (.error .notConnected)
  publish _ := pure (.error .notConnected)
  disconnect := pure ()

end Bridge

end ShellBridge
