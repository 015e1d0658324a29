import ShellBridge.Publisher

/-!
What is handed to the transport.

The transport is any publisher.  Every call is noted with its answer, so that an action is described
by the calls that it makes.
-/

namespace ShellBridge

/-- Opens a sequence of actions at its first one. -/
theorem bind_apply {σ α β : Type} (action : StateM σ α) (next : α → StateM σ β) (state : σ) :
    (action >>= next) state = next (action state).1 (action state).2 :=
  rfl

/-- A publication that was handed to the transport, and the answer. -/
structure Call where
  publication : Publication
  answer : Except PublishError Unit

/-- The transport, with every call noted. -/
def recording {σ : Type} (publish : Publisher σ) : Publisher (σ × List Call) :=
  fun publication (state, calls) =>
    let (answer, state) := publish publication state
    (answer, state, calls ++ [⟨publication, answer⟩])

section Calls

variable {σ κ α β : Type}

/-- From a state of the transport the action gives a result, leads to a state, and makes calls,
whatever was noted before. -/
def Makes (action : StateM (σ × List κ) α) (state : σ) (result : α) (after : σ)
    (calls : List κ) : Prop :=
  ∀ log, action (state, log) = (result, after, log ++ calls)

namespace Makes

theorem nothing (result : α) (state : σ) :
    Makes (pure result) state result state ([] : List κ) := by
  intro log
  rw [List.append_nil]
  rfl

theorem andThen {action : StateM (σ × List κ) α} {next : α → StateM (σ × List κ) β}
    {state middle after : σ} {result : α} {final : β} {calls more : List κ}
    (first : Makes action state result middle calls)
    (second : Makes (next result) middle final after more) :
    Makes (action >>= next) state final after (calls ++ more) := by
  intro log
  rw [bind_apply, first log, ← List.append_assoc]
  exact second (log ++ calls)

/-- What is made of the result makes no further call. -/
theorem returning {action : StateM (σ × List κ) α} {state after : σ} {result : α}
    {calls : List κ} (first : Makes action state result after calls) (finish : α → β) :
    Makes (action >>= fun result => pure (finish result)) state (finish result) after calls := by
  intro log
  rw [bind_apply, first log]
  rfl

theorem publication (publish : Publisher σ) (publication : Publication) (state : σ) :
    Makes (recording publish publication) state (publish publication state).1
      (publish publication state).2 [⟨publication, (publish publication state).1⟩] :=
  fun _ => rfl

end Makes

end Calls

end ShellBridge
