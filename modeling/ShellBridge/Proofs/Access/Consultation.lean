import ShellBridge.Access
import ShellBridge.Proofs.Publisher.Calls

/-!
What an authority is asked for requests to a registry.

An authority may remember what it was asked, and answer otherwise the next time.  Whatever it does,
it is consulted once for each request, in order: about the roles of the caller at that moment, and
then by one query that names these roles, what the request needs, and its target.  The answer to this
query decides.  Descriptors take no part in it.

The requests are those of six operations: a shell or a submodel is registered, unregistered or looked
up.
-/

namespace ShellBridge

variable {σ α β : Type}

namespace RegistryAction

/-- What an action needs: to write for a change, to read for a lookup. -/
inductive Needs : RegistryAction α → Permission → Prop
  | register : Needs .register .write
  | unregister : Needs .unregister .write
  | lookup (descriptor : α) : Needs (.lookup descriptor) .read

/-- What is handed out when an action is granted: the descriptor of a lookup, nothing for a
change. -/
inductive HandsOut : RegistryAction α → Option α → Prop
  | register : HandsOut .register none
  | unregister : HandsOut .unregister none
  | lookup (descriptor : α) : HandsOut (.lookup descriptor) (some descriptor)

theorem needs_permission (action : RegistryAction α) : action.Needs action.permission := by
  cases action with
  | register => exact .register
  | unregister => exact .unregister
  | lookup descriptor => exact .lookup descriptor

theorem handsOut_descriptor? (action : RegistryAction α) :
    action.HandsOut action.descriptor? := by
  cases action with
  | register => exact .register
  | unregister => exact .unregister
  | lookup descriptor => exact .lookup descriptor

/-- The action with another descriptor. -/
def map (f : α → β) : RegistryAction α → RegistryAction β
  | register => .register
  | unregister => .unregister
  | lookup descriptor => .lookup (f descriptor)

@[simp] theorem permission_map (f : α → β) (action : RegistryAction α) :
    (action.map f).permission = action.permission := by
  cases action <;> rfl

@[simp] theorem descriptor?_map (f : α → β) (action : RegistryAction α) :
    (action.map f).descriptor? = action.descriptor?.map f := by
  cases action <;> rfl

end RegistryAction

/-- The request with another descriptor. -/
def RegistryRequest.map (f : α → β) (request : RegistryRequest α) : RegistryRequest β :=
  ⟨request.action.map f, request.target⟩

namespace Authority

/-- What an authority was asked, and the answer. -/
inductive Consultation where
  | roles (answer : List String)
  | grants (query : Query) (answer : Bool)
  deriving DecidableEq, Repr

/-- A request, what was asked for it, and how it ended. -/
structure Turn (α : Type) where
  request : RegistryRequest α
  asked : List Consultation
  result : Except Denial (Option α)

/-- The roles of the caller are asked for, and one query about them is put to the rules.  If it is
granted the action is carried out; if not, the denial names what was needed and the target. -/
inductive Turn.Guarded : Turn α → Prop
  | granted {action : RegistryAction α} {permission : Permission} {handed : Option α}
      (target : Target) (roles : List String) :
      action.Needs permission → action.HandsOut handed →
        Guarded ⟨⟨action, target⟩,
          [.roles roles, .grants ⟨roles, permission, target⟩ true], .ok handed⟩
  | denied {action : RegistryAction α} {permission : Permission}
      (target : Target) (roles : List String) :
      action.Needs permission →
        Guarded ⟨⟨action, target⟩,
          [.roles roles, .grants ⟨roles, permission, target⟩ false], .error ⟨permission, target⟩⟩

/-- Whatever the rules answer, the turn is guarded. -/
theorem Turn.guarded_of_verdict (request : RegistryRequest α) (roles : List String)
    (granted : Bool) :
    Guarded ⟨request,
      [.roles roles, .grants ⟨roles, request.action.permission, request.target⟩ granted],
      if granted then .ok request.action.descriptor?
      else .error ⟨request.action.permission, request.target⟩⟩ := by
  have needed := request.action.needs_permission
  cases granted with
  | true => exact .granted request.target roles needed request.action.handsOut_descriptor?
  | false => exact .denied request.target roles needed

/-- The authority, with everything that it is asked noted. -/
def recording (authority : Authority σ) : Authority (σ × List Consultation) where
  roles := fun (state, log) =>
    let (roles, state) := authority.roles state
    (roles, state, log ++ [.roles roles])
  grants query := fun (state, log) =>
    let (granted, state) := authority.grants query state
    (granted, state, log ++ [.grants query granted])

section Runs

variable (authority : Authority σ)

/-- A request is answered by the verdict of the rules on the roles of the moment. -/
theorem answer_eq {request : RegistryRequest α} {state middle after : σ} {roles : List String}
    {granted : Bool} (asked : authority.roles state = (roles, middle))
    (verdict : authority.grants ⟨roles, request.action.permission, request.target⟩ middle =
      (granted, after)) :
    authority.answer request state =
      (if granted then .ok request.action.descriptor?
        else .error ⟨request.action.permission, request.target⟩, after) := by
  rw [answer, bind_apply, enforce, bind_apply, asked, bind_apply]
  dsimp only
  rw [verdict]
  cases granted <;> rfl

/-- The guarded operations: what each of them needs, what it is about, and what it hands out when
it is granted. -/
inductive Guards :
    StateM σ (Except Denial (Option α)) → Permission → Target → Option α → Prop
  | registerShell (shell : String) :
      Guards (authority.registerShell shell) .write ⟨shell, none⟩ none
  | registerSubmodel (shell submodel : String) :
      Guards (authority.registerSubmodel shell submodel) .write ⟨shell, some submodel⟩ none
  | unregisterShell (shell : String) :
      Guards (authority.unregisterShell shell) .write ⟨shell, none⟩ none
  | unregisterSubmodel (shell submodel : String) :
      Guards (authority.unregisterSubmodel shell submodel) .write ⟨shell, some submodel⟩ none
  | lookupShell (shell : String) (descriptor : α) :
      Guards (authority.lookupShell shell descriptor) .read ⟨shell, none⟩ (some descriptor)
  | lookupSubmodel (shell submodel : String) (descriptor : α) :
      Guards (authority.lookupSubmodel shell submodel descriptor) .read ⟨shell, some submodel⟩
        (some descriptor)

/-- Every request is answered by one of the guarded operations. -/
theorem exists_guards (request : RegistryRequest α) :
    ∃ permission target handed,
      authority.Guards (authority.answer request) permission target handed := by
  obtain ⟨action, shell, submodel?⟩ := request
  cases action with
  | register =>
      cases submodel? with
      | none => exact ⟨_, _, _, .registerShell shell⟩
      | some submodel => exact ⟨_, _, _, .registerSubmodel shell submodel⟩
  | unregister =>
      cases submodel? with
      | none => exact ⟨_, _, _, .unregisterShell shell⟩
      | some submodel => exact ⟨_, _, _, .unregisterSubmodel shell submodel⟩
  | lookup descriptor =>
      cases submodel? with
      | none => exact ⟨_, _, _, .lookupShell shell descriptor⟩
      | some submodel => exact ⟨_, _, _, .lookupSubmodel shell submodel descriptor⟩

/-- A guarded operation does what the rules answer to its own query. -/
theorem Guards.run_eq {operation : StateM σ (Except Denial (Option α))} {permission : Permission}
    {target : Target} {handed : Option α} {state middle after : σ} {roles : List String}
    {granted : Bool} (guards : authority.Guards operation permission target handed)
    (asked : authority.roles state = (roles, middle))
    (verdict : authority.grants ⟨roles, permission, target⟩ middle = (granted, after)) :
    operation state = (if granted then .ok handed else .error ⟨permission, target⟩, after) := by
  cases guards <;> exact authority.answer_eq asked verdict

/-- One request: it makes a guarded turn, and what is noted changes nothing. -/
theorem makes_answer (request : RegistryRequest α) (state : σ) :
    ∃ (turn : Turn α) (after : σ),
      Makes (authority.recording.answer request) state turn.result after turn.asked ∧
        authority.answer request state = (turn.result, after) ∧
        turn.request = request ∧ turn.Guarded := by
  cases asked : authority.roles state with
  | mk roles middle =>
      cases verdict :
          authority.grants ⟨roles, request.action.permission, request.target⟩ middle with
      | mk granted after =>
          refine ⟨_, after, ?_, authority.answer_eq asked verdict, rfl,
            Turn.guarded_of_verdict request roles granted⟩
          intro log
          have noted : authority.recording.roles (state, log) =
              (roles, middle, log ++ [.roles roles]) := by
            simp [recording, asked]
          have answered : authority.recording.grants
              ⟨roles, request.action.permission, request.target⟩
                (middle, log ++ [.roles roles]) =
              (granted, after, log ++ [.roles roles] ++
                [.grants ⟨roles, request.action.permission, request.target⟩ granted]) := by
            simp [recording, verdict]
          rw [authority.recording.answer_eq noted answered, List.append_assoc]
          rfl

theorem answerAll_cons (request : RegistryRequest α) (rest : List (RegistryRequest α))
    (state : σ) :
    authority.answerAll (request :: rest) state =
      ((authority.answer request state).1 ::
          (authority.answerAll rest (authority.answer request state).2).1,
        (authority.answerAll rest (authority.answer request state).2).2) := by
  rw [answerAll, List.mapM_cons]
  rfl

/-- Requests, from any point on. -/
theorem makes_answerAll (requests : List (RegistryRequest α)) (state : σ) :
    ∃ (turns : List (Turn α)) (after : σ),
      Makes (authority.recording.answerAll requests) state (turns.map Turn.result) after
          (turns.flatMap Turn.asked) ∧
        authority.answerAll requests state = (turns.map Turn.result, after) ∧
        turns.map Turn.request = requests ∧ ∀ turn ∈ turns, turn.Guarded := by
  induction requests generalizing state with
  | nil => exact ⟨[], state, Makes.nothing [] state, rfl, rfl, by simp⟩
  | cons request rest inductionHypothesis =>
      obtain ⟨turn, middle, makes, answered, same, guarded⟩ :=
        authority.makes_answer request state
      obtain ⟨turns, after, continues, others, followed, guardedRest⟩ := inductionHypothesis middle
      refine ⟨turn :: turns, after, ?_, ?_, ?_, ?_⟩
      · rw [answerAll, List.mapM_cons]
        exact makes.andThen (continues.returning _)
      · rw [answerAll_cons, answered]
        dsimp only
        rw [others, List.map_cons]
      · rw [List.map_cons, same, followed]
      · exact List.forall_mem_cons.mpr ⟨guarded, guardedRest⟩

/-- A descriptor takes no part in what happens to its request. -/
theorem answer_map (f : α → β) (request : RegistryRequest α) (state : σ) :
    authority.answer (request.map f) state =
      ((authority.answer request state).1.map (Option.map f),
        (authority.answer request state).2) := by
  cases asked : authority.roles state with
  | mk roles middle =>
      cases verdict :
          authority.grants ⟨roles, request.action.permission, request.target⟩ middle with
      | mk granted after =>
          have mapped : authority.grants
              ⟨roles, (request.map f).action.permission, (request.map f).target⟩ middle =
              (granted, after) := by
            rw [← verdict, RegistryRequest.map, RegistryAction.permission_map]
          rw [authority.answer_eq asked verdict, authority.answer_eq asked mapped,
            RegistryRequest.map, RegistryAction.permission_map, RegistryAction.descriptor?_map]
          cases granted <;> rfl

theorem answerAll_map (f : α → β) (requests : List (RegistryRequest α)) (state : σ) :
    authority.answerAll (requests.map (RegistryRequest.map f)) state =
      ((authority.answerAll requests state).1.map (Except.map (Option.map f)),
        (authority.answerAll requests state).2) := by
  induction requests generalizing state with
  | nil => rfl
  | cons request rest inductionHypothesis =>
      rw [List.map_cons, answerAll_cons, answerAll_cons, answer_map]
      dsimp only
      rw [inductionHypothesis]
      rfl

end Runs

/-- Rules that grant the first query of a caller with the role, and deny what follows. -/
def grantingOnce (role : String) : Authority Bool where
  roles := pure [role]
  grants query := fun unused => (unused && query.roles.contains role, false)

example :
    (grantingOnce "guest").recording.answerAll
        [⟨.lookup 7, ⟨"shell", none⟩⟩, ⟨.lookup 8, ⟨"shell", some "submodel"⟩⟩] (true, []) =
      ([.ok (some 7), .error ⟨.read, ⟨"shell", some "submodel"⟩⟩], false,
        [.roles ["guest"], .grants ⟨["guest"], .read, ⟨"shell", none⟩⟩ true,
          .roles ["guest"], .grants ⟨["guest"], .read, ⟨"shell", some "submodel"⟩⟩ false]) := by
  rfl

end Authority

end ShellBridge
