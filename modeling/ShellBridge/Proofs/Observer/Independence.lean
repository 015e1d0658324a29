import ShellBridge.Proofs.Observer.Own

/-!
Observers on one registry do not affect each other.

Around a registry are any number of observers, each with a filter and a publisher of its own.  What
is done with single observers, registrations and notifications follow each other in any order.  The
calls of an observer are those that it makes alone when it is told of every event that the registry
is notified of, once for each time that it has registered before.
-/

namespace ShellBridge

namespace Registry

/-- What can happen around a registry. -/
inductive Operation where
  /-- Something is done with the observer of the number. -/
  | act (number : Nat) (operation : Observer.Operation)
  /-- The observer of the number is registered, whatever its phase. -/
  | register (number : Nat)
  /-- The registry is notified of an event. -/
  | notify (event : Event)

namespace Operation

/-- Does the operation, where the registry is that of a model. -/
def perform {τ : Type} (publish : Nat → Publisher τ) (model : Nat) (ensemble : Ensemble) :
    Operation → StateM τ Ensemble
  | .act number operation => operation.perform publish number ensemble
  | .register number =>
      return { ensemble with models := ensemble.models.modify model (·.register number) }
  | .notify event => do
      ensemble.notify publish model event
      return ensemble

/-- Notifications concern all observers, other operations one. -/
def concerns (number : Nat) : Operation → Bool
  | .act acting _ => acting = number
  | .register registering => registering = number
  | .notify _ => true

end Operation

/-- Does one operation after the other. -/
def performAll {τ : Type} (publish : Nat → Publisher τ) (model : Nat) :
    List Operation → Ensemble → StateM τ Ensemble
  | [], ensemble => return ensemble
  | operation :: rest, ensemble => do
      performAll publish model rest (← operation.perform publish model ensemble)

/-- An operation with the calls that it made, each with the observer that made it. -/
structure Step where
  operation : Operation
  calls : List (Nat × Call)

namespace Step

/-- The observers that the step registered: attaching registers if the announcement was
accepted. -/
def registrations (model : Nat) (step : Step) : List Nat :=
  match step.operation with
  | .act number operation =>
      Observer.Step.registrations number model ⟨operation, callsOf number step.calls⟩
  | .register number => [number]
  | .notify _ => []

/-- What the observer of a number takes part in, of a step before which the given observers have
registered: what is done with it, and every notification once for each time it has registered. -/
def heard (number : Nat) (registered : List Nat) (step : Step) : List Observer.Operation :=
  match step.operation with
  | .act acting operation => if acting = number then [operation] else []
  | .register _ => []
  | .notify event => List.replicate (registered.count number) (.tell event)

variable {number acting model : Nat} {calls more : List (Nat × Call)}

theorem heard_act (number : Nat) (registered : List Nat) (operation : Observer.Operation)
    (calls : List (Nat × Call)) : heard number registered ⟨.act number operation, calls⟩ =
      [operation] :=
  if_pos rfl

theorem heard_act_of_ne (different : acting ≠ number) (registered : List Nat)
    (operation : Observer.Operation) (calls : List (Nat × Call)) :
    heard number registered ⟨.act acting operation, calls⟩ = [] :=
  if_neg different

theorem count_registrations_act_of_ne (different : acting ≠ number)
    (operation : Observer.Operation) (calls : List (Nat × Call)) :
    (registrations model ⟨.act acting operation, calls⟩).count number = 0 := by
  apply List.count_eq_zero.mpr
  simp only [registrations, Observer.Step.registrations]
  split
  · split <;> simp [Ne.symm different]
  · simp

/-- What an observer takes part in depends on the others in no way. -/
theorem heard_congr {registered others : List Nat}
    (same : registered.count number = others.count number) (operation : Operation) :
    heard number registered ⟨operation, calls⟩ = heard number others ⟨operation, more⟩ := by
  cases operation with
  | act acting operation => rfl
  | register registering => rfl
  | notify event => simp only [heard, same]

theorem count_registrations_congr (same : callsOf number calls = callsOf number more)
    (operation : Operation) :
    (registrations model ⟨operation, calls⟩).count number =
      (registrations model ⟨operation, more⟩).count number := by
  cases operation with
  | act acting operation =>
      by_cases here : acting = number
      · simp only [registrations, here, same]
      · rw [count_registrations_act_of_ne here, count_registrations_act_of_ne here]
  | register registering => rfl
  | notify event => rfl

theorem count_registrations_of_not_concerns {operation : Operation}
    (unconcerned : operation.concerns number = false) (calls : List (Nat × Call)) :
    (registrations model ⟨operation, calls⟩).count number = 0 := by
  cases operation with
  | act acting operation =>
      exact count_registrations_act_of_ne (of_decide_eq_false unconcerned) operation calls
  | register registering =>
      exact List.count_singleton.trans (if_neg (by simpa [Operation.concerns] using unconcerned))
  | notify event => cases unconcerned

theorem heard_of_not_concerns {operation : Operation}
    (unconcerned : operation.concerns number = false) (registered : List Nat)
    (calls : List (Nat × Call)) : heard number registered ⟨operation, calls⟩ = [] := by
  cases operation with
  | act acting operation =>
      exact heard_act_of_ne (of_decide_eq_false unconcerned) registered operation calls
  | register registering => rfl
  | notify event => cases unconcerned

end Step

/-- What the observer of a number takes part in, of all steps. -/
def heard (number model : Nat) : List Nat → List Step → List Observer.Operation
  | _, [] => []
  | registered, step :: rest =>
      step.heard number registered ++
        heard number model (registered ++ step.registrations model) rest

variable {σ : Type} {model : Nat}

/-- Observers around the registry of a model, with the states of their publishers. -/
structure Gathering (σ : Type) (model : Nat) where
  ensemble : Ensemble
  separate : ensemble.Separate
  /-- Those that have registered. -/
  registered : List Nat
  lists : ensemble.models[model]? = some ⟨registered⟩
  states : Nat → σ

namespace Gathering

/-- Does the operations, with all calls noted. -/
def run (publish : Nat → Publisher σ) (gathering : Gathering σ model)
    (operations : List Operation) : Ensemble × (Nat → σ) × List (Nat × Call) :=
  performAll (recordingEach publish) model operations gathering.ensemble (gathering.states, [])

/-- Two gatherings are the same for the observer of a number. -/
structure Agree (gathering other : Gathering σ model) (number : Nat) : Prop where
  held : ∃ observer filter, gathering.ensemble.Holds number observer filter ∧
    other.ensemble.Holds number observer filter
  registered : gathering.registered.count number = other.registered.count number
  state : gathering.states number = other.states number

variable (publish : Nat → Publisher σ)

/-- What one step does: which observers it registers, in which order they act, and that each acts in
the same way alone. -/
structure Proceeds (gathering : Gathering σ model) (operation : Operation)
    (next : Gathering σ model) (calls : List (Nat × Call)) : Prop where
  makes : Makes (operation.perform (recordingEach publish) model gathering.ensemble)
    gathering.states next.ensemble next.states calls
  registers : next.registered =
    gathering.registered ++ Step.registrations model ⟨operation, calls⟩
  inOrder : ∀ event, operation = .notify event →
    (calls.map Prod.fst).Sublist gathering.registered
  acts : ∀ number observer filter alone, gathering.ensemble.Holds number observer filter →
    alone.Holds number observer filter → ∃ other after kept,
      Makes (Observer.performAll (fun _ => recording (publish number)) number
          (Step.heard number gathering.registered ⟨operation, calls⟩) alone)
        (gathering.states number) other (next.states number) (callsOf number calls) ∧
      next.ensemble.Holds number after kept ∧ other.Holds number after kept ∧
      (operation ≠ .register number →
        observer.phase.begun + (Step.registrations model ⟨operation, calls⟩).count number ≤
          after.phase.begun)

theorem makes_tells {ensemble : Ensemble} (separate : ensemble.Separate) (event : Event)
    (registered : List Nat) (states : Nat → σ) :
    ∃ after calls,
      Makes (registered.forM (ensemble.tell (recordingEach publish) event)) states () after calls ∧
        (calls.map Prod.fst).Sublist registered ∧
        ∀ number observer filter alone, ensemble.Holds number observer filter →
          alone.Holds number observer filter →
            Makes (Observer.performAll (fun _ => recording (publish number)) number
              (List.replicate (registered.count number) (.tell event)) alone) (states number) alone
              (after number) (callsOf number calls) := by
  induction registered generalizing states with
  | nil =>
      refine ⟨states, [], Makes.nothing _ _, List.Sublist.refl [], ?_⟩
      intro number observer filter alone _ _
      exact Makes.nothing alone _
  | cons member rest inductionHypothesis =>
      have opened : (member :: rest).forM (ensemble.tell (recordingEach publish) event) =
          (ensemble.tell (recordingEach publish) event member >>= fun _ =>
            rest.forM (ensemble.tell (recordingEach publish) event)) := rfl
      cases known : ensemble.observers[member]? with
      | none =>
          obtain ⟨after, calls, told, inOrder, same⟩ := inductionHypothesis states
          have silent : ensemble.tell (recordingEach publish) event member = pure () := by
            simp [Ensemble.tell, Ensemble.observer?, known]
          rw [opened, silent, pure_bind]
          refine ⟨after, calls, told, inOrder.cons member, ?_⟩
          intro number observer filter alone held likewise
          rw [List.count_cons_of_ne (held.ne_of_unknown known)]
          exact same number observer filter alone held likewise
      | some entry =>
          obtain ⟨owner, kept, held⟩ := separate.exists_holds known
          obtain ⟨_, _, middle, made, told, _, once⟩ :=
            Ensemble.own_tell publish held held event states
          obtain ⟨after, calls, others, inOrder, same⟩ :=
            inductionHypothesis (Function.update states member middle)
          refine ⟨after, made.map (Prod.mk member) ++ calls, told.andThen others, ?_, ?_⟩
          · rw [List.map_append]
            exact List.Sublist.append (sublist_of_length_le_one member once) inOrder
          · intro number observer filter alone holds likewise
            have continues := same number observer filter alone holds likewise
            rw [callsOf_append]
            by_cases here : number = member
            · subst here
              obtain ⟨_, tells, _⟩ :=
                (Ensemble.own_tell publish holds likewise event).of_makes told
              rw [List.count_cons_self, List.replicate_succ]
              exact (tells.returning fun _ => alone).andThen continues
            · rw [Function.update_of_ne here] at continues
              rw [List.count_cons_of_ne (Ne.symm here), callsOf_other (Ne.symm here)]
              exact continues

theorem exists_proceeds_act (gathering : Gathering σ model) (acting : Nat)
    (operation : Observer.Operation) :
    ∃ next calls, gathering.Proceeds publish (.act acting operation) next calls := by
  cases known : gathering.ensemble.observers[acting]? with
  | none =>
      have unattached : Observer.Step.attached ⟨operation, callsOf acting []⟩ = false := by
        cases operation <;> rfl
      have unregistered : Step.registrations model ⟨.act acting operation, []⟩ = [] := by
        cases operation <;> simp [Step.registrations, Observer.Step.registrations, unattached]
      refine ⟨gathering, [], ?_, ?_, ?_, ?_⟩
      · rw [Operation.perform, operation.perform_of_unknown _ known]
        exact Makes.nothing _ _
      · rw [unregistered, List.append_nil]
      · intro event impossible
        cases impossible
      · intro number observer filter alone held same
        rw [Step.heard_act_of_ne (held.ne_of_unknown known), unregistered]
        exact ⟨alone, observer, filter, Makes.nothing _ _, held, same, fun _ => Nat.le_refl _⟩
  | some entry =>
      obtain ⟨owner, kept, held⟩ := gathering.separate.exists_holds known
      obtain ⟨next, _, last, made, performs, _, performed⟩ :=
        Observer.own_perform publish held held operation gathering.states
      have registers := performed.registers model _ gathering.lists
      rw [← callsOf_self acting made] at registers
      let following : Gathering σ model := ⟨next, performed.spares.separate gathering.separate, _,
        registers, Function.update gathering.states acting last⟩
      refine ⟨following, made.map (Prod.mk acting), performs, rfl, ?_, ?_⟩
      · intro event impossible
        cases impossible
      intro number observer filter alone holds same
      by_cases here : acting = number
      · subst here
        obtain ⟨other, does, likewise⟩ :=
          (Observer.own_perform publish holds same operation).of_makes performs
        obtain ⟨after, filter, stays, remains, begun⟩ := likewise.alike
        refine ⟨other, after, filter, ?_, stays, remains, ?_⟩
        · rw [Step.heard_act]
          exact does.returning fun ensemble => ensemble
        · intro _
          exact Nat.le_trans (Nat.add_le_add_left List.count_le_length _) (begun model)
      · have stays := performed.spares.holds gathering.separate holds (Ne.symm here)
        refine ⟨alone, observer, filter, ?_, stays, same, ?_⟩
        · have unchanged : following.states number = gathering.states number :=
            Function.update_of_ne (Ne.symm here) _ _
          rw [Step.heard_act_of_ne here, unchanged, callsOf_other here]
          exact Makes.nothing _ _
        · intro _
          rw [Step.count_registrations_act_of_ne here]
          exact Nat.le_refl _

theorem exists_proceeds (gathering : Gathering σ model) (operation : Operation) :
    ∃ next calls, gathering.Proceeds publish operation next calls := by
  rcases gathering with ⟨ensemble, separate, registered, lists, states⟩
  cases operation with
  | act acting operation => exact exists_proceeds_act publish _ acting operation
  | register registering =>
      have registers : (ensemble.models.modify model (·.register registering))[model]? =
          some ⟨registered ++ [registering]⟩ := by
        simp [lists, Registry.register]
      refine ⟨⟨{ ensemble with models := ensemble.models.modify model (·.register registering) },
        ⟨separate.present, separate.distinct⟩, _, registers, states⟩, [], Makes.nothing _ _, rfl,
        ?_, ?_⟩
      · intro event impossible
        cases impossible
      intro number observer filter alone held same
      refine ⟨alone, observer, filter, Makes.nothing _ _, held, same, ?_⟩
      intro other
      have different : registering ≠ number := fun here => other (congrArg _ here)
      simp [Step.registrations, different]
  | notify event =>
      obtain ⟨after, calls, told, inOrder, same⟩ :=
        makes_tells publish separate event registered states
      refine ⟨⟨ensemble, separate, registered, lists, after⟩, calls, ?_, ?_, fun _ _ => inOrder, ?_⟩
      · have listed : (ensemble.model model).observers = registered := by
          simp [Ensemble.model, List.getD, lists]
        rw [Operation.perform, Ensemble.notify, listed]
        exact told.returning fun _ => ensemble
      · exact (List.append_nil registered).symm
      · intro number observer filter alone held likewise
        exact ⟨alone, observer, filter, same number observer filter alone held likewise, held,
          likewise, fun _ => Nat.le_refl _⟩

/-- What a run does, with the steps that it consists of. -/
theorem makes_performAll (gathering : Gathering σ model) (operations : List Operation) :
    ∃ steps final after,
      Makes (performAll (recordingEach publish) model operations gathering.ensemble)
          gathering.states final after (steps.flatMap Step.calls) ∧
        steps.map Step.operation = operations ∧
        (∀ before event calls rest, steps = before ++ ⟨.notify event, calls⟩ :: rest →
          (calls.map Prod.fst).Sublist
            (gathering.registered ++ before.flatMap (Step.registrations model))) ∧
        ∀ number observer filter alone, gathering.ensemble.Holds number observer filter →
          alone.Holds number observer filter →
            (∃ last, Makes (Observer.performAll (fun _ => recording (publish number)) number
                (heard number model gathering.registered steps) alone) (gathering.states number)
              last (after number) (callsOf number (steps.flatMap Step.calls))) ∧
            (.register number ∉ operations →
              gathering.registered.count number ≤ observer.phase.begun →
                ∀ before rest, steps = before ++ rest →
                  (gathering.registered ++ before.flatMap (Step.registrations model)).count
                    number ≤ 1) := by
  induction operations generalizing gathering with
  | nil =>
      refine ⟨[], gathering.ensemble, gathering.states, Makes.nothing _ _, rfl, ?_, ?_⟩
      · intro before event calls rest split
        simp at split
      · intro number observer filter alone _ _
        refine ⟨⟨alone, Makes.nothing _ _⟩, ?_⟩
        intro _ once before rest split
        obtain ⟨rfl, _⟩ := List.nil_eq_append_iff.mp split
        rw [List.flatMap_nil, List.append_nil]
        exact Nat.le_trans once observer.phase.begun_le_one
  | cons operation rest inductionHypothesis =>
      obtain ⟨next, calls, proceeds⟩ := exists_proceeds publish gathering operation
      obtain ⟨steps, final, after, continues, performed, inOrder, same⟩ := inductionHypothesis next
      rw [proceeds.registers] at inOrder same
      refine ⟨⟨operation, calls⟩ :: steps, final, after, proceeds.makes.andThen continues, ?_, ?_,
        ?_⟩
      · rw [List.map_cons, performed]
      · intro before event made later split
        cases before with
        | nil =>
            obtain ⟨first, _⟩ := List.cons.inj split
            obtain ⟨rfl, rfl⟩ := Step.mk.inj first
            rw [List.flatMap_nil, List.append_nil]
            exact proceeds.inOrder event rfl
        | cons first before =>
            obtain ⟨rfl, remaining⟩ := List.cons.inj split
            rw [List.flatMap_cons, ← List.append_assoc]
            exact inOrder before event made later remaining
      · intro number observer filter alone held likewise
        obtain ⟨other, later, kept, acts, stays, remains, begun⟩ :=
          proceeds.acts number observer filter alone held likewise
        obtain ⟨⟨last, goesOn⟩, atMost⟩ := same number later kept other stays remains
        constructor
        · refine ⟨last, ?_⟩
          rw [heard, Observer.performAll_append, List.flatMap_cons, callsOf_append]
          exact acts.andThen goesOn
        · intro unregistered once before others split
          have different := (List.ne_of_not_mem_cons unregistered).symm
          cases before with
          | nil =>
              rw [List.flatMap_nil, List.append_nil]
              exact Nat.le_trans once observer.phase.begun_le_one
          | cons first before =>
              obtain ⟨rfl, remaining⟩ := List.cons.inj split
              rw [List.flatMap_cons, ← List.append_assoc]
              apply atMost (List.not_mem_of_not_mem_cons unregistered) _ before others remaining
              rw [List.count_append]
              exact Nat.le_trans (Nat.add_le_add_right once _) (begun different)

/-- The calls of a run are those of the first step and those of the run that goes on from there. -/
theorem Proceeds.callsOf_run {gathering next : Gathering σ model} {operation : Operation}
    {calls : List (Nat × Call)} (proceeds : gathering.Proceeds publish operation next calls)
    (rest : List Operation) (number : Nat) :
    callsOf number (gathering.run publish (operation :: rest)).2.2 =
      callsOf number calls ++ callsOf number (next.run publish rest).2.2 := by
  obtain ⟨steps, final, after, continues, _⟩ := makes_performAll publish next rest
  have first : gathering.run publish (operation :: rest) = _ := proceeds.makes.andThen continues []
  have behind : next.run publish rest = _ := continues []
  rw [first, behind, List.nil_append, List.nil_append, callsOf_append]

variable {publish} {others : Nat → Publisher σ} {gathering other : Gathering σ model} {number : Nat}

theorem Agree.itself (agree : gathering.Agree other number) : other.Agree other number := by
  obtain ⟨observer, filter, _, same⟩ := agree.held
  exact ⟨⟨observer, filter, same, same⟩, rfl, rfl⟩

/-- A step that concerns the observer does the same for it in gatherings that are the same for
it. -/
theorem Agree.next (agree : gathering.Agree other number) (own : others number = publish number)
    {operation : Operation} {next following : Gathering σ model} {calls more : List (Nat × Call)}
    (proceeds : gathering.Proceeds publish operation next calls)
    (likewise : other.Proceeds others operation following more) :
    next.Agree following number ∧ callsOf number calls = callsOf number more := by
  obtain ⟨observer, filter, held, same⟩ := agree.held
  obtain ⟨last, after, kept, acts, stays, remains, _⟩ :=
    proceeds.acts number observer filter gathering.ensemble held held
  obtain ⟨last', after', kept', acts', stays', remains', _⟩ :=
    likewise.acts number observer filter gathering.ensemble same held
  rw [own, ← agree.state, Step.heard_congr agree.registered.symm operation] at acts'
  obtain ⟨rfl, states, made⟩ := acts.unique acts'
  obtain ⟨rfl, rfl⟩ := remains.unique remains'
  refine ⟨⟨⟨after, kept, stays, stays'⟩, ?_, states⟩, made⟩
  rw [proceeds.registers, likewise.registers, List.count_append, List.count_append,
    agree.registered, Step.count_registrations_congr made]

/-- A step that does not concern the observer leaves all as it is for it. -/
theorem Agree.of_not_concerns (agree : gathering.Agree other number) {operation : Operation}
    (unconcerned : operation.concerns number = false) {next : Gathering σ model}
    {calls : List (Nat × Call)} (proceeds : gathering.Proceeds publish operation next calls) :
    next.Agree other number ∧ callsOf number calls = [] := by
  obtain ⟨observer, filter, held, same⟩ := agree.held
  obtain ⟨last, after, kept, acts, stays, remains, _⟩ :=
    proceeds.acts number observer filter other.ensemble held same
  rw [Step.heard_of_not_concerns unconcerned] at acts
  obtain ⟨rfl, states, made⟩ := acts.unique (Makes.nothing _ _)
  refine ⟨⟨⟨after, kept, stays, remains⟩, ?_, states.trans agree.state⟩, made⟩
  rw [proceeds.registers, List.count_append, Step.count_registrations_of_not_concerns unconcerned,
    agree.registered]
  rfl

/-- The operations that do not concern an observer leave no trace in its calls. -/
theorem Agree.callsOf_run_filter (agree : gathering.Agree other number)
    (own : others number = publish number) (operations : List Operation) :
    callsOf number (gathering.run publish operations).2.2 =
      callsOf number (other.run others (operations.filter (Operation.concerns number))).2.2 := by
  induction operations generalizing gathering other with
  | nil => rfl
  | cons operation rest inductionHypothesis =>
      obtain ⟨next, calls, proceeds⟩ := exists_proceeds publish gathering operation
      rw [proceeds.callsOf_run]
      cases concerned : operation.concerns number with
      | true =>
          obtain ⟨following, more, likewise⟩ := exists_proceeds others other operation
          obtain ⟨agrees, made⟩ := agree.next own proceeds likewise
          rw [List.filter_cons_of_pos concerned, likewise.callsOf_run, made,
            inductionHypothesis agrees]
      | false =>
          obtain ⟨agrees, made⟩ := agree.of_not_concerns concerned proceeds
          rw [List.filter_cons_of_neg (by simp [concerned]), made, List.nil_append,
            inductionHypothesis agrees]

variable (publish) (gathering)

/-- A run of several observers on one registry.  In each notification the observers act in the order
in which they registered.  The calls of each observer are those that it makes alone when the same is
done with it and it is told of the events of the notifications, once for each time that it has
registered by then, which is at most once if it registers by attaching only.  They are the same in
every other run that is the same for this observer, whatever the others are, what is done with them
and what their publishers answer. -/
theorem independent (operations : List Operation) :
    ∃ steps final after,
      gathering.run publish operations = (final, after, steps.flatMap Step.calls) ∧
        steps.map Step.operation = operations ∧
        (∀ before event calls rest, steps = before ++ ⟨.notify event, calls⟩ :: rest →
          (calls.map Prod.fst).Sublist
            (gathering.registered ++ before.flatMap (Step.registrations model))) ∧
        ∀ number observer filter, gathering.ensemble.Holds number observer filter →
          (∀ alone : Ensemble, alone.Holds number observer filter → ∃ last,
            Observer.performAll (fun _ => recording (publish number)) number
                (heard number model gathering.registered steps) alone
                (gathering.states number, []) =
              (last, after number, callsOf number (steps.flatMap Step.calls))) ∧
          (.register number ∉ operations →
            gathering.registered.count number ≤ observer.phase.begun →
              ∀ before rest, steps = before ++ rest →
                (gathering.registered ++ before.flatMap (Step.registrations model)).count
                  number ≤ 1) ∧
          ∀ (others : Nat → Publisher σ) (other : Gathering σ model) (further : List Operation),
            gathering.Agree other number → others number = publish number →
              further.filter (Operation.concerns number) =
                operations.filter (Operation.concerns number) →
              callsOf number (other.run others further).2.2 =
                callsOf number (steps.flatMap Step.calls) := by
  obtain ⟨steps, final, after, makes, performed, inOrder, same⟩ :=
    makes_performAll publish gathering operations
  have ran : gathering.run publish operations = (final, after, steps.flatMap Step.calls) := makes []
  refine ⟨steps, final, after, ran, performed, inOrder, ?_⟩
  intro number observer filter held
  refine ⟨?_, (same number observer filter _ held held).2, ?_⟩
  · intro alone likewise
    obtain ⟨⟨last, acts⟩, _⟩ := same number observer filter alone held likewise
    exact ⟨last, acts []⟩
  · intro others other further agree own concerned
    rw [agree.itself.callsOf_run_filter rfl further, concerned,
      ← agree.callsOf_run_filter own operations, ran]

/-- Two observers.  The announcements of each are refused once.  One attaches at the second attempt
and is told of an event of its shell; the other attaches at the second attempt as well and is
detached. -/
theorem independent_of_refusals :
    let ensemble : Ensemble :=
      ⟨[(.new ⟨"plant", "shell", none⟩, 0), (.new ⟨"plant", "other", none⟩, 1)],
        [.disabled, .disabled], [.empty]⟩
    ∃ gathering : Gathering Bool 0,
      gathering.ensemble = ensemble ∧
        gathering.ensemble.Holds 0 (.new ⟨"plant", "shell", none⟩) .disabled ∧
        ∃ steps final after,
          gathering.run (fun _ => Observer.refusingFirst)
              [.act 0 (.attach 0 []), .act 1 (.attach 0 []), .act 1 (.attach 0 []),
                .act 0 (.attach 0 []), .act 1 .detach,
                .notify (.submodelAdded ⟨"shell", "s", none⟩)] =
            (final, after, steps.flatMap Step.calls) ∧
          (∃ last, Observer.performAll (fun _ => recording Observer.refusingFirst) 0
              (heard 0 0 [] steps) ensemble (false, []) =
            (last, after 0, callsOf 0 (steps.flatMap Step.calls))) ∧
          (∀ before rest, steps = before ++ rest →
            ([] ++ before.flatMap (Step.registrations 0)).count 0 ≤ 1) ∧
          callsOf 0 (gathering.run (fun _ => Observer.refusingFirst)
              [.act 0 (.attach 0 []), .act 0 (.attach 0 []),
                .notify (.submodelAdded ⟨"shell", "s", none⟩)]).2.2 =
            callsOf 0 (steps.flatMap Step.calls) := by
  intro ensemble
  let gathering : Gathering Bool 0 :=
    ⟨ensemble, ⟨by decide, by decide⟩, [], rfl, fun _ => false⟩
  have held : gathering.ensemble.Holds 0 (.new ⟨"plant", "shell", none⟩) .disabled := ⟨0, rfl, rfl⟩
  refine ⟨gathering, rfl, held, ?_⟩
  obtain ⟨steps, final, after, ran, _, _, same⟩ :=
    independent (fun _ => Observer.refusingFirst) gathering
      [.act 0 (.attach 0 []), .act 1 (.attach 0 []), .act 1 (.attach 0 []),
        .act 0 (.attach 0 []), .act 1 .detach, .notify (.submodelAdded ⟨"shell", "s", none⟩)]
  obtain ⟨acts, once, alike⟩ := same 0 _ _ held
  refine ⟨steps, final, after, ran, acts ensemble held, ?_, ?_⟩
  · exact once (by simp) (by decide)
  · exact alike _ gathering _ ⟨⟨_, _, held, held⟩, rfl, rfl⟩ rfl rfl

end Gathering

end Registry

end ShellBridge
