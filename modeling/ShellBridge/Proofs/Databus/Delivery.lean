import ShellBridge.Proofs.Message.Gates

/-!
From the bus to a handler.

Messages are published one after the other, and the transport answers as it likes.  The payloads
that it took come back to a handler, among anything else that is told to it, and the handler hands
on the messages that were taken and nothing else.
-/

namespace ShellBridge

open Json

/-- The third list is made of the other two, each of them in its order. -/
inductive Interleaved {β : Type} : List β → List β → List β → Prop
  | nil : Interleaved [] [] []
  | left {x : β} {xs ys zs : List β} : Interleaved xs ys zs → Interleaved (x :: xs) ys (x :: zs)
  | right {y : β} {xs ys zs : List β} : Interleaved xs ys zs → Interleaved xs (y :: ys) (y :: zs)

/-- Nothing is left of what is passed over. -/
theorem Interleaved.filterMap_eq {β γ : Type} {xs noise feed : List β}
    (interleaved : Interleaved xs noise feed) {f : β → Option γ}
    (silent : ∀ y ∈ noise, f y = none) : feed.filterMap f = xs.filterMap f := by
  induction interleaved with
  | nil => rfl
  | @left x xs noise feed _ inductionHypothesis =>
      rw [List.filterMap_cons, List.filterMap_cons, inductionHypothesis silent]
  | @right y xs noise feed _ inductionHypothesis =>
      rw [List.filterMap_cons, silent y List.mem_cons_self]
      apply inductionHypothesis
      intro z behind
      exact silent z (List.mem_cons_of_mem y behind)

namespace Databus

variable {α σ : Type}

/-! ### Messages that go out -/

/-- Messages published one after the other, with the results and the calls: none for a message whose
frame is not valid, and one for any other, where the answer decides. -/
inductive Published (bus : Databus) (codec : ElementCodec α) :
    List (Message α) → List Bool → List Call → Prop
  | nil : Published bus codec [] [] []
  | withheld {message : Message α} {messages : List (Message α)} {results : List Bool}
      {calls : List Call} : message.frame.validate ≠ .ok () →
      Published bus codec messages results calls →
      Published bus codec (message :: messages) (false :: results) calls
  | called {message : Message α} {messages : List (Message α)} {results : List Bool}
      {calls : List Call} (answer : Except PublishError Unit) :
      message.frame.validate = .ok () → Published bus codec messages results calls →
      Published bus codec (message :: messages) (answer.isOk :: results)
        (⟨.atLeastOnce bus.outbox (message.toJson codec).bytes, answer⟩ :: calls)

/-- The payloads that the transport took. -/
def accepted (calls : List Call) : List Bytes :=
  (calls.filter fun call => call.answer.isOk).map fun call => call.publication.payload

/-- The messages whose publication succeeded. -/
def taken (messages : List (Message α)) (results : List Bool) : List (Message α) :=
  ((messages.zip results).filter Prod.snd).map Prod.fst

theorem exists_published (out : Publisher σ) (bus : Databus) (codec : ElementCodec α)
    (messages : List (Message α)) (state : σ) :
    ∃ results after calls,
      Makes (messages.mapM (bus.publish (recording out) codec)) state results after calls ∧
        bus.Published codec messages results calls := by
  induction messages generalizing state with
  | nil => exact ⟨[], state, [], Makes.nothing [] state, .nil⟩
  | cons message messages inductionHypothesis =>
      rw [List.mapM_cons]
      cases verdict : message.frame.verdict with
      | error fault =>
          have invalid : message.frame.validate ≠ .ok () := by
            rw [Frame.validate_eq, verdict]
            simp
          have first := bus.makes_publish_of_error out codec state verdict
          obtain ⟨results, after, calls, others, published⟩ := inductionHypothesis state
          exact ⟨_, _, _, first.andThen (others.returning _), .withheld invalid published⟩
      | ok nothing =>
          have valid : message.frame.validate = .ok () := by
            rw [Frame.validate_eq, verdict]
          have first := bus.makes_publish_of_ok out codec state verdict
          obtain ⟨results, after, calls, others, published⟩ := inductionHypothesis _
          exact ⟨_, _, _, first.andThen (others.returning _), .called _ valid published⟩

namespace Published

variable {bus : Databus} {codec : ElementCodec α} {messages : List (Message α)}
  {results : List Bool} {calls : List Call}

/-- The valid messages go out, once each and in order. -/
theorem publications (published : bus.Published codec messages results calls) :
    calls.map Call.publication =
      (messages.filter fun message => message.frame.validate.isOk).map fun message =>
        .atLeastOnce bus.outbox (message.toJson codec).bytes := by
  induction published with
  | nil => rfl
  | @withheld message messages results calls invalid _ inductionHypothesis =>
      have dropped : message.frame.validate.isOk = false := by
        cases checked : message.frame.validate with
        | error fault => rfl
        | ok nothing => exact absurd checked invalid
      rw [List.filter_cons, dropped]
      exact inductionHypothesis
  | @called message messages results calls answer valid _ inductionHypothesis =>
      have kept : message.frame.validate.isOk = true := by
        rw [valid]
        rfl
      rw [List.filter_cons, kept, if_pos rfl, List.map_cons, List.map_cons, inductionHypothesis]

/-- The payloads that were taken read as the messages whose publication succeeded. -/
theorem decode_accepted (published : bus.Published codec messages results calls)
    (decodes : ∀ message ∈ messages, message.frame.validate = .ok () →
      Message.decode codec (message.toJson codec).bytes = .ok message) :
    (accepted calls).map (Message.decode codec) = (taken messages results).map .ok := by
  induction published with
  | nil => rfl
  | @withheld message messages results calls _ _ inductionHypothesis =>
      apply inductionHypothesis
      intro other behind
      exact decodes other (List.mem_cons_of_mem message behind)
  | @called message messages results calls answer valid _ inductionHypothesis =>
      have others := inductionHypothesis fun other behind =>
        decodes other (List.mem_cons_of_mem message behind)
      cases answer with
      | error error => exact others
      | ok nothing =>
          have first := decodes message List.mem_cons_self valid
          show Message.decode codec (message.toJson codec).bytes ::
              (accepted calls).map (Message.decode codec) =
            .ok message :: (taken messages results).map .ok
          rw [first, others]

end Published

/-! ### Messages that come in -/

/-- What a handler hands on of arrivals that all read as messages. -/
theorem message?_arrivals {codec : ElementCodec α} {arrivals : List (String × Bytes)}
    {messages : List (Message α)}
    (decoded : (arrivals.map Prod.snd).map (Message.decode codec) = messages.map .ok) :
    (arrivals.map fun arrival => Notice.arrived arrival.1 arrival.2).filterMap
      (Notice.message? codec) = (arrivals.map Prod.fst).zip messages := by
  induction arrivals generalizing messages with
  | nil => rfl
  | cons arrival arrivals inductionHypothesis =>
      cases messages with
      | nil => cases decoded
      | cons message messages =>
          obtain ⟨first, others⟩ := List.cons.inj decoded
          have handed : (Notice.arrived arrival.1 arrival.2).message? codec =
              some (arrival.1, message) := by
            rw [Notice.message?, first]
            rfl
          rw [List.map_cons, List.filterMap_cons, handed, inductionHypothesis others]
          rfl

/-- What becomes of messages: with these results and calls they were published, and a handler that
is told of the payloads that were taken hands on the messages whose publication succeeded. -/
structure Delivers (bus : Databus) (codec : ElementCodec α) (messages : List (Message α))
    (results : List Bool) (calls : List Call) : Prop where
  published : bus.Published codec messages results calls
  /-- The valid messages go out, once each and in order. -/
  publications : calls.map Call.publication =
    (messages.filter fun message => message.frame.validate.isOk).map fun message =>
      ⟨bus.outbox, (message.toJson codec).bytes, .atLeastOnce, false⟩
  /-- The payloads that were taken arrive under any topics, in order and among any other notices;
  of these, no payload may read as a valid message. -/
  handled : ∀ (arrivals : List (String × Bytes)) (noise feed : List Notice),
    arrivals.map Prod.snd = accepted calls →
    (∀ topic payload, .arrived topic payload ∈ noise →
      ∃ fault, Message.decode codec payload = .error fault) →
    Interleaved (arrivals.map fun arrival => Notice.arrived arrival.1 arrival.2) noise feed →
    (feed.filterMap (Notice.message? codec)).map Prod.snd = taken messages results ∧
      (feed.filterMap (Notice.message? codec)).map Prod.fst = arrivals.map Prod.fst

/-- Whatever messages are published on whatever bus, they are delivered if they hold no floats, keep
the limit of nesting and have proper elements. -/
def DeliversAll (codec : ElementCodec α) (Proper : α → Prop) : Prop :=
  ∀ {σ : Type} (out : Publisher σ) (bus : Databus) (messages : List (Message α)) (state : σ),
    (∀ message ∈ messages, (message.toJson codec).FloatFree ∧
      (message.toJson codec).depth ≤ 127 ∧ ∀ x ∈ message.elements, Proper x) →
    ∃ results after calls,
      Makes (messages.mapM (bus.publish (recording out) codec)) state results after calls ∧
        bus.Delivers codec messages results calls

theorem deliversAll_of_lawful {codec : ElementCodec α} {need : Json → Nat} {Proper : α → Prop}
    (lawful : codec.Lawful need Proper) : DeliversAll codec Proper := by
  intro σ out bus messages state plain
  obtain ⟨results, after, calls, made, published⟩ :=
    exists_published out bus codec messages state
  refine ⟨results, after, calls, made, published, published.publications, ?_⟩
  intro arrivals noise feed payloads rejected interleaved
  have decoded : (arrivals.map Prod.snd).map (Message.decode codec) =
      (taken messages results).map .ok := by
    rw [payloads]
    apply published.decode_accepted
    intro message membership valid
    obtain ⟨plain, fits, proper⟩ := plain message membership
    exact Message.decode_bytes lawful valid proper plain fits
  have silent : ∀ notice ∈ noise, notice.message? codec = none := by
    intro notice membership
    cases notice with
    | arrived topic payload =>
        obtain ⟨fault, refused⟩ := rejected topic payload membership
        rw [Notice.message?, refused]
        rfl
    | delivered packet => rfl
    | lost broker cause => rfl
  have lengths : (arrivals.map Prod.fst).length = (taken messages results).length := by
    have same := congrArg List.length decoded
    simpa using same
  rw [interleaved.filterMap_eq silent, message?_arrivals decoded]
  exact ⟨List.map_snd_zip (Nat.le_of_eq lengths.symm), List.map_fst_zip (Nat.le_of_eq lengths)⟩

/-- Messages are delivered from the bus to a handler of the same element type, for both types. -/
theorem publish_delivers :
    DeliversAll .generic (fun _ => True) ∧ DeliversAll .submodelElement Element.WellFormed :=
  ⟨deliversAll_of_lawful ElementCodec.generic_lawful,
    deliversAll_of_lawful ElementCodec.submodelElement_lawful⟩

/-- A transport that takes one publication and refuses the others. -/
def once : Publisher Nat :=
  fun _ count => (if count = 0 then .ok () else .error .notConnected, count + 1)

/-- Of three messages the second lacks a field, and the third is refused; so a handler hands on the
first one only. -/
theorem publish_delivers_of_refusal :
    ∃ results after calls,
      Makes ([.nesting 2, .bare Frame.lacking, .nesting 3].mapM
        (standard.publish (recording once) .submodelElement)) 0 results after calls ∧
      results = [true, false, false] ∧
      calls.map Call.publication = [(Message.nesting 2), .nesting 3].map (fun message =>
        ⟨"i40/outbox", (message.toJson .submodelElement).bytes, .atLeastOnce, false⟩) ∧
      ([.arrived "i40/inbox" [], .arrived "i40/inbox"
          ((Message.nesting 2).toJson .submodelElement).bytes, .delivered 1].filterMap
        (Notice.message? .submodelElement)).map Prod.snd = [.nesting 2] := by
  have plain : ∀ message ∈ [Message.nesting 2, .bare Frame.lacking, .nesting 3],
      (message.toJson .submodelElement).FloatFree ∧
        (message.toJson .submodelElement).depth ≤ 127 ∧
          ∀ x ∈ message.elements, x.WellFormed := by
    intro message membership
    simp only [List.mem_cons, List.not_mem_nil, or_false] at membership
    rcases membership with rfl | rfl | rfl
    · exact ⟨Message.floatFree_nesting 2, by rw [Message.depth_nesting 0]; decide,
        Message.proper_nesting 2⟩
    · refine ⟨Message.floatFree_bare trivial, by decide, ?_⟩
      intro x membership
      cases membership
    · exact ⟨Message.floatFree_nesting 3, by rw [Message.depth_nesting 1]; decide,
        Message.proper_nesting 3⟩
  obtain ⟨results, after, calls, made, delivers⟩ := publish_delivers.2 once standard _ 0 plain
  have run : [Message.nesting 2, .bare Frame.lacking, .nesting 3].mapM
      (standard.publish (recording once) .submodelElement) (0, []) =
        ([true, false, false], 2,
          [⟨⟨"i40/outbox", ((Message.nesting 2).toJson .submodelElement).bytes, .atLeastOnce,
              false⟩, .ok ()⟩,
            ⟨⟨"i40/outbox", ((Message.nesting 3).toJson .submodelElement).bytes, .atLeastOnce,
              false⟩, .error .notConnected⟩]) := rfl
  rw [made []] at run
  cases run
  refine ⟨_, _, _, made, rfl, rfl, ?_⟩
  apply (delivers.handled [("i40/inbox", ((Message.nesting 2).toJson .submodelElement).bytes)]
    [.arrived "i40/inbox" [], .delivered 1] _ rfl ?_ (.right (.left (.right .nil)))).1
  intro topic payload membership
  rcases List.mem_cons.mp membership with same | behind
  · cases same
    exact ⟨_, rfl⟩
  · cases List.mem_singleton.mp behind

end Databus

end ShellBridge
