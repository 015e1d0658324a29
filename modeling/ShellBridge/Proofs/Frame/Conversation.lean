import ShellBridge.Proofs.Frame.Reference
import ShellBridge.Proofs.Message.Gates

/-!
Conversations over the wire.

In turn, each party reads the frame that the other one has written, and builds its own from the
draft of a reply.  One turn keeps the conversation and the protocol, swaps the participants and
refers to the message number before.  So in a conversation of any length every frame is correlated
with the first one and with the one before it.
-/

namespace ShellBridge.Frame

open Json

/-- What a party sets in the draft of its reply. -/
structure Answer where
  type : String
  messageId : Value
  deriving DecidableEq

/-- A type and a message number are set, and the message number holds no floats and leaves room for
the frame around it. -/
structure Answer.Sound (answer : Answer) : Prop where
  type : answer.type ≠ ""
  messageId : answer.messageId ≠ .null ∧ answer.messageId ≠ .string ""
  plain : answer.messageId.val.FloatFree
  fits : answer.messageId.val.depth < depthLimit

/-- A valid frame without floats in its message number that keeps the limit of nesting. -/
structure Sendable (frame : Frame) : Prop where
  valid : frame.validate = .ok ()
  plain : frame.messageId.val.FloatFree
  fits : frame.toJson.depth ≤ depthLimit

/-- The frame as it is read from what was written. -/
def deliver (frame : Frame) : Except FrameFault Frame := do
  decode (← frame.encode)

/-- The frame that a party builds from the draft of its reply. -/
def buildReply (received : Frame) (answer : Answer) : Except FrameFault Frame :=
  ((received.reply.setType answer.type).setMessageId answer.messageId).build

/-- The frames of a conversation as they are read.  The first party starts with a frame, and each
answer is given to the frame read last. -/
def converse (frame : Frame) : List Answer → Except FrameFault (List Frame)
  | [] => do .ok [← frame.deliver]
  | answer :: answers => do
      let received ← frame.deliver
      let reply ← received.buildReply answer
      let later ← reply.converse answers
      .ok (received :: later)

/-- The frames of a conversation hang together: each frame but the first holds what its party has
set, and refers to the message number of the frame before. -/
structure Correlated (first : Frame) (answers : List Answer) (frames : List Frame) : Prop where
  length : frames.length = answers.length + 1
  start : frames[0]? = some first
  shared : ∀ (k : Nat) (frame : Frame), frames[k]? = some frame →
    frame.conversation = first.conversation ∧ frame.protocol = first.protocol
  even : ∀ (k : Nat) (frame : Frame), frames[2 * k]? = some frame →
    frame.sender = first.sender ∧ frame.receiver = first.receiver
  odd : ∀ (k : Nat) (frame : Frame), frames[2 * k + 1]? = some frame →
    frame.sender = first.receiver ∧ frame.receiver = first.sender
  reply : ∀ (k : Nat) (frame : Frame), frames[k + 1]? = some frame →
    answers[k]? = some ⟨frame.type, frame.messageId⟩ ∧ frame.replyBy = none
  refersToString : ∀ (k : Nat) (before frame : Frame) (id : String),
    frames[k]? = some before → frames[k + 1]? = some frame →
    before.messageId = .string id → frame.inReplyTo = some id
  refersToText : ∀ (k : Nat) (before frame : Frame),
    frames[k]? = some before → frames[k + 1]? = some frame →
    (∀ id, before.messageId ≠ .string id) → frame.inReplyTo = some before.messageId.val.text

/-! ### One turn -/

/-- The finished reply. -/
def answered (frame : Frame) (answer : Answer) : Frame where
  type := answer.type
  sender := frame.receiver
  receiver := frame.sender
  conversation := frame.conversation
  messageId := answer.messageId
  inReplyTo := some (reference frame.messageId)
  replyBy := none
  protocol := frame.protocol

/-- Only the message number decides whether a frame keeps the limit of nesting. -/
theorem depth_le_limit_iff (frame : Frame) :
    frame.toJson.depth ≤ depthLimit ↔ frame.messageId.val.depth < depthLimit := by
  have inside := frame.depth_messageId_lt_need
  have need := need_le_depth frame.toJson
  have around := frame.depth_toJson_le
  unfold depthLimit
  omega

theorem Sendable.verdict_eq {frame : Frame} (sendable : frame.Sendable) :
    frame.verdict = .ok () := by
  have valid := sendable.valid
  rwa [validate_eq] at valid

theorem Sendable.deliver_eq {frame : Frame} (sendable : frame.Sendable) :
    frame.deliver = .ok frame := by
  have read := decode_eq sendable.plain sendable.fits
  rw [sendable.verdict_eq] at read
  rw [deliver, encode_of_validate sendable.valid]
  exact read

section Turn

variable {frame : Frame} {answer : Answer}

/-- Whatever a valid frame is answered with, only the answer can lack a field. -/
theorem Sendable.verdict_answered (sendable : frame.Sendable) (sound : answer.Sound) :
    (frame.answered answer).verdict = .ok () := by
  have set := verdict_eq_ok_iff.mp sendable.verdict_eq
  apply verdict_eq_ok_iff.mpr
  intro field
  cases field with
  | type => exact sound.type
  | conversation => exact set .conversation
  | messageId => exact not_or.mpr sound.messageId
  | protocol => exact set .protocol

theorem Sendable.answered (sendable : frame.Sendable) (sound : answer.Sound) :
    (frame.answered answer).Sendable where
  valid := (validate_eq _).trans (sendable.verdict_answered sound)
  plain := sound.plain
  fits := (depth_le_limit_iff _).mpr sound.fits

theorem Sendable.buildReply_eq (sendable : frame.Sendable) (sound : answer.Sound) :
    frame.buildReply answer = .ok (frame.answered answer) := by
  have opened : frame.buildReply answer =
      (frame.answered answer).validate.map fun _ => frame.answered answer := rfl
  rw [opened, (sendable.answered sound).valid]
  rfl

theorem Sendable.converse_cons (sendable : frame.Sendable) (sound : answer.Sound)
    {answers : List Answer} {later : List Frame}
    (behind : (frame.answered answer).converse answers = .ok later) :
    frame.converse (answer :: answers) = .ok (frame :: later) := by
  simp only [converse, sendable.deliver_eq, sendable.buildReply_eq sound, behind, bind, Except.bind]

end Turn

/-! ### Conversations -/

theorem Correlated.single (first : Frame) : Correlated first [] [first] where
  length := rfl
  start := rfl
  shared := by
    intro k frame found
    cases k with
    | zero =>
        cases found
        exact ⟨rfl, rfl⟩
    | succ k => cases found
  even := by
    intro k frame found
    cases k with
    | zero =>
        cases found
        exact ⟨rfl, rfl⟩
    | succ k => cases found
  odd := by
    intro k frame found
    cases found
  reply := by
    intro k frame found
    cases found
  refersToString := by
    intro k before frame id _ found
    cases found
  refersToText := by
    intro k before frame _ found
    cases found

/-- A conversation that goes on from the reply goes on from what is answered, one step later and
with the participants swapped. -/
theorem Correlated.cons {first : Frame} {answer : Answer} {answers : List Answer}
    {frames : List Frame} (later : Correlated (first.answered answer) answers frames) :
    Correlated first (answer :: answers) (first :: frames) where
  length := congrArg Nat.succ later.length
  start := rfl
  shared := by
    intro k frame found
    cases k with
    | zero =>
        cases found
        exact ⟨rfl, rfl⟩
    | succ k => exact later.shared k frame found
  even := by
    intro k frame found
    cases k with
    | zero =>
        cases found
        exact ⟨rfl, rfl⟩
    | succ k => exact later.odd k frame found
  odd := by
    intro k frame found
    exact later.even k frame found
  reply := by
    intro k frame found
    cases k with
    | zero =>
        have same : first.answered answer = frame := Option.some.inj (later.start.symm.trans found)
        subst same
        exact ⟨rfl, rfl⟩
    | succ k => exact later.reply k frame found
  refersToString := by
    intro k before frame id foundBefore found string
    cases k with
    | zero =>
        have same : first.answered answer = frame := Option.some.inj (later.start.symm.trans found)
        subst same
        cases foundBefore
        exact congrArg some ((congrArg reference string).trans (reference_string id))
    | succ k => exact later.refersToString k before frame id foundBefore found string
  refersToText := by
    intro k before frame foundBefore found other
    cases k with
    | zero =>
        have same : first.answered answer = frame := Option.some.inj (later.start.symm.trans found)
        subst same
        cases foundBefore
        exact congrArg some (reference_of_ne other)
    | succ k => exact later.refersToText k before frame foundBefore found other

/-- However long a conversation goes on, every frame in it is built, written and read, and is
correlated with the first one and with the one before. -/
theorem converse_correlated (first : Frame) (sendable : first.Sendable) (answers : List Answer)
    (sound : ∀ answer ∈ answers, answer.Sound) :
    ∃ frames, first.converse answers = .ok frames ∧ Correlated first answers frames := by
  -- The reply that is built can be sent again, so it starts the rest of the conversation.
  induction answers generalizing first with
  | nil =>
      refine ⟨[first], ?_, Correlated.single first⟩
      rw [converse, sendable.deliver_eq]
      rfl
  | cons answer answers inductionHypothesis =>
      obtain ⟨now, behind⟩ := List.forall_mem_cons.mp sound
      obtain ⟨later, conversed, correlated⟩ :=
        inductionHypothesis (first.answered answer) (sendable.answered now) behind
      exact ⟨first :: later, sendable.converse_cons now conversed, correlated.cons⟩

/-- The first frame names no sender, and its message number nests as deep as it may. -/
theorem converse_correlated_of_nesting :
    (nesting 125).Sendable ∧
      (∀ answer ∈ [(⟨"ack", .string "1"⟩ : Answer), ⟨"done", .ofInteger ⟨1, by decide, by decide⟩⟩],
        answer.Sound) ∧
      ∃ first second third,
        (nesting 125).converse [⟨"ack", .string "1"⟩,
          ⟨"done", .ofInteger ⟨1, by decide, by decide⟩⟩] = .ok [first, second, third] ∧
        first = nesting 125 ∧
        second.inReplyTo = some (extremes 125).text ∧ second.receiver = none ∧
        third.inReplyTo = some "1" ∧ third.sender = none ∧ third.conversation = "c" := by
  have sendable : (nesting 125).Sendable :=
    ⟨rfl, floatFree_extremes 125, Nat.le_of_eq (depth_nesting 123)⟩
  have sound : ∀ answer ∈ [(⟨"ack", .string "1"⟩ : Answer),
      ⟨"done", .ofInteger ⟨1, by decide, by decide⟩⟩], answer.Sound := by
    intro answer membership
    rcases List.mem_cons.mp membership with rfl | membership
    · exact ⟨by decide, by decide, trivial, by decide⟩
    · rw [List.mem_singleton.mp membership]
      exact ⟨by decide, by decide, trivial, by decide⟩
  refine ⟨sendable, sound, ?_⟩
  obtain ⟨frames, conversed, correlated⟩ := converse_correlated _ sendable _ sound
  have length := correlated.length
  match frames, length with
  | [first, second, third], _ =>
      have start : first = nesting 125 := Option.some.inj correlated.start
      have set : second.messageId = .string "1" := by
        have answer := (correlated.reply 0 second rfl).1
        exact (congrArg Answer.messageId (Option.some.inj answer)).symm
      have structured : ∀ id, first.messageId ≠ .string id := by
        intro id same
        rw [start] at same
        have flat : (extremes 125).depth = 0 := congrArg (fun value : Value => value.val.depth) same
        exact absurd ((depth_extremes 125).symm.trans flat) (by decide)
      refine ⟨first, second, third, conversed, start, ?_, ?_, ?_, ?_, ?_⟩
      · exact (correlated.refersToText 0 first second rfl rfl structured).trans (by rw [start]; rfl)
      · exact (correlated.odd 0 second rfl).2
      · exact correlated.refersToString 1 second third "1" rfl rfl set
      · exact (correlated.even 1 third rfl).1
      · exact (correlated.shared 2 third rfl).1

end ShellBridge.Frame
