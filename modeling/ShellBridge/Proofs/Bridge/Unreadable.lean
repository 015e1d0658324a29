import ShellBridge.Proofs.Bridge.Run
import ShellBridge.Proofs.Text.Readable

/-!
Lines of an input that are no events.

A line that is text but no event is passed over.  A line that is not UTF-8 ends the input: the run
is that on the part in front of it, and the events behind it are lost.
-/

namespace ShellBridge

namespace Bridge

/-- The line reads as an event. -/
def isEvent (line : Bytes) : Bool :=
  ((Utf8.decode? line).bind eventOfLine?).isSome

/-- The input without the lines that do not read as an event. -/
def cleaned (input : Bytes) : Bytes :=
  Text.keep isEvent input

theorem isText_of_isEvent {line : Bytes} (reads : isEvent line = true) :
    Text.isText line = true := by
  rw [isEvent] at reads
  rw [Text.isText]
  cases read : Utf8.decode? line with
  | none =>
      rw [read] at reads
      cases reads
  | some text => rfl

end Bridge

namespace Configuration

variable (configuration : Configuration)

/-- The publications for a line as it arrives; none if it is not UTF-8. -/
def carried (line : Bytes) : List Publication :=
  (Utf8.decode? line).toList.flatMap configuration.published

theorem carried_of_not_isEvent {line : Bytes} (other : Bridge.isEvent line = false) :
    configuration.carried line = [] := by
  rw [Bridge.isEvent] at other
  rw [carried]
  cases read : Utf8.decode? line with
  | none => rfl
  | some text =>
      rw [read, Option.bind_some, Option.isSome_eq_false_iff, Option.isNone_iff_eq_none] at other
      simp [published, other]

theorem carried_nil : configuration.carried [] = [] :=
  configuration.carried_of_not_isEvent (by decide +kernel)

/-- The publications of an input that is cleaned are those of all its lines. -/
theorem flatMap_carried_cleaned (input : Bytes) :
    ((Text.rawLines (Bridge.cleaned input)).takeWhile Text.isText).flatMap configuration.carried =
      (Text.rawLines input).flatMap configuration.carried := by
  have silent (line : Bytes) (other : Bridge.isEvent line = false) :=
    configuration.carried_of_not_isEvent other
  have texts : ∀ line ∈ Text.rawLines (Bridge.cleaned input), Text.isText line = true := by
    intro line membership
    rw [Bridge.cleaned, Text.rawLines_keep, List.mem_append, List.mem_singleton] at membership
    rcases membership with kept | rfl
    · exact Bridge.isText_of_isEvent (List.mem_filter.mp kept).2
    · split
      next reads => exact Bridge.isText_of_isEvent reads
      next => rfl
  rw [List.takeWhile_eq_self_iff.mpr texts, Bridge.cleaned, Text.rawLines_keep, Text.rawLines,
    List.flatMap_append, List.flatMap_append, Text.flatMap_filter_of_silent silent,
    List.flatMap_singleton, List.flatMap_singleton]
  split
  next => rfl
  next other => rw [configuration.carried_nil, silent _ (Bool.eq_false_iff.mpr other)]

/-- The publications of the readable part of an input are those of the lines that are read. -/
theorem flatMap_carried_readable (input : Bytes) :
    (Text.rawLines (Text.readable input)).flatMap configuration.carried =
      ((Text.rawLines input).takeWhile Text.isText).flatMap configuration.carried := by
  rw [Text.rawLines_readable, List.flatMap_append, List.flatMap_singleton, Text.rawLines,
    Text.takeWhile_concat, List.all_append]
  cases texts : (Text.splitLines input).1.all Text.isText with
  | false => simp [configuration.carried_nil]
  | true =>
      rw [List.takeWhile_eq_self_iff.mpr (List.all_eq_true.mp texts)]
      cases last : Text.isText (Text.splitLines input).2 <;> simp [last, configuration.carried_nil]

end Configuration

/-- The publication of a request, with the answer, if it is one. -/
def Uplink.Call.publish? : Uplink.Call → Option ShellBridge.Call
  | .publish call => some call
  | .connect _ _ | .subscribe _ _ | .disconnect => none

namespace Bridge

variable {σ : Type} (uplink : Uplink σ) (configuration : Configuration)

/-- Of an input only the publications of the lines in front of the first one that is not UTF-8
matter. -/
theorem runOn_eq_program_carried (input : Bytes) :
    runOn uplink configuration input =
      program uplink configuration
        (((Text.rawLines input).takeWhile Text.isText).flatMap configuration.carried) := by
  rw [runOn, run_eq_program, Text.flatMap_lines configuration.published _ rfl]
  · rfl
  · intro line
    exact configuration.published_of_trim_eq (Text.trim_withoutReturn line)

/-- The publish calls of a run on an input. -/
def publishCalls (input : Bytes) (state : σ) : List Call :=
  (runOn uplink.recording configuration input (state, [])).2.2.filterMap Uplink.Call.publish?

/-- What a session answers that leads to an attached bridge. -/
theorem answers_of_start {state middle : σ}
    (started : start uplink configuration state = (.ok (attached configuration), middle)) :
    ∃ connected subscribed,
      uplink.connect configuration.session state = (.ok (), connected) ∧
        uplink.subscribe configuration.bus.inbox connected = (.ok (), subscribed) ∧
        uplink.publish configuration.scope.announcementOf subscribed = (.ok (), middle) := by
  rcases start_eq_ok uplink configuration started with idle | ⟨-, answers⟩
  · exact absurd idle.symm (idle_ne_attached configuration)
  · exact answers

/-- The publish calls of an attached bridge are the announcement and those of the lines that are
read. -/
theorem exists_publishCalls {state middle : σ}
    (started : start uplink configuration state = (.ok (attached configuration), middle))
    (input : Bytes) :
    ∃ calls, publishCalls uplink configuration input state =
        ⟨configuration.scope.announcementOf, .ok ()⟩ :: calls ∧
      calls.map Call.publication =
        ((Text.rawLines input).takeWhile Text.isText).flatMap configuration.carried := by
  obtain ⟨connected, subscribed, connects, subscribes, announces⟩ :=
    answers_of_start uplink configuration started
  let opening : List Uplink.Call :=
    [.connect configuration.session (.ok ()), .subscribe configuration.bus.inbox (.ok ()),
      .publish ⟨configuration.scope.announcementOf, .ok ()⟩]
  let publications :=
    ((Text.rawLines input).takeWhile Text.isText).flatMap configuration.carried
  obtain ⟨after, calls, sent, published⟩ := recording_send uplink publications middle opening
  have ran : (runOn uplink.recording configuration input (state, [])).2.2 =
      opening ++ calls.map Uplink.Call.publish ++ [.disconnect] := by
    rw [runOn_eq_program_carried, program, uplink.recording_connect, connects]
    dsimp only
    rw [uplink.recording_subscribe, subscribes]
    dsimp only
    rw [uplink.recording_publish, announces]
    dsimp only
    change (publications.forM uplink.recording.send (middle, opening)).2.2 ++ [.disconnect] = _
    rw [sent]
  refine ⟨calls, ?_, published⟩
  rw [publishCalls, ran]
  simp [opening, List.filterMap_cons, List.filterMap_map, Uplink.Call.publish?, Function.comp_def]

/-- An attached bridge makes the calls for all events of an input just if no line from the first one
on that is not UTF-8 is an event that is published. -/
theorem publishCalls_cleaned_iff {state middle : σ}
    (started : start uplink configuration state = (.ok (attached configuration), middle))
    (input : Bytes) :
    publishCalls uplink configuration input state =
        publishCalls uplink configuration (cleaned input) state ↔
      ∀ line ∈ Text.unread input, configuration.carried line = [] := by
  have parts : (Text.rawLines input).flatMap configuration.carried =
      ((Text.rawLines input).takeWhile Text.isText).flatMap configuration.carried ++
        (Text.unread input).flatMap configuration.carried := by
    rw [← List.flatMap_append, Text.unread, List.takeWhile_append_dropWhile]
  have clean := configuration.flatMap_carried_cleaned input
  rw [parts] at clean
  rw [← List.flatMap_eq_nil_iff]
  constructor
  · intro same
    obtain ⟨calls, made, published⟩ := exists_publishCalls uplink configuration started input
    obtain ⟨all, makes, publishes⟩ :=
      exists_publishCalls uplink configuration started (cleaned input)
    rw [made, makes] at same
    rw [clean, ← (List.cons.inj same).2, published] at publishes
    exact List.append_cancel_left (publishes.symm.trans (List.append_nil _).symm)
  · intro nothing
    rw [nothing, List.append_nil] at clean
    rw [publishCalls, publishCalls, runOn_eq_program_carried, runOn_eq_program_carried, clean]

/-- What becomes of an input with malformed lines.  Up to the first line that is not UTF-8, lines
that do not read as an event make no difference; the run is that on this part of the input, which is
all of an input of text.  So an attached bridge makes the same publish calls as without all
malformed lines just if no line behind that one would be published. -/
theorem runOn_malformed (input : Bytes) :
    runOn uplink configuration input =
        runOn uplink configuration (cleaned (Text.readable input)) ∧
      ((∀ line ∈ Text.rawLines input, Text.isText line = true) →
        runOn uplink configuration input = runOn uplink configuration (cleaned input)) ∧
      ∀ state middle, start uplink configuration state = (.ok (attached configuration), middle) →
        (publishCalls uplink configuration input state =
            publishCalls uplink configuration (cleaned input) state ↔
          ∀ line ∈ Text.unread input, configuration.carried line = []) := by
  refine ⟨?_, ?_, ?_⟩
  · rw [runOn_eq_program_carried, runOn_eq_program_carried,
      configuration.flatMap_carried_cleaned, configuration.flatMap_carried_readable]
  · intro texts
    rw [runOn_eq_program_carried, runOn_eq_program_carried,
      configuration.flatMap_carried_cleaned, List.takeWhile_eq_self_iff.mpr texts]
  · intro state middle started
    exact publishCalls_cleaned_iff uplink configuration started input

/-- A session that accepts all requests. -/
def accepting : Uplink Unit where
  connect _ := pure (.ok ())
  subscribe _ := pure (.ok ())
  publish _ := pure (.ok ())
  disconnect := pure ()

/-- An event, a line that is no event, and behind them bytes that are not UTF-8. -/
theorem runOn_malformed_of_text :
    let input := utf8 (Configuration.removalLine ++ "\nno event\n")
    (∀ line ∈ Text.rawLines input, Text.isText line = true) ∧
      runOn accepting (.standard "bridge") input =
        runOn accepting (.standard "bridge") (cleaned input) ∧
      start accepting (.standard "bridge") () = (.ok (attached (.standard "bridge")), ()) ∧
      publishCalls accepting (.standard "bridge") (input ++ [0xFF]) () =
        publishCalls accepting (.standard "bridge") (cleaned (input ++ [0xFF])) () := by
  intro input
  have texts : ∀ line ∈ Text.rawLines input, Text.isText line = true := by decide +kernel
  have started : start accepting (.standard "bridge") () =
      (.ok (attached (.standard "bridge")), ()) := rfl
  refine ⟨texts, ?_, started, ?_⟩
  · exact (runOn_malformed accepting (.standard "bridge") input).2.1 texts
  · apply ((runOn_malformed accepting (.standard "bridge") (input ++ [0xFF])).2.2 () () started).mpr
    decide +kernel

/-- A line that is not UTF-8 costs the event behind it. -/
theorem not_costless_of_unreadable :
    ¬ ∀ (configuration : Configuration) (input : Bytes) (σ : Type) (uplink : Uplink σ)
      (state middle : σ),
        start uplink configuration state = (.ok (attached configuration), middle) →
          publishCalls uplink configuration input state =
            publishCalls uplink configuration (cleaned input) state := by
  intro costless
  have started : start accepting (.standard "bridge") () =
      (.ok (attached (.standard "bridge")), ()) := rfl
  have same := costless (.standard "bridge") ([0xFF, 0x0A] ++ utf8 Configuration.removalLine) Unit
    accepting () () started
  rw [publishCalls_cleaned_iff accepting (.standard "bridge") started] at same
  revert same
  decide +kernel

end Bridge

end ShellBridge
