import ShellBridge.CommandLine
import ShellBridge.Proofs.Frame.RoundTrip
import ShellBridge.Proofs.Json.Indented

/-!
The check of a frame as a formatter.

A content passes if it is a frame that is accepted, and then the document of that frame is printed,
indented.  What is printed is the same frame again, so a second check changes nothing.
-/

namespace ShellBridge.CommandLine

open Json

/-- What is printed for a frame. -/
def formatted (frame : Frame) : String :=
  lines [frame.toJson.indentedText]

theorem utf8_formatted (frame : Frame) :
    utf8 (formatted frame) = utf8 frame.toJson.indentedText ++ [0x0A] := by
  have lineFeed : utf8 "\n" = [0x0A] := rfl
  simp [formatted, lines, lineFeed]

theorem checkFrame_of_decode {content : Bytes} {frame : Frame}
    (accepted : Frame.decode content = .ok frame) :
    checkFrame content = .ok (formatted frame) := by
  rw [checkFrame, accepted, formatted]

/-- What is printed for an accepted frame is accepted, as the same frame. -/
theorem decode_formatted {content : Bytes} {frame : Frame}
    (accepted : Frame.decode content = .ok frame) (plain : frame.messageId.val.FloatFree) :
    Frame.decode (utf8 (formatted frame)) = .ok frame := by
  have white : ∀ b ∈ [0x0A], Scan.isBlank b = true := by
    intro b membership
    rw [List.mem_singleton.mp membership]
    rfl
  rw [utf8_formatted]
  exact Frame.decode_of_spells accepted (spells_indented (Frame.floatFree_toJson plain) white)

section Runs

variable {read : FileReader} {file : String} {content : Bytes}

/-- The outcome of a check is that for the content of the file. -/
theorem run_frameCheck (found : read file = .ok content) (others : List String) :
    run read ("frame-check" :: file :: others) = .of (checkFrame content) := by
  have known : Command.ofName? "frame-check" = some .frameCheck := by decide
  rw [run, known]
  dsimp only [Command.run]
  rw [frameCheck, found]

theorem run_frameCheck_of_decode {frame : Frame} (found : read file = .ok content)
    (accepted : Frame.decode content = .ok frame) (others : List String) :
    run read ("frame-check" :: file :: others) = success (formatted frame) := by
  rw [run_frameCheck found, checkFrame_of_decode accepted, Outcome.of]

/-- A frame in a notation of its own: without line breaks, out of order, with keys that count for
nothing or are written twice, and its protocol without names. -/
def crowded : Bytes :=
  utf8 ("\t\x7b\"semanticProtocol\":[[[\"GLOBAL_REFERENCE\",\"IRDI\",\"p\"]]],"
    ++ "\"messageId\":\x7b\"b\":1,\"a\":[[],\x7b\x7d,[-7,\"\\u00e9\"]],\"b\":null\x7d,"
    ++ "\"other\":[],\"conversationId\":\"c\",\"type\":\"call\" \x7d")

def crowdedNumber : Json :=
  .object [("a", .array [.array [], .object [],
    .array [.number (.int ⟨-7, by decide, by decide⟩), .string "é"]]), ("b", .null)]

theorem crowdedNumber_isCanonical : crowdedNumber.IsCanonical :=
  ⟨⟨trivial, trivial, ⟨trivial, trivial, trivial⟩, trivial⟩, by decide, trivial, by simp, trivial⟩

theorem floatFree_crowdedNumber : crowdedNumber.FloatFree := by
  simp [crowdedNumber, FloatFree, ItemsFloatFree, MembersFloatFree]

/-- The frame of that notation. -/
def crowdedFrame : Frame :=
  ⟨"call", none, none, "c", ⟨crowdedNumber, crowdedNumber_isCanonical⟩, none, none,
    .global "IRDI" "p"⟩

theorem decode_crowded : Frame.decode crowded = .ok crowdedFrame := by
  decide +kernel

end Runs

end ShellBridge.CommandLine
