import ShellBridge.Proofs.Bridge.Unreadable
import ShellBridge.Proofs.Json.Steps
import ShellBridge.Proofs.Path.Normal
import ShellBridge.Proofs.Text.Split
import ShellBridge.Proofs.Text.Stripping

/-!
From the whitelist variable to what a bridge publishes.

The text of the variable lists paths between commas.  Blanks around a path do not count, nor do
items that are blank, and separators at the ends of a path make no difference.  A text that lists
nothing allows every path; so does a variable that is left out.
-/

namespace ShellBridge

namespace Configuration

/-! ### The paths that a text lists -/

/-- An entry of the text: an item between commas without the blanks around it, if anything is
left. -/
def IsEntry (text entry : String) : Prop :=
  entry ≠ "" ∧ Text.Bare Text.isBlank entry.toList ∧
    ∃ item, Text.IsPiece ',' text item ∧ Text.Surrounds Text.isBlank entry.toList item.toList

/-- The text allows a path: it has no entries, or one of them spells the same path. -/
def Allows (text path : String) : Prop :=
  (∀ entry, ¬ IsEntry text entry) ∨
    ∃ entry core, IsEntry text entry ∧ Path.IsNormal core ∧ Path.Spells entry core ∧
      Path.Spells path core

theorem mem_parseWhitelist_iff {text entry : String} :
    entry ∈ parseWhitelist text ↔ IsEntry text entry := by
  simp only [parseWhitelist, IsEntry, List.mem_filter, List.mem_map, Text.mem_split_iff,
    Text.trim_eq_iff, decide_eq_true_eq]
  constructor
  · rintro ⟨⟨item, piece, bare, around⟩, some⟩
    exact ⟨some, bare, item, piece, around⟩
  · rintro ⟨some, bare, item, piece, around⟩
    exact ⟨⟨item, piece, bare, around⟩, some⟩

theorem allows_iff {text path : String} :
    Allows text path ↔ parseWhitelist text = [] ∨
      ∃ listed ∈ parseWhitelist text, Path.normalize listed = Path.normalize path := by
  simp only [Allows, List.eq_nil_iff_forall_not_mem, mem_parseWhitelist_iff,
    Path.normalize_eq_normalize_iff, exists_and_left]

instance (text path : String) : Decidable (Allows text path) :=
  decidable_of_iff _ allows_iff.symm

/-- Paths that were joined by commas are read back. -/
theorem parseWhitelist_intercalate {paths : List String}
    (plain : ∀ path ∈ paths,
      path ≠ "" ∧ ',' ∉ path.toList ∧ Text.Bare Text.isBlank path.toList) :
    parseWhitelist (",".intercalate paths) = paths := by
  by_cases nothing : paths = []
  · rw [nothing]
    decide
  · have pieces : Text.split ',' (",".intercalate paths) = paths :=
      Text.split_intercalate nothing fun path membership => (plain path membership).2.1
    have trimmed : paths.map Text.trim = paths := by
      have kept : ∀ path ∈ paths, Text.trim path = id path := fun path membership =>
        Text.trim_eq_iff.mpr ⟨(plain path membership).2.2, .refl⟩
      rw [List.map_congr_left kept, List.map_id]
    rw [parseWhitelist, pieces, trimmed, List.filter_eq_self]
    exact fun path membership => decide_eq_true (plain path membership).1

/-! ### The variable -/

/-- The text of the whitelist variable; it is empty if the variable is left out. -/
def whitelistText (environment : Environment) : String :=
  (environment.text? "EVENTBRIDGE_WHITELIST").getD ""

theorem whitelist_of_ofEnvironment {environment : Environment} {unique : String}
    {configuration : Configuration}
    (configured : ofEnvironment environment unique = .ok configuration) :
    configuration.whitelist = parseWhitelist (whitelistText environment) := by
  have listed : configuration.whitelist =
      ((environment.text? "EVENTBRIDGE_WHITELIST").map parseWhitelist).getD [] := by
    rw [ofEnvironment] at configured
    split at configured
    all_goals
      obtain ⟨keepAlive, -, same⟩ := Json.bind_eq_ok configured
      cases same
      rfl
  rw [listed, whitelistText]
  cases environment.text? "EVENTBRIDGE_WHITELIST" with
  | none => decide
  | some text => rfl

theorem lists_iff_allows {environment : Environment} {unique : String}
    {configuration : Configuration}
    (configured : ofEnvironment environment unique = .ok configuration) (path : String) :
    configuration.Lists path ↔ Allows (whitelistText environment) path := by
  rw [Lists, whitelist_of_ofEnvironment configured, allows_iff]

end Configuration

/-- The filter holds back an event of an element by its path. -/
theorem Event.passes_iff_of_path? {event : Event} {path : String}
    (element : event.path? = some path) (filter : Filter) :
    event.Passes filter ↔ filter.passes path = true := by
  cases event <;> cases element <;> rfl

/-! ### The decision of a bridge -/

namespace Bridge

variable {σ : Type} (uplink : Uplink σ)

/-- The observer of the bridge is attached. -/
def IsAttached (bridge : Bridge) : Prop :=
  ∃ observer, bridge.ensemble.observer? only = some observer ∧ observer.phase = .attached

/-- How a bridge comes by an event: it is told of it, or takes a line that reads as it. -/
inductive Takes (bridge : Bridge) (event : Event) : StateM σ Unit → Prop
  | told : Takes bridge event (bridge.ensemble.notify (fun _ => uplink.publish) only event)
  | read {line : String} (reads : eventOfLine? line = some event) :
      Takes bridge event (bridge.takeLine uplink line)

/-- In every state the step publishes this through the session, once, and does nothing else. -/
def HandsOver (publication : Publication) (step : StateM (σ × List Uplink.Call) Unit) : Prop :=
  ∀ state, Makes step state () (uplink.publish publication state).2
    [.publish ⟨publication, (uplink.publish publication state).1⟩]

/-- The step asks nothing of the session. -/
def Drops (step : StateM (σ × List Uplink.Call) Unit) : Prop :=
  ∀ state, Makes step state () state []

theorem Takes.step_eq {uplink : Uplink σ} {bridge : Bridge} {event : Event} {step : StateM σ Unit}
    (takes : bridge.Takes uplink event step) :
    step = bridge.ensemble.notify (fun _ => uplink.publish) only event := by
  cases takes with
  | told => rfl
  | read reads => rw [takeLine, reads]

theorem eq_attached_of_start {uplink : Uplink σ} {configuration : Configuration}
    {state middle : σ} {bridge : Bridge}
    (started : start uplink configuration state = (.ok bridge, middle))
    (attaches : bridge.IsAttached) : bridge = attached configuration := by
  rcases start_eq_ok uplink configuration started with rfl | ⟨same, -⟩
  · -- The observer of an idle bridge has not begun to attach.
    obtain ⟨observer, found, phase⟩ := attaches
    cases found
    cases phase
  · exact same

theorem not_drops_of_handsOver {uplink : Uplink σ} {publication : Publication}
    {step : StateM (σ × List Uplink.Call) Unit} (state : σ)
    (hands : HandsOver uplink publication step) : ¬ Drops step := by
  intro drops
  have calls := congrArg (fun outcome => outcome.2.2) ((hands state []).symm.trans (drops state []))
  cases calls

/-- An attached bridge hands an event over if it lies in the scope and passes, and drops it
otherwise. -/
theorem handsOver_iff_of_takes {configuration : Configuration} {event : Event}
    {step : StateM (σ × List Uplink.Call) Unit} (state : σ)
    (takes : (attached configuration).Takes uplink.recording event step) :
    (HandsOver uplink (configuration.scope.publication event) step ↔
      configuration.scope.Covers event.ids ∧ event.Passes configuration.filter) ∧
    (Drops step ↔
      ¬ (configuration.scope.Covers event.ids ∧ event.Passes configuration.filter)) := by
  rw [takes.step_eq, notify_attached, ObserverScope.published]
  split
  next goes =>
    have hands : HandsOver uplink (configuration.scope.publication event)
        ([configuration.scope.publication event].forM uplink.recording.send) :=
      fun state log => rfl
    exact ⟨iff_of_true hands goes,
      iff_of_false (not_drops_of_handsOver state hands) (not_not_intro goes)⟩
  next stays =>
    have drops : Drops (([] : List Publication).forM uplink.recording.send) :=
      fun state => Makes.nothing () state
    exact ⟨iff_of_false (fun hands => not_drops_of_handsOver state hands drops) stays,
      iff_of_true drops stays⟩

/-- What the whitelist variable decides.  A bridge that was configured from its environment and
attached hands an event of an element in its scope over to its session if the text of the variable
allows the path, and drops it if not; and a text that joins paths by commas lists just these. -/
theorem whitelist_decides :
    (∀ {σ : Type} (uplink : Uplink σ) (environment : Configuration.Environment) (unique : String)
      (configuration : Configuration) (state middle : σ) (bridge : Bridge),
      Configuration.ofEnvironment environment unique = .ok configuration →
      start uplink configuration state = (.ok bridge, middle) → bridge.IsAttached →
        ∀ (event : Event) (path : String) (step : StateM (σ × List Uplink.Call) Unit),
          event.path? = some path → configuration.scope.Covers event.ids →
          bridge.Takes uplink.recording event step →
            (HandsOver uplink (configuration.scope.publication event) step ↔
              Configuration.Allows (Configuration.whitelistText environment) path) ∧
            (Drops step ↔
              ¬ Configuration.Allows (Configuration.whitelistText environment) path)) ∧
    ∀ paths : List String,
      (∀ path ∈ paths, path ≠ "" ∧ ',' ∉ path.toList ∧ Text.Bare Text.isBlank path.toList) →
        Configuration.parseWhitelist (",".intercalate paths) = paths := by
  refine ⟨?_, fun paths plain => Configuration.parseWhitelist_intercalate plain⟩
  intro σ uplink environment unique configuration state middle bridge configured started attaches
    event path step element covered takes
  rw [eq_attached_of_start started attaches] at takes
  have decided := handsOver_iff_of_takes uplink middle takes
  -- What passes the filter is what the list lets pass, and that is what the text allows.
  rwa [and_iff_right covered, Event.passes_iff_of_path? element, Configuration.passes_filter_iff,
    Configuration.lists_iff_allows configured] at decided

/-- A variable with blanks of several kinds, an item of a separator only, and blank items. -/
def decorated : Configuration.Environment := fun name =>
  if name = "EVENTBRIDGE_WHITELIST" then some (utf8 "\u2003/a//b/ ,,\u00A0/\t,\u3000") else none

def decoratedConfiguration : Configuration :=
  { Configuration.standard "bridge" with whitelist := ["/a//b/", "/"] }

def decoratedBridge : Bridge := attached decoratedConfiguration

def report (path : String) : Event :=
  .elementValueChanged ⟨Configuration.standardShell, "s", none⟩ path ⟨.null, trivial⟩

/-- A line that reads as the report. -/
def reportLine (path : String) : String :=
  "\x7b\"kind\":\"element_value_changed\",\"path\":\"" ++ path ++ "\",\"value\":null,\"ids\":" ++
    "\x7b\"shellId\":\"urn:example:aas:1\",\"submodelId\":\"s\"\x7d\x7d"

/-- A path is listed however it is spelled, the one without segments included; one that differs
inside is not. -/
theorem whitelist_decides_decorated :
    Configuration.ofEnvironment decorated "bridge" = .ok decoratedConfiguration ∧
      start accepting decoratedConfiguration () = (.ok decoratedBridge, ()) ∧
      decoratedBridge.IsAttached ∧
      HandsOver accepting (decoratedConfiguration.scope.publication (report "a//b"))
        (decoratedBridge.takeLine accepting.recording (reportLine "a//b")) ∧
      HandsOver accepting (decoratedConfiguration.scope.publication (report "///"))
        (decoratedBridge.takeLine accepting.recording (reportLine "///")) ∧
      Drops (decoratedBridge.ensemble.notify (fun _ => accepting.recording.publish) only
        (report "a/b")) ∧
      Configuration.parseWhitelist (",".intercalate ["a b", "/", "c"]) = ["a b", "/", "c"] := by
  have configured :
      Configuration.ofEnvironment decorated "bridge" = .ok decoratedConfiguration := by
    decide +kernel
  have started : start accepting decoratedConfiguration () = (.ok decoratedBridge, ()) := rfl
  have attaches : decoratedBridge.IsAttached := ⟨_, rfl, rfl⟩
  have decides := whitelist_decides.1 accepting decorated "bridge" decoratedConfiguration () ()
    decoratedBridge configured started attaches
  refine ⟨configured, started, attaches, ?_, ?_, ?_, ?_⟩
  · have reads : eventOfLine? (reportLine "a//b") = some (report "a//b") := by decide +kernel
    exact (decides (report "a//b") "a//b" _ rfl (by decide +kernel) (.read reads)).1.mpr
      (by decide +kernel)
  · have reads : eventOfLine? (reportLine "///") = some (report "///") := by decide +kernel
    exact (decides (report "///") "///" _ rfl (by decide +kernel) (.read reads)).1.mpr
      (by decide +kernel)
  · exact (decides (report "a/b") "a/b" _ rfl (by decide +kernel) .told).2.mpr (by decide +kernel)
  · exact whitelist_decides.2 ["a b", "/", "c"] (by decide +kernel)

end Bridge

end ShellBridge
