import ShellBridge.Filter
import ShellBridge.Proofs.Topic.Parsing
import Mathlib.Data.List.Basic
import Mathlib.Data.List.Induction

/-!
What a filter lets pass, told from its history.

A history is any sequence of operations on a filter that begins turned off with nothing listed.  The
last switch decides whether the list is asked at all.  A path is listed if one of its spellings was
put on the list and the list was not replaced since.

Filter and topics agree on which paths are spellings of one another, so what is published on one
topic passes together or not at all.
-/

namespace ShellBridge

namespace Filter

/-- What can be done with a filter. -/
inductive Operation where
  | setWhitelist (paths : List String)
  | addPath (path : String)
  | enable
  | disable
  deriving DecidableEq

namespace Operation

def perform (filter : Filter) : Operation → Filter
  | .setWhitelist paths => filter.setWhitelist paths
  | .addPath path => filter.addPath path
  | .enable => filter.enable
  | .disable => filter.disable

/-- Whether the operation turns the filter on or off. -/
def isSwitch : Operation → Bool
  | .enable | .disable => true
  | .setWhitelist _ | .addPath _ => false

/-- Whether the operation drops what was listed before. -/
def replaces : Operation → Bool
  | .setWhitelist _ => true
  | .addPath _ | .enable | .disable => false

/-- The paths that the operation puts on the list. -/
def entries : Operation → List String
  | .setWhitelist paths => paths
  | .addPath path => [path]
  | .enable | .disable => []

end Operation

/-- The filter after the operations. -/
def run (history : List Operation) : Filter :=
  history.foldl Operation.perform disabled

def lastSwitch (history : List Operation) : Option Operation :=
  (history.filter Operation.isSwitch).getLast?

/-- The path was put on the list, and the list was not replaced since. -/
def Listed (history : List Operation) (path : String) : Prop :=
  ∃ before operation after, history = before ++ operation :: after ∧
    path ∈ operation.entries ∧ ∀ later ∈ after, later.replaces = false

theorem run_concat (history : List Operation) (last : Operation) :
    run (history ++ [last]) = last.perform (run history) := by
  rw [run, List.foldl_append]
  rfl

theorem not_listed_nil (path : String) : ¬ Listed [] path := by
  rintro ⟨before, operation, after, split, _⟩
  simp at split

theorem listed_concat_iff {history : List Operation} {last : Operation} {path : String} :
    Listed (history ++ [last]) path ↔
      path ∈ last.entries ∨ last.replaces = false ∧ Listed history path := by
  constructor
  · rintro ⟨before, operation, after, split, entered, kept⟩
    rcases List.eq_nil_or_concat' after with rfl | ⟨between, final, rfl⟩
    · obtain ⟨rfl, same⟩ := List.append_inj' split rfl
      cases same
      exact .inl entered
    · rw [← List.cons_append, ← List.append_assoc] at split
      obtain ⟨rfl, same⟩ := List.append_inj' split rfl
      cases same
      refine .inr ⟨kept last (by simp), before, operation, between, rfl, entered, ?_⟩
      intro later membership
      exact kept later (List.mem_append_left _ membership)
  · rintro (entered | ⟨keeps, before, operation, after, rfl, entered, kept⟩)
    · exact ⟨history, last, [], rfl, entered, by simp⟩
    · refine ⟨before, operation, after ++ [last], by simp, entered, ?_⟩
      intro later membership
      rcases List.mem_append.mp membership with between | final
      · exact kept later between
      · rw [List.mem_singleton.mp final]
        exact keeps

theorem lastSwitch_concat (history : List Operation) (last : Operation) :
    lastSwitch (history ++ [last]) =
      if last.isSwitch then some last else lastSwitch history := by
  cases switches : last.isSwitch <;> simp [lastSwitch, switches]

/-- A filter is on if the last switch turned it on. -/
theorem enabled_run_iff (history : List Operation) :
    (run history).enabled = true ↔ lastSwitch history = some .enable := by
  induction history using List.reverseRecOn with
  | nil => simp [run, lastSwitch, disabled]
  | append_singleton history last inductionHypothesis =>
      rw [run_concat, lastSwitch_concat]
      cases last with
      | setWhitelist paths => exact inductionHypothesis
      | addPath path => exact inductionHypothesis
      | enable => simp [Operation.perform, Filter.enable, Operation.isSwitch]
      | disable => simp [Operation.perform, Filter.disable, Operation.isSwitch]

/-- The list holds the normal forms of the listed paths. -/
theorem mem_whitelist_run_iff (history : List Operation) (entry : String) :
    entry ∈ (run history).whitelist ↔
      ∃ path, Listed history path ∧ Path.normalize path = entry := by
  induction history using List.reverseRecOn with
  | nil => simp [run, whitelist, disabled, not_listed_nil]
  | append_singleton history last inductionHypothesis =>
      rw [run_concat]
      simp only [listed_concat_iff, or_and_right, exists_or, and_assoc, exists_and_left,
        ← inductionHypothesis]
      cases last with
      | setWhitelist paths =>
          simp [Operation.perform, Filter.setWhitelist, whitelist, Operation.entries,
            Operation.replaces]
      | addPath path =>
          simp [Operation.perform, Filter.addPath, whitelist, Operation.entries,
            Operation.replaces, eq_comm]
      | enable | disable =>
          simp [Operation.perform, Filter.enable, Filter.disable, whitelist, Operation.entries,
            Operation.replaces]

theorem passes_iff_mem_whitelist (filter : Filter) (path : String) :
    filter.passes path = true ↔
      ¬ filter.enabled = true ∨ Path.normalize path ∈ filter.whitelist := by
  simp [passes, whitelist]

end Filter

/-- The topic of an element tells paths apart by their normal forms. -/
theorem TopicScheme.topic_eq_topic_iff (scheme : TopicScheme) {kind : TopicKind}
    (element : kind.isElement = true) (ids : EntityIds) (path other : String) :
    scheme.topic kind ids path = scheme.topic kind ids other ↔
      Path.normalize path = Path.normalize other := by
  have tells (suffix : String) :
      scheme.elementTopic ids path suffix = scheme.elementTopic ids other suffix ↔
        Path.normalize path = Path.normalize other := by
    simp only [elementTopic, submodelTopic, String.append_assoc, String.append_right_inj,
      String.append_left_inj]
  cases kind with
  | shellCreated | submodelCreated | submodelDeleted => cases element
  | elementCreated | elementUpdated | elementDeleted | elementValue => exact tells _

namespace Filter

/-- A path passes if the filter was not turned on last, or a spelling of the path is listed; and two
paths are spellings of one another just if they have the same topic.  The whitelist shows the normal
form of every listed path, each once and in ascending order. -/
theorem passes_run (history : List Operation) (path : String) :
    ((run history).passes path = true ↔
      lastSwitch history ≠ some .enable ∨
        ∃ listed, Listed history listed ∧ Path.normalize listed = Path.normalize path) ∧
    (∀ (scheme : TopicScheme) (kind : TopicKind) (ids : EntityIds), kind.isElement = true →
      (lastSwitch history = some .enable →
        ((run history).passes path = true ↔
          ∃ listed, Listed history listed ∧
            scheme.topic kind ids listed = scheme.topic kind ids path)) ∧
      ∀ other, scheme.topic kind ids path = scheme.topic kind ids other →
        (run history).passes path = (run history).passes other) ∧
    (run history).whitelist.Pairwise (· < ·) ∧
    ∀ entry, entry ∈ (run history).whitelist ↔
      ∃ listed, Listed history listed ∧ Path.normalize listed = entry := by
  have passing (path : String) : (run history).passes path = true ↔
      lastSwitch history ≠ some .enable ∨
        ∃ listed, Listed history listed ∧ Path.normalize listed = Path.normalize path := by
    rw [passes_iff_mem_whitelist, enabled_run_iff, mem_whitelist_run_iff]
  refine ⟨passing path, ?_, (run history).allowed.ascending, mem_whitelist_run_iff history⟩
  intro scheme kind ids element
  constructor
  · intro turnedOn
    rw [passing]
    simp only [turnedOn, ne_eq, not_true_eq_false, false_or,
      scheme.topic_eq_topic_iff element ids]
  · intro other same
    rw [scheme.topic_eq_topic_iff element ids] at same
    rw [Bool.eq_iff_iff, passing, passing, same]

/-- A filter that is switched on and off and on again, its list replaced in between: a path of
separators only stands for the empty one, and what was listed first is forgotten. -/
theorem passes_run_of_replacement :
    let history : List Operation :=
      [.addPath "a", .enable, .disable, .setWhitelist ["//", "/b/"], .addPath "b//c", .enable]
    lastSwitch history = some .enable ∧
      ((run history).passes "" = true ↔
        ∃ listed, Listed history listed ∧
          TopicScheme.topic ⟨"plant"⟩ .elementValue ⟨"s", "m", none⟩ listed =
            TopicScheme.topic ⟨"plant"⟩ .elementValue ⟨"s", "m", none⟩ "") ∧
      (run history).passes "" = true ∧ (run history).passes "a" = false ∧
      (run history).whitelist = ["", "b", "b//c"] := by
  intro history
  have turnedOn : lastSwitch history = some .enable := by decide
  have agrees := (passes_run history "").2.1 ⟨"plant"⟩ .elementValue ⟨"s", "m", none⟩ rfl
  exact ⟨turnedOn, agrees.1 turnedOn, by decide, by decide, by decide⟩

end Filter

end ShellBridge
