import ShellBridge.Event

/-!
Payloads of events: the two identifiers of a submodel event, the element without its value for a
structural change of an element, and the value itself for a change of the value.
-/

namespace ShellBridge

/-- Shell and submodel in one text. -/
def combinedMessage (shell submodel : String) : String :=
  "(" ++ shell ++ "," ++ submodel ++ ")"

def Event.payload : Event → Bytes
  | submodelAdded ids | submodelRemoved ids => utf8 (combinedMessage ids.shell ids.submodel)
  | elementAdded _ _ element | elementRemoved _ _ element | elementUpdated _ _ element =>
      element.redacted.toJson.bytes
  | elementValueChanged _ _ value => value.val.bytes

end ShellBridge
