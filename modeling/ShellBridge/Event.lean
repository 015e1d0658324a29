import ShellBridge.Element

/-!
Events: changes of a shell's submodels and of their elements.

An event is read in two steps.  First the whole text is read as a document, with the kind set
apart; then the fields of this kind are taken from the document.
-/

namespace ShellBridge

open Json

/-- The entity that an event belongs to. -/
structure EntityIds where
  shell : String
  submodel : String
  repository : Option String
  deriving DecidableEq

namespace EntityIds

def toJson (ids : EntityIds) : Json :=
  .object (("shellId", .string ids.shell) :: ("submodelId", .string ids.submodel)
    :: match ids.repository with
      | some repository => [("repoId", .string repository)]
      | none => [])

inductive Field where
  | shell
  | submodel
  | repository
  deriving DecidableEq

def record : Record Field EntityIds where
  title := "struct EntityIds"
  fields := [.shell, .submodel, .repository]
  key
    | .shell => "shellId"
    | .submodel => "submodelId"
    | .repository => "repoId"
  Ty
    | .shell | .submodel => String
    | .repository => Option String
  format
    | .shell | .submodel => .text
    | .repository => .optional .text
  absent
    | .shell | .submodel => none
    | .repository => some none
  build get := do
    let shell ← get .shell
    let submodel ← get .submodel
    let repository ← get .repository
    .ok ⟨shell, submodel, repository⟩

def format : Format EntityIds := record.toFormat

end EntityIds

inductive EventKind where
  | submodelAdded
  | submodelRemoved
  | elementAdded
  | elementRemoved
  | elementUpdated
  | elementValueChanged
  deriving DecidableEq, Repr

namespace EventKind

def all : List EventKind :=
  [submodelAdded, submodelRemoved, elementAdded, elementRemoved, elementUpdated,
    elementValueChanged]

/-- The name in documents. -/
def name : EventKind → String
  | submodelAdded => "submodel_added"
  | submodelRemoved => "submodel_removed"
  | elementAdded => "element_added"
  | elementRemoved => "element_removed"
  | elementUpdated => "element_updated"
  | elementValueChanged => "element_value_changed"

/-- The name in messages. -/
def label : EventKind → String
  | submodelAdded => "SubmodelAdded"
  | submodelRemoved => "SubmodelRemoved"
  | elementAdded => "ElementAdded"
  | elementRemoved => "ElementRemoved"
  | elementUpdated => "ElementUpdated"
  | elementValueChanged => "ElementValueChanged"

/-- Whether an event of this kind addresses a single element, and so is subject to the filter. -/
def isElementScoped : EventKind → Bool
  | submodelAdded | submodelRemoved => false
  | _ => true

def names : Names EventKind := ⟨all, name⟩

def toJson (kind : EventKind) : Json :=
  .string kind.name

end EventKind

inductive Event where
  | submodelAdded (ids : EntityIds)
  | submodelRemoved (ids : EntityIds)
  | elementAdded (ids : EntityIds) (path : String) (element : Element)
  | elementRemoved (ids : EntityIds) (path : String) (element : Element)
  | elementUpdated (ids : EntityIds) (path : String) (element : Element)
  | elementValueChanged (ids : EntityIds) (path : String) (value : Value)
  deriving DecidableEq

namespace Event

def kind : Event → EventKind
  | submodelAdded _ => .submodelAdded
  | submodelRemoved _ => .submodelRemoved
  | elementAdded _ _ _ => .elementAdded
  | elementRemoved _ _ _ => .elementRemoved
  | elementUpdated _ _ _ => .elementUpdated
  | elementValueChanged _ _ _ => .elementValueChanged

def ids : Event → EntityIds
  | submodelAdded ids | submodelRemoved ids | elementAdded ids _ _ | elementRemoved ids _ _
  | elementUpdated ids _ _ | elementValueChanged ids _ _ => ids

/-- The path of the element, if the event addresses one. -/
def path? : Event → Option String
  | submodelAdded _ | submodelRemoved _ => none
  | elementAdded _ path _ | elementRemoved _ path _ | elementUpdated _ path _
  | elementValueChanged _ path _ => some path

/-- The members behind the kind. -/
def fieldMembers : Event → List (String × Json)
  | submodelAdded ids | submodelRemoved ids => [("ids", ids.toJson)]
  | elementAdded ids path element | elementRemoved ids path element
  | elementUpdated ids path element =>
      [("ids", ids.toJson), ("path", .string path), ("element", element.toJson)]
  | elementValueChanged ids path value =>
      [("ids", ids.toJson), ("path", .string path), ("value", value.val)]

def toJson (event : Event) : Json :=
  .object (("kind", event.kind.toJson) :: event.fieldMembers)

inductive Field where
  | ids
  | path
  | element
  | value
  deriving DecidableEq

namespace Field

def key : Field → String
  | ids => "ids"
  | path => "path"
  | element => "element"
  | value => "value"

def Ty : Field → Type
  | ids => EntityIds
  | path => String
  | element => Element
  | value => Value

def format : (f : Field) → Format f.Ty
  | ids => EntityIds.format
  | path => .text
  | element => Element.format
  | value => .value

/-- The fields of the events of a kind. -/
def ofKind : EventKind → List Field
  | .submodelAdded | .submodelRemoved => [ids]
  | .elementAdded | .elementRemoved | .elementUpdated => [ids, path, element]
  | .elementValueChanged => [ids, path, value]

end Field

def build (kind : EventKind) (get : (f : Field) → Except Cause f.Ty) : Except Cause Event := do
  let ids ← get .ids
  match kind with
  | .submodelAdded => .ok (submodelAdded ids)
  | .submodelRemoved => .ok (submodelRemoved ids)
  | .elementAdded => do .ok (elementAdded ids (← get .path) (← get .element))
  | .elementRemoved => do .ok (elementRemoved ids (← get .path) (← get .element))
  | .elementUpdated => do .ok (elementUpdated ids (← get .path) (← get .element))
  | .elementValueChanged => do .ok (elementValueChanged ids (← get .path) (← get .value))

/-- The events of one kind. -/
def record (kind : EventKind) : Record Field Event where
  title := "struct variant MutationEvent::" ++ kind.label
  fields := Field.ofKind kind
  key := Field.key
  Ty := Field.Ty
  format := Field.format
  absent _ := none
  build := build kind

open Scan

/-- The members of an event with the kind set apart, up to the closing bracket. -/
def readMembers (room : Nat) : (budget : Nat) → (first : Bool) → Option EventKind →
    Read (Option EventKind × List (String × Json))
  | 0, _, _, input => .error (.before .endInObject input)
  | budget + 1, first, kind, input => do
      let (key?, rest) ← nextKey first input
      match key? with
      | none => .ok ((kind, []), rest)
      | some key =>
          if key = "kind" then
            if kind.isSome then .error (.before (.duplicateField key) (behindObject rest))
            else
              let rest ← colon rest
              let (kind, rest) ← EventKind.names.readName rest
              readMembers room budget false (some kind) rest
          else
            let rest ← colon rest
            let (j, rest) ← document room rest
            let ((kind, members), rest) ← readMembers room budget false kind rest
            .ok ((kind, (key, j) :: members), rest)

/-- The kind of an event, and the document that holds its fields. -/
def readTagged : Reader (EventKind × Json) := fun room input =>
  match skipBlanks input with
  | [] => .error (.before .endInValue [])
  | b :: rest =>
      if b = 0x7B then
        match room with
        | 0 => .error (.behindNext .recursionLimit (b :: rest))
        | room + 1 => do
            let ((kind?, members), rest) ← readMembers room (budgetFor rest) true none rest
            match kind? with
            | some kind => .ok ((kind, .object members), rest.drop 1)
            | none => .error (.before (.missingField "kind") (rest.drop 1))
      else if b = 0x5B then
        match room with
        | 0 => .error (.behindNext .recursionLimit (b :: rest))
        | room + 1 => do
            let (more, rest) ← nextItem true rest
            if more then
              let (kind, rest) ← EventKind.names.readName rest
              let (items, rest) ← readItems (document room) (budgetFor rest) false rest
              .ok ((kind, .array items), rest)
            else
              .error (.before (.missingField "kind") (behindList rest))
      else .error (wrongType "internally tagged enum MutationEvent" (b :: rest))

def parse (text : Bytes) : Except Refusal Event :=
  match readTagged depthLimit text with
  | .error fault => .error (fault.inText text)
  | .ok ((kind, fields), rest) =>
      match (record kind).ofJson fields with
      | .error cause => .error ⟨cause, none⟩
      | .ok event =>
          match endOfText text rest with
          | some refusal => .error refusal
          | none => .ok event

end Event

end ShellBridge
