import ShellBridge.Json.Format

/-!
Snapshots of submodel elements: a short identifier, a value, and all other attributes.

In a document the attributes stand beside `idShort` and `value`, in the same object.  The value is
always written, as `null` if there is none.
-/

namespace ShellBridge

open Json

structure Element where
  idShort : String
  value : Option Value
  attributes : Members
  deriving DecidableEq

namespace Element

def new (idShort : String) (value : Option Value) : Element :=
  ⟨idShort, value, .empty⟩

/-- The element with one more attribute, in place of a former one of its name. -/
def withAttribute (element : Element) (key : String) (value : Value) : Element :=
  { element with attributes := element.attributes.insert key value }

/-- The element without its value. -/
def redacted (element : Element) : Element :=
  { element with value := none }

def valueJson (element : Element) : Json :=
  match element.value with
  | some value => value.val
  | none => .null

def toJson (element : Element) : Json :=
  .object (("idShort", .string element.idShort) :: ("value", element.valueJson)
    :: element.attributes.val)

/-- How messages name the type. -/
def title : String := "struct SubmodelElement"

/-- What was read of an element so far. -/
structure Draft where
  idShort : Option String
  value : Option (Option Value)
  attributes : Members

namespace Draft

def empty : Draft := ⟨none, none, .empty⟩

def finish (draft : Draft) : Except Cause Element :=
  match draft.idShort with
  | some idShort => .ok ⟨idShort, draft.value.join, draft.attributes⟩
  | none => .error (.missingField "idShort")

end Draft

open Scan in
def readFields (room : Nat) : (budget : Nat) → (first : Bool) → Draft → Read Draft
  | 0, _, _, input => .error (.before .endInObject input)
  | budget + 1, first, draft, input => do
      let (key?, rest) ← nextKey first input
      match key? with
      | none => .ok (draft, rest)
      | some key =>
          if key = "idShort" then
            if draft.idShort.isSome then
              .error (.before (.duplicateField key) (behindObject rest))
            else
              let rest ← colon rest
              let (s, rest) ← Format.text.read room rest
              readFields room budget false { draft with idShort := some s } rest
          else if key = "value" then
            if draft.value.isSome then
              .error (.before (.duplicateField key) (behindObject rest))
            else
              let rest ← colon rest
              let (v, rest) ← (Format.optional .value).read room rest
              readFields room budget false { draft with value := some v } rest
          else
            let rest ← colon rest
            let (v, rest) ← Value.reader room rest
            readFields room budget false
              { draft with attributes := draft.attributes.insert key v } rest

/-- An element is read from an object only. -/
def read : Reader Element := fun room input =>
  match Scan.skipBlanks input with
  | 0x7B :: rest =>
      match room with
      | 0 => .error (.behindNext .recursionLimit (0x7B :: rest))
      | room + 1 => do
          let (draft, rest) ← readFields room (budgetFor rest) true .empty rest
          match draft.finish with
          | .ok element => .ok (element, rest.drop 1)
          | .error cause => .error (.before cause (rest.drop 1))
  | rest => .error (wrongType title rest)

def fieldsOfMembers : Draft → List (String × Json) → Except Cause Draft
  | draft, [] => .ok draft
  | draft, (key, j) :: rest =>
      if key = "idShort" then
        if draft.idShort.isSome then .error (.duplicateField key)
        else do
          let s ← Format.text.ofJson j
          fieldsOfMembers { draft with idShort := some s } rest
      else if key = "value" then
        if draft.value.isSome then .error (.duplicateField key)
        else do
          let v ← (Format.optional .value).ofJson j
          fieldsOfMembers { draft with value := some v } rest
      else
        fieldsOfMembers { draft with attributes := draft.attributes.insert key (.ofJson j) } rest

def ofJson : Json → Except Cause Element
  | .object members => do
      let draft ← fieldsOfMembers .empty members
      draft.finish
  | j => .error (.invalidType (found j) title)

def format : Format Element := ⟨read, ofJson⟩

/-- An element out of a document that was read before. -/
def ofValue (value : Value) : Except Cause Element :=
  ofJson value.val

end Element

end ShellBridge
