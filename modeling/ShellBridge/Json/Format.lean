import ShellBridge.Json.Document

/-!
How values of a type are read.

A `Format` reads a value straight from a text, or from a document that was read before; faults of
the second kind have no place.  A `Record` describes a type with named fields: it is read from an
object, whose unknown members are passed over, or from a list that holds the fields in their order.
-/

namespace ShellBridge.Json

open Scan

structure Format (α : Type) where
  read : Reader α
  ofJson : Json → Except Cause α

namespace Format

/-- Reads a whole text. -/
def parse {α : Type} (format : Format α) (text : Bytes) : Except Refusal α :=
  whole format.read text

/-- Any document. -/
def value : Format Value where
  read := Value.reader
  ofJson j := .ok (.ofJson j)

def readText : Reader String := fun _ input =>
  match skipBlanks input with
  | 0x22 :: rest => Scan.string rest
  | rest => .error (wrongType "a string" rest)

def text : Format String where
  read := readText
  ofJson
    | .string s => .ok s
    | j => .error (.invalidType (found j) "a string")

/-- A value that may be `null`. -/
def optional {α : Type} (format : Format α) : Format (Option α) where
  read room input :=
    match skipBlanks input with
    | 0x6E :: rest => (word ull rest).map (none, ·)
    | rest => (format.read room rest).map fun (x, rest) => (some x, rest)
  ofJson
    | .null => .ok none
    | j => (format.ofJson j).map some

def listOfJson {α : Type} (format : Format α) : List Json → Except Cause (List α)
  | [] => .ok []
  | j :: rest => do
      let x ← format.ofJson j
      let xs ← listOfJson format rest
      .ok (x :: xs)

def list {α : Type} (format : Format α) : Format (List α) where
  read room input :=
    match skipBlanks input with
    | 0x5B :: rest =>
        match room with
        | 0 => .error (.behindNext .recursionLimit (0x5B :: rest))
        | room + 1 => readItems (format.read room) (budgetFor rest) true rest
    | rest => .error (wrongType "a sequence" rest)
  ofJson
    | .array items => listOfJson format items
    | j => .error (.invalidType (found j) "a sequence")

/-- The members of an object. -/
def members : Format Members where
  read room input :=
    match skipBlanks input with
    | 0x7B :: rest =>
        match room with
        | 0 => .error (.behindNext .recursionLimit (0x7B :: rest))
        | room + 1 =>
            (readMembers (document room) (budgetFor rest) true rest).map fun (ms, rest) =>
              (.ofList ms, rest)
    | rest => .error (wrongType "a map" rest)
  ofJson
    | .object ms => .ok (.ofList ms)
    | j => .error (.invalidType (found j) "a map")

end Format

/-- A name out of a fixed list, written as a string or as the only key of an object with the value
`null`. -/
structure Names (α : Type) where
  all : List α
  name : α → String

namespace Names

variable {α : Type} (names : Names α)

def find? (name : String) : Option α :=
  names.all.find? fun x => names.name x == name

def unknown (name : String) : Cause :=
  .unknownVariant name (names.all.map names.name)

/-- The name itself. -/
def readName : Read α := fun input =>
  match skipBlanks input with
  | [] => .error (.before .endInValue [])
  | b :: rest =>
      if b = 0x22 then do
        let (name, rest) ← Scan.string rest
        match names.find? name with
        | some x => .ok (x, rest)
        | none => .error (.before (names.unknown name) rest)
      else .error (wrongType "variant identifier" (b :: rest))

def readNull (input : Bytes) : Except Fault Bytes :=
  match skipBlanks input with
  | 0x6E :: rest => word ull rest
  | rest => .error (wrongType "unit" rest)

def read : Reader α := fun room input =>
  match skipBlanks input with
  | [] => .error (.before .endInValue [])
  | b :: rest =>
      if b = 0x22 then names.readName (b :: rest)
      else if b = 0x7B then
        match room with
        | 0 => .error (.behindNext .recursionLimit (b :: rest))
        | _ + 1 => do
            let (x, rest) ← names.readName rest
            let rest ← colon rest
            let rest ← readNull rest
            match skipBlanks rest with
            | [] => .error (.before .endInObject [])
            | c :: rest =>
                if c = 0x7D then .ok (x, rest) else .error (.before .expectedValue (c :: rest))
      else .error (.behindNext .expectedValue (b :: rest))

def parse (text : Bytes) : Except Refusal α :=
  whole names.read text

end Names

/-- The fields of a record type `α`, in their order.  A field with an `absent` value may be left
out. -/
structure Record (F α : Type) where
  title : String
  fields : List F
  key : F → String
  Ty : F → Type
  format : (f : F) → Format (Ty f)
  absent : (f : F) → Option (Ty f)
  build : ((f : F) → Except Cause (Ty f)) → Except Cause α

namespace Record

variable {F α : Type} [DecidableEq F] (record : Record F α)

/-- The fields that were read so far. -/
def Draft : Type :=
  (f : F) → Option (record.Ty f)

def noFields : record.Draft :=
  fun _ => none

variable {record} in
def Draft.set (draft : record.Draft) (f : F) (x : record.Ty f) : record.Draft :=
  fun g => if same : g = f then some (same ▸ x) else draft g

/-- The value of a field: what was read, or its value when it is left out. -/
def valueOf (draft : record.Draft) (f : F) : Except Cause (record.Ty f) :=
  match draft f, record.absent f with
  | some x, _ => .ok x
  | none, some x => .ok x
  | none, none => .error (.missingField (record.key f))

def finish (draft : record.Draft) : Except Cause α :=
  record.build (record.valueOf draft)

def field? (key : String) : Option F :=
  record.fields.find? fun f => record.key f == key

/-- How a message names the fields: `title with 3 elements`. -/
def expected : String :=
  let n := record.fields.length
  record.title ++ s!" with {n} element" ++ (if n = 1 then "" else "s")

/-- The members of an object up to its closing bracket. -/
def readFields (room : Nat) : (budget : Nat) → (first : Bool) → record.Draft → Read record.Draft
  | 0, _, _, input => .error (.before .endInObject input)
  | budget + 1, first, draft, input => do
      let (key?, rest) ← nextKey first input
      match key? with
      | none => .ok (draft, rest)
      | some key =>
          match record.field? key with
          | some f =>
              if (draft f).isSome then
                .error (.before (.duplicateField key) (behindObject rest))
              else
                let rest ← colon rest
                let (x, rest) ← (record.format f).read room rest
                readFields room budget false (draft.set f x) rest
          | none =>
              let rest ← colon rest
              let rest ← skip rest
              readFields room budget false draft rest

/-- The fields of a list, in their order; `index` counts the fields before. -/
def readInOrder (room : Nat) : List F → (index : Nat) → record.Draft → Read record.Draft
  | [], _, draft, input => .ok (draft, input)
  | f :: fs, index, draft, input => do
      let (more, rest) ← nextItem (index == 0) input
      if more then
        let (x, rest) ← (record.format f).read room rest
        readInOrder room fs (index + 1) (draft.set f x) rest
      else
        match record.absent f with
        | some x => readInOrder room fs (index + 1) (draft.set f x) rest
        | none => .error (.before (.invalidLength index record.expected) (behindList rest))

def read : Reader α := fun room input =>
  match skipBlanks input with
  | [] => .error (.before .endInValue [])
  | b :: rest =>
      if b = 0x7B then
        match room with
        | 0 => .error (.behindNext .recursionLimit (b :: rest))
        | room + 1 => do
            let (draft, rest) ← record.readFields room (budgetFor rest) true record.noFields rest
            match record.finish draft with
            | .ok x => .ok (x, rest.drop 1)
            | .error cause => .error (.before cause (rest.drop 1))
      else if b = 0x5B then
        match room with
        | 0 => .error (.behindNext .recursionLimit (b :: rest))
        | room + 1 => do
            let (draft, rest) ← record.readInOrder room record.fields 0 record.noFields rest
            match record.finish draft with
            | .ok x => do
                let rest ← endList rest
                .ok (x, rest)
            | .error cause => .error (.before cause (behindList rest))
      else .error (wrongType record.title (b :: rest))

/-- The fields out of the members of a document. -/
def fieldsOfMembers : record.Draft → List (String × Json) → Except Cause record.Draft
  | draft, [] => .ok draft
  | draft, (key, j) :: rest =>
      match record.field? key with
      | some f =>
          if (draft f).isSome then .error (.duplicateField key)
          else do
            let x ← (record.format f).ofJson j
            fieldsOfMembers (draft.set f x) rest
      | none => fieldsOfMembers draft rest

/-- The fields out of the items of a document, and the items that are left over. -/
def fieldsInOrder : List F → (index : Nat) → record.Draft → List Json →
    Except Cause (record.Draft × List Json)
  | [], _, draft, items => .ok (draft, items)
  | f :: fs, index, draft, [] =>
      match record.absent f with
      | some x => fieldsInOrder fs (index + 1) (draft.set f x) []
      | none => .error (.invalidLength index record.expected)
  | f :: fs, index, draft, j :: rest => do
      let x ← (record.format f).ofJson j
      fieldsInOrder fs (index + 1) (draft.set f x) rest

/-- How a message names the items that a list should have had. -/
def expectedInSequence : String :=
  let n := record.fields.length
  if n = 1 then "1 element in sequence" else s!"{n} elements in sequence"

def ofJson : Json → Except Cause α
  | .object members => do
      let draft ← record.fieldsOfMembers record.noFields members
      record.finish draft
  | .array items => do
      let (draft, rest) ← record.fieldsInOrder record.fields 0 record.noFields items
      let x ← record.finish draft
      if rest.isEmpty then .ok x
      else .error (.invalidLength items.length record.expectedInSequence)
  | j => .error (.invalidType (found j) record.title)

def toFormat : Format α where
  read := record.read
  ofJson := record.ofJson

end Record

end ShellBridge.Json
