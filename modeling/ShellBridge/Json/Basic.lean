import ShellBridge.Json.Number

/-!
JSON documents.

A `Json` keeps the members of an object in the order of the text, repeated keys included.  A
`Value` is a document in canonical form: the members of every object have strictly ascending keys.
`normalize` brings a document into this form; of members with one key the last counts.
-/

namespace ShellBridge

inductive Json where
  | null
  | bool (b : Bool)
  | number (n : Json.Number)
  | string (s : String)
  | array (items : List Json)
  | object (members : List (String × Json))
  deriving Inhabited

namespace Json

mutual

def decEq : (a b : Json) → Decidable (a = b)
  | .null, .null => isTrue rfl
  | .bool a, .bool b => decidable_of_iff (a = b) (by simp)
  | .number a, .number b => decidable_of_iff (a = b) (by simp)
  | .string a, .string b => decidable_of_iff (a = b) (by simp)
  | .array a, .array b =>
      match decEqItems a b with
      | isTrue same => isTrue (by rw [same])
      | isFalse different => isFalse (by simp [different])
  | .object a, .object b =>
      match decEqMembers a b with
      | isTrue same => isTrue (by rw [same])
      | isFalse different => isFalse (by simp [different])
  | .null, .bool _ | .null, .number _ | .null, .string _ | .null, .array _ | .null, .object _
  | .bool _, .null | .bool _, .number _ | .bool _, .string _ | .bool _, .array _
  | .bool _, .object _
  | .number _, .null | .number _, .bool _ | .number _, .string _ | .number _, .array _
  | .number _, .object _
  | .string _, .null | .string _, .bool _ | .string _, .number _ | .string _, .array _
  | .string _, .object _
  | .array _, .null | .array _, .bool _ | .array _, .number _ | .array _, .string _
  | .array _, .object _
  | .object _, .null | .object _, .bool _ | .object _, .number _ | .object _, .string _
  | .object _, .array _ => isFalse (by simp)

def decEqItems : (a b : List Json) → Decidable (a = b)
  | [], [] => isTrue rfl
  | [], _ :: _ | _ :: _, [] => isFalse (by simp)
  | x :: xs, y :: ys =>
      match decEq x y, decEqItems xs ys with
      | isTrue same, isTrue sameRest => isTrue (by rw [same, sameRest])
      | isFalse different, _ => isFalse (by simp [different])
      | _, isFalse different => isFalse (by simp [different])

def decEqMembers : (a b : List (String × Json)) → Decidable (a = b)
  | [], [] => isTrue rfl
  | [], _ :: _ | _ :: _, [] => isFalse (by simp)
  | (k, x) :: xs, (l, y) :: ys =>
      match decEq x y, decEqMembers xs ys, instDecidableEqString k l with
      | isTrue same, isTrue sameRest, isTrue sameKey =>
          isTrue (by rw [same, sameRest, sameKey])
      | isFalse different, _, _ => isFalse (by simp [different])
      | _, isFalse different, _ => isFalse (by simp [different])
      | _, _, isFalse different => isFalse (by simp [different])

end

instance : DecidableEq Json := decEq

mutual

/-- Every object of the document has strictly ascending keys. -/
def IsCanonical : Json → Prop
  | .array items => AllCanonical items
  | .object members => MembersCanonical members
  | _ => True

def AllCanonical : List Json → Prop
  | [] => True
  | item :: rest => item.IsCanonical ∧ AllCanonical rest

def MembersCanonical : List (String × Json) → Prop
  | [] => True
  | (key, value) :: rest =>
      value.IsCanonical ∧ (∀ m ∈ rest, key < m.1) ∧ MembersCanonical rest

end

/-- Puts a member at its place among members with ascending keys, in place of one that has its
key. -/
def insertMember (key : String) (value : Json) : List (String × Json) → List (String × Json)
  | [] => [(key, value)]
  | (k, v) :: rest =>
      if key = k then (key, value) :: rest
      else if key < k then (key, value) :: (k, v) :: rest
      else (k, v) :: insertMember key value rest

/-- Puts a member at its place among members with ascending keys, unless its key is there. -/
def insertAbsent (key : String) (value : Json) : List (String × Json) → List (String × Json)
  | [] => [(key, value)]
  | (k, v) :: rest =>
      if key = k then (k, v) :: rest
      else if key < k then (key, value) :: (k, v) :: rest
      else (k, v) :: insertAbsent key value rest

mutual

def normalize : Json → Json
  | .array items => .array (normalizeItems items)
  | .object members => .object (normalizeMembers members)
  | .null => .null
  | .bool b => .bool b
  | .number n => .number n
  | .string s => .string s

def normalizeItems : List Json → List Json
  | [] => []
  | item :: rest => item.normalize :: normalizeItems rest

def normalizeMembers : List (String × Json) → List (String × Json)
  | [] => []
  | (key, value) :: rest => insertAbsent key value.normalize (normalizeMembers rest)

end

theorem lt_of_not_lt {a b : String} (different : ¬a = b) (notLess : ¬a < b) : b < a :=
  Std.lt_of_le_of_ne (String.not_lt.mp notLess) fun same => different same.symm

/-- A key below the first one is below all that follow. -/
theorem lt_of_mem_cons {key first : String} {value : Json} {rest : List (String × Json)}
    (less : key < first) (below : ∀ m ∈ rest, first < m.1) :
    ∀ m ∈ (first, value) :: rest, key < m.1 := by
  intro m membership
  rcases List.mem_cons.mp membership with rfl | behind
  · exact less
  · exact String.lt_trans less (below m behind)

/-- What is inserted behind the first key leaves it the first one. -/
theorem lt_of_mem_inserted {key first : String} {rest inserted : List (String × Json)}
    (less : first < key) (below : ∀ m ∈ rest, first < m.1)
    (origin : ∀ m ∈ inserted, m.1 = key ∨ m ∈ rest) : ∀ m ∈ inserted, first < m.1 := by
  intro m membership
  rcases origin m membership with same | behind
  · rw [same]
    exact less
  · exact below m behind

theorem key_of_mem_insertMember {key : String} {value : Json} {members : List (String × Json)}
    {m : String × Json} (membership : m ∈ insertMember key value members) :
    m.1 = key ∨ m ∈ members := by
  induction members with
  | nil => simp_all [insertMember]
  | cons head rest inductionHypothesis =>
      unfold insertMember at membership
      split at membership
      · rcases List.mem_cons.mp membership with same | behind
        · exact .inl (by rw [same])
        · exact .inr (List.mem_cons_of_mem _ behind)
      · split at membership
        · rcases List.mem_cons.mp membership with same | behind
          · exact .inl (by rw [same])
          · exact .inr behind
        · rcases List.mem_cons.mp membership with same | behind
          · exact .inr (by simp [same])
          · exact (inductionHypothesis behind).imp_right (List.mem_cons_of_mem _)

theorem MembersCanonical.insertMember {key : String} {value : Json}
    {members : List (String × Json)} (canonical : MembersCanonical members)
    (canonicalValue : value.IsCanonical) :
    MembersCanonical (Json.insertMember key value members) := by
  induction members with
  | nil => simp [Json.insertMember, MembersCanonical, canonicalValue]
  | cons head rest inductionHypothesis =>
      obtain ⟨first, firstValue⟩ := head
      obtain ⟨canonicalFirst, below, canonicalRest⟩ := canonical
      unfold Json.insertMember
      split
      next same => exact ⟨canonicalValue, by rw [same]; exact below, canonicalRest⟩
      next different =>
        split
        next less =>
          exact ⟨canonicalValue, lt_of_mem_cons less below, canonicalFirst, below, canonicalRest⟩
        next notLess =>
          have behind : ∀ m ∈ Json.insertMember key value rest, first < m.1 :=
            lt_of_mem_inserted (lt_of_not_lt different notLess) below
              fun _ => key_of_mem_insertMember
          exact ⟨canonicalFirst, behind, inductionHypothesis canonicalRest⟩

theorem key_of_mem_insertAbsent {key : String} {value : Json} {members : List (String × Json)}
    {m : String × Json} (membership : m ∈ insertAbsent key value members) :
    m.1 = key ∨ m ∈ members := by
  induction members with
  | nil => simp_all [insertAbsent]
  | cons head rest inductionHypothesis =>
      unfold insertAbsent at membership
      split at membership
      · exact .inr membership
      · split at membership
        · rcases List.mem_cons.mp membership with same | behind
          · exact .inl (by rw [same])
          · exact .inr behind
        · rcases List.mem_cons.mp membership with same | behind
          · exact .inr (by simp [same])
          · exact (inductionHypothesis behind).imp_right (List.mem_cons_of_mem _)

theorem MembersCanonical.insertAbsent {key : String} {value : Json}
    {members : List (String × Json)} (canonical : MembersCanonical members)
    (canonicalValue : value.IsCanonical) :
    MembersCanonical (Json.insertAbsent key value members) := by
  induction members with
  | nil => simp [Json.insertAbsent, MembersCanonical, canonicalValue]
  | cons head rest inductionHypothesis =>
      obtain ⟨first, firstValue⟩ := head
      obtain ⟨canonicalFirst, below, canonicalRest⟩ := canonical
      unfold Json.insertAbsent
      split
      next => exact ⟨canonicalFirst, below, canonicalRest⟩
      next different =>
        split
        next less =>
          exact ⟨canonicalValue, lt_of_mem_cons less below, canonicalFirst, below, canonicalRest⟩
        next notLess =>
          have behind : ∀ m ∈ Json.insertAbsent key value rest, first < m.1 :=
            lt_of_mem_inserted (lt_of_not_lt different notLess) below
              fun _ => key_of_mem_insertAbsent
          exact ⟨canonicalFirst, behind, inductionHypothesis canonicalRest⟩

mutual

theorem normalize_isCanonical : (j : Json) → j.normalize.IsCanonical
  | .array items => normalizeItems_allCanonical items
  | .object members => normalizeMembers_canonical members
  | .null | .bool _ | .number _ | .string _ => by simp [normalize, IsCanonical]

theorem normalizeItems_allCanonical : (items : List Json) → AllCanonical (normalizeItems items)
  | [] => trivial
  | item :: rest => ⟨normalize_isCanonical item, normalizeItems_allCanonical rest⟩

theorem normalizeMembers_canonical :
    (members : List (String × Json)) → MembersCanonical (normalizeMembers members)
  | [] => trivial
  | (_, value) :: rest =>
      (normalizeMembers_canonical rest).insertAbsent (normalize_isCanonical value)

end

/-- A document in canonical form. -/
def Value : Type := { j : Json // j.IsCanonical }

namespace Value

instance : DecidableEq Value := inferInstanceAs (DecidableEq { j : Json // j.IsCanonical })

def ofJson (j : Json) : Value := ⟨j.normalize, j.normalize_isCanonical⟩

def null : Value := ⟨.null, trivial⟩

def string (s : String) : Value := ⟨.string s, trivial⟩

def ofInteger (i : Integer) : Value := ⟨.number (.int i), trivial⟩

end Value

/-- The members of an object in canonical form. -/
def Members : Type := { ms : List (String × Json) // MembersCanonical ms }

namespace Members

instance : DecidableEq Members :=
  inferInstanceAs (DecidableEq { ms : List (String × Json) // MembersCanonical ms })

def empty : Members := ⟨[], trivial⟩

def ofList (members : List (String × Json)) : Members :=
  ⟨normalizeMembers members, normalizeMembers_canonical members⟩

/-- The members with one more, in place of a former one of its key. -/
def insert (members : Members) (key : String) (value : Value) : Members :=
  ⟨insertMember key value.val members.val, members.property.insertMember value.property⟩

end Members

end Json

end ShellBridge
