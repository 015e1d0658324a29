import ShellBridge.Address
import ShellBridge.Proofs.Address.Authority

/-!
The parts of an address.

What stands behind the scheme of an accepted address falls into a user, a host, a port, a path, a
query and a fragment, in one way only.  Host and port make the address; all other parts are passed
over, but for a path that does not lead to the root.
-/

namespace ShellBridge.Address

open Url (AuthorityParts marked isPathEnd pathBehind splitScheme)

/-! ### The scheme -/

/-- A scheme of brokers in writing, in small or capital letters. -/
def IsScheme (cs : List Char) : Prop :=
  String.ofList (cs.map Char.toLower) ∈ schemes

instance (cs : List Char) : Decidable (IsScheme cs) :=
  inferInstanceAs (Decidable (String.ofList (cs.map Char.toLower) ∈ schemes))

theorem isAlpha_of_toLower {c : Char} (small : c.toLower.isAlpha) : c.isAlpha := by
  unfold Char.toLower at small
  split at small
  · next upper => exact Bool.or_eq_true_iff.mpr (.inl (decide_eq_true upper))
  · exact small

theorem IsScheme.isAlpha {cs : List Char} (scheme : IsScheme cs) : ∀ c ∈ cs, c.isAlpha := by
  intro c membership
  have letters : ∀ name ∈ schemes, name.toList.all Char.isAlpha := by decide
  have inside : c.toLower ∈ cs.map Char.toLower := List.mem_map_of_mem membership
  have small := List.all_eq_true.mp (letters _ scheme) c.toLower
  exact isAlpha_of_toLower (small (by rwa [String.toList_ofList]))

theorem IsScheme.ne_nil {cs : List Char} (scheme : IsScheme cs) : cs ≠ [] := by
  rintro rfl
  have unnamed : ¬ IsScheme [] := by decide
  exact unnamed scheme

theorem IsScheme.splitScheme_eq {cs : List Char} (scheme : IsScheme cs) (rest : List Char) :
    splitScheme (cs ++ ':' :: rest) = some (.ofList (cs.map Char.toLower), rest) := by
  have all : ∀ c ∈ cs, Url.isSchemeChar c = true := by
    intro c membership
    simp [Url.isSchemeChar, Char.isAlphanum, scheme.isAlpha c membership]
  obtain ⟨c, more, rfl⟩ := List.exists_cons_of_ne_nil scheme.ne_nil
  have letter := scheme.isAlpha c List.mem_cons_self
  have taken : (c :: more ++ ':' :: rest).takeWhile Url.isSchemeChar = c :: more := by
    rw [List.takeWhile_append_of_pos all]
    simp [Url.isSchemeChar]
  have left : (c :: more ++ ':' :: rest).dropWhile Url.isSchemeChar = ':' :: rest := by
    rw [List.dropWhile_append_of_pos all]
    rfl
  unfold splitScheme
  rw [taken, left]
  exact if_pos letter

theorem exists_written_of_splitScheme {cs rest : List Char} {scheme : String}
    (split : splitScheme cs = some (scheme, rest)) :
    ∃ written, cs = written ++ ':' :: rest ∧ scheme = .ofList (written.map Char.toLower) := by
  unfold splitScheme at split
  split at split
  · next c more behind taken left =>
      split at split
      · obtain ⟨rfl, rfl⟩ := Prod.mk.inj (Option.some.inj split)
        refine ⟨c :: more, ?_, rfl⟩
        rw [← taken, ← left, List.takeWhile_append_dropWhile]
      · cases split
  · cases split

/-! ### Path, query and fragment -/

/-- What stands behind the authority of an address, as it is written. -/
structure Tail where
  path : List Char
  query : Option (List Char)
  fragment : Option (List Char)

namespace Tail

def chars (tail : Tail) : List Char :=
  tail.path ++ marked '?' tail.query ++ marked '#' tail.fragment

/-- A query ends the path, and a fragment ends the path or the query. -/
structure Sound (tail : Tail) : Prop where
  path : '?' ∉ tail.path ∧ '#' ∉ tail.path
  query : ∀ cs ∈ tail.query, '#' ∉ cs

theorem Sound.empty : Sound ⟨[], none, none⟩ where
  path := ⟨List.not_mem_nil, List.not_mem_nil⟩
  query := fun cs absent => absurd absent (Option.not_mem_none cs)

theorem exists_chars_eq (cs : List Char) : ∃ tail : Tail, tail.chars = cs ∧ tail.Sound := by
  obtain ⟨front, fragment, rfl, unmarked⟩ := Url.exists_marked '#' cs
  obtain ⟨path, query, rfl, noQuery⟩ := Url.exists_marked '?' front
  obtain ⟨inPath, inQuery⟩ := not_or.mp (mt List.mem_append.mpr unmarked)
  refine ⟨⟨path, query, fragment⟩, rfl, ⟨noQuery, inPath⟩, ?_⟩
  rintro cs rfl
  exact fun inside => inQuery (List.mem_cons_of_mem '?' inside)

theorem Sound.not_mem_front {tail : Tail} (sound : tail.Sound) :
    '#' ∉ tail.path ++ marked '?' tail.query := by
  intro inside
  rcases List.mem_append.mp inside with inPath | inQuery
  · exact sound.path.2 inPath
  · cases query : tail.query with
    | none =>
        rw [query] at inQuery
        exact absurd inQuery List.not_mem_nil
    | some cs =>
        rw [query] at inQuery
        rcases List.mem_cons.mp inQuery with mark | inQuery
        · exact absurd mark (by decide)
        · exact sound.query cs query inQuery

theorem Sound.unique {tail tail' : Tail} (sound : tail.Sound) (sound' : tail'.Sound)
    (same : tail.chars = tail'.chars) : tail = tail' := by
  obtain ⟨front, fragment⟩ :=
    Url.append_marked_inj sound.not_mem_front sound'.not_mem_front same
  obtain ⟨path, query⟩ := Url.append_marked_inj sound.path.1 sound'.path.1 front
  cases tail
  cases tail'
  simp_all

/-- The path behind an authority ends where a query or a fragment starts. -/
theorem Sound.pathBehind_eq {tail : Tail} (sound : tail.Sound) :
    pathBehind tail.chars = pathBehind tail.path := by
  have going : ∀ c ∈ tail.path, (!isPathEnd c) = true := by
    intro c inside
    simp only [isPathEnd, Bool.not_eq_true', Bool.or_eq_false_iff, decide_eq_false_iff_not]
    constructor
    · rintro rfl
      exact sound.path.1 inside
    · rintro rfl
      exact sound.path.2 inside
  have ended : (marked '?' tail.query ++ marked '#' tail.fragment).takeWhile (!isPathEnd ·) = [] := by
    cases tail.query <;> cases tail.fragment <;> rfl
  have taken : tail.chars.takeWhile (!isPathEnd ·) = tail.path.takeWhile (!isPathEnd ·) := by
    rw [chars, List.append_assoc, List.takeWhile_append_of_pos going, ended, List.append_nil,
      List.takeWhile_eq_self_iff.mpr going]
  unfold pathBehind
  rw [taken]

end Tail

/-! ### Reading an address -/

/-- Only what stands behind two slashes has a host. -/
theorem of_readPlain {cs : List Char} {authority : Url.Authority} {path : String}
    (read : readPlain cs = .ok (authority, path)) (named : authority.host ≠ "") :
    ∃ rest tail, cs = '/' :: '/' :: rest ∧ Url.readAuthority .plain rest = .ok (authority, tail) ∧
      path = pathBehind tail := by
  unfold readPlain at read
  split at read
  · next rest =>
      obtain ⟨⟨authority, tail⟩, inside, read⟩ := Json.bind_eq_ok read
      cases read
      exact ⟨rest, tail, rfl, inside, rfl⟩
  · cases read
    exact absurd rfl named
  · cases read
    exact absurd rfl named

theorem schemes_plain : ∀ scheme ∈ schemes, Url.SchemeKind.ofScheme scheme = .plain := by
  decide

/-- What is read of an address behind its scheme, and what is checked of it. -/
theorem read_eq_ok_iff {text : List Char} {address : Address} :
    read text = .ok address ↔ ∃ scheme ∈ schemes, ∃ rest authority tail,
      splitScheme (prepare text) = some (scheme, '/' :: '/' :: rest) ∧
      Url.readAuthority .plain rest = .ok (authority, tail) ∧
      (pathBehind tail).utf8ByteSize ≤ 1 ∧ authority.host ≠ "" ∧
      address = ⟨authority.host, authority.port.getD defaultPort⟩ := by
  constructor
  · intro accepted
    unfold read at accepted
    split at accepted
    · cases accepted
    next scheme cs split =>
    dsimp only at accepted
    split at accepted
    · obtain ⟨_, _, refused⟩ := Json.bind_eq_ok accepted
      cases refused
    obtain ⟨⟨authority, path⟩, plain, accepted⟩ := Json.bind_eq_ok accepted
    split at accepted
    · cases accepted
    next supported =>
    split at accepted
    · cases accepted
    next root =>
    split at accepted
    · cases accepted
    next named =>
    cases accepted
    obtain ⟨rest, tail, rfl, inside, rfl⟩ := of_readPlain (Json.eq_ok_of_mapError plain) named
    exact ⟨scheme, not_not.mp supported, rest, authority, tail, split, inside, Nat.le_of_not_lt root,
      named, rfl⟩
  · rintro ⟨scheme, supported, rest, authority, tail, split, inside, root, named, rfl⟩
    have plain := schemes_plain scheme supported
    have behind : readPlain ('/' :: '/' :: rest) = .ok (authority, pathBehind tail) := by
      simp only [readPlain, inside, bind, Except.bind]
    unfold read
    simp only [split, plain, behind, ne_eq, not_true_eq_false, if_false, supported, named,
      if_neg (Nat.not_lt.mpr root), Except.mapError, bind, Except.bind]

/-! ### Addresses -/

/-- What stands behind the scheme of an address, as it is written. -/
structure Parts extends AuthorityParts, Tail

namespace Parts

def chars (parts : Parts) : List Char :=
  parts.before parts.toTail.chars

/-- The number of the port, if one is written. -/
def number (parts : Parts) : Option Nat :=
  Text.numeral? 10 Text.decimalValue? (parts.port.getD [])

/-- The parts denote an address: its host and its port, with a path that leads to the root. -/
structure Denote (parts : Parts) (address : Address) : Prop where
  authority : parts.Names ⟨address.host, parts.number⟩ parts.toTail.chars
  port : address.port = parts.number.getD defaultPort
  tail : parts.toTail.Sound
  root : (pathBehind parts.path).utf8ByteSize ≤ 1

/-- Nothing is written but a host, perhaps a port, and perhaps a slash at the end. -/
structure Bare (parts : Parts) : Prop where
  user : parts.user = none
  path : parts.path = [] ∨ parts.path = ['/']
  query : parts.query = none
  fragment : parts.fragment = none

/-- Host and port without all other parts. -/
def bare (parts : Parts) : Parts where
  user := none
  host := parts.host
  port := parts.port
  path := []
  query := none
  fragment := none

variable {parts : Parts} {address : Address}

theorem Denote.bare (denoted : parts.Denote address) : parts.bare.Denote address where
  authority := Url.AuthorityParts.names_of_host denoted.authority.host denoted.authority.port
  port := denoted.port
  tail := .empty
  root := Nat.zero_le 1

theorem Denote.port_lt (denoted : parts.Denote address) : address.port < 0x10000 := by
  rw [denoted.port]
  cases number : parts.number with
  | none => decide
  | some n => exact denoted.authority.port.bound n number

/-- Parts that are written in the same way are the same. -/
theorem Denote.unique {parts' : Parts} {address' : Address} (denoted : parts.Denote address)
    (denoted' : parts'.Denote address') (same : parts.chars = parts'.chars) : parts = parts' := by
  obtain ⟨authority, tail⟩ := denoted.authority.unique denoted'.authority same
  have tail := denoted.tail.unique denoted'.tail tail
  cases parts
  cases parts'
  simp_all

end Parts

/-- The parts are those of a text, behind its scheme. -/
def Spells (text : String) (parts : Parts) : Prop :=
  ∃ scheme, IsScheme scheme ∧ prepare text.toList = scheme ++ "://".toList ++ parts.chars

theorem spells_iff {text : String} {parts : Parts} :
    Spells text parts ↔ ∃ scheme ∈ schemes,
      splitScheme (prepare text.toList) = some (scheme, '/' :: '/' :: parts.chars) := by
  constructor
  · rintro ⟨written, scheme, spelled⟩
    refine ⟨_, scheme, ?_⟩
    rw [spelled, List.append_assoc]
    exact scheme.splitScheme_eq _
  · rintro ⟨scheme, supported, split⟩
    obtain ⟨written, spelled, rfl⟩ := exists_written_of_splitScheme split
    refine ⟨written, supported, ?_⟩
    rw [List.append_assoc]
    exact spelled

theorem mapError_parse (text : String) :
    (parse text).mapError Refusal.fault = read text.toList := by
  unfold parse
  cases read text.toList <;> rfl

theorem parse_eq_ok_iff_read {text : String} {address : Address} :
    parse text = .ok address ↔ read text.toList = .ok address := by
  rw [← mapError_parse]
  cases parse text <;> simp [Except.mapError]

/-- What is accepted is what has parts that denote an address. -/
theorem parse_eq_ok_iff_parts {text : String} {address : Address} :
    parse text = .ok address ↔ ∃ parts, Spells text parts ∧ parts.Denote address := by
  rw [parse_eq_ok_iff_read, read_eq_ok_iff]
  constructor
  · rintro ⟨scheme, supported, rest, authority, tail, split, inside, root, named, rfl⟩
    obtain ⟨parts, rfl, names⟩ :=
      Url.AuthorityParts.exists_parts_of_readAuthority inside named
    obtain ⟨tail, rfl, sound⟩ := Tail.exists_chars_eq tail
    refine ⟨⟨parts, tail⟩, spells_iff.mpr ⟨scheme, supported, split⟩, ?_⟩
    have number : Parts.number ⟨parts, tail⟩ = authority.port := names.port.number
    refine ⟨?_, ?_, sound, ?_⟩
    · rw [number]
      exact names
    · rw [number]
    · rwa [sound.pathBehind_eq] at root
  · rintro ⟨parts, spelled, denoted⟩
    obtain ⟨scheme, supported, split⟩ := spells_iff.mp spelled
    have inside := denoted.authority.readAuthority_eq
    refine ⟨scheme, supported, parts.chars, _, _, split, inside, ?_, ?_, ?_⟩
    · rw [denoted.tail.pathBehind_eq]
      exact denoted.root
    · exact denoted.authority.host.name_ne_empty
    · rw [← denoted.port]

theorem unique_of_spells {text : String} {parts parts' : Parts} {address address' : Address}
    (spelled : Spells text parts) (denoted : parts.Denote address) (spelled' : Spells text parts')
    (denoted' : parts'.Denote address') : parts = parts' := by
  obtain ⟨_, _, split⟩ := spells_iff.mp spelled
  obtain ⟨_, _, split'⟩ := spells_iff.mp spelled'
  rw [split] at split'
  obtain ⟨_, rest⟩ := Prod.mk.inj (Option.some.inj split')
  exact denoted.unique denoted' (List.cons.inj (List.cons.inj rest).2).2

/-- The text describes an address and nothing else. -/
def Describes (text : String) (address : Address) : Prop :=
  ∃ parts : Parts, parts.Bare ∧ Spells text parts ∧ parts.Denote address

/-! ### Parts that are passed over -/

/-- The marks of a user, a query and a fragment. -/
def marks : List Char :=
  ['@', '?', '#']

theorem Parts.Bare.unmarked {parts : Parts} {address : Address} (bare : parts.Bare)
    (denoted : parts.Denote address) : ∀ c ∈ parts.chars, c ∉ marks := by
  obtain ⟨⟨user, host, port⟩, ⟨path, query, fragment⟩⟩ := parts
  obtain ⟨rfl, root, rfl, rfl⟩ := bare
  have whole : chars ⟨⟨none, host, port⟩, ⟨path, none, none⟩⟩ =
      host ++ (marked ':' port ++ path) := by
    simp [chars, Url.AuthorityParts.before, Url.withUser, Url.AuthorityParts.hostBefore,
      Tail.chars, marked]
  rw [whole]
  refine List.forall_mem_append.mpr ⟨?_, List.forall_mem_append.mpr ⟨?_, ?_⟩⟩
  · intro c inside mark
    have ends : marks ⊆ '@' :: Url.authorityEnds := by decide
    obtain ⟨noEnd, noUser⟩ := denoted.authority.host.unmarked c inside
    exact (List.mem_cons.mp (ends mark)).elim noUser noEnd
  · have noDigit : ∀ c ∈ marks, ¬ c.isDigit := List.all_iff_forall_prop.mp (by decide)
    have digits := denoted.authority.port.digits
    cases port with
    | none => exact fun c absent => absurd absent List.not_mem_nil
    | some port =>
        refine List.forall_mem_cons.mpr ⟨by decide, ?_⟩
        exact fun c inside mark => noDigit c mark (digits c inside)
  · rcases root with rfl | rfl
    · exact fun c absent => absurd absent List.not_mem_nil
    · exact List.forall_mem_singleton.mpr (by decide)

theorem Describes.unmarked {text : String} {address : Address}
    (described : Describes text address) : ∀ c ∈ prepare text.toList, c ∉ marks := by
  obtain ⟨parts, bare, ⟨scheme, supported, spelled⟩, denoted⟩ := described
  rw [spelled]
  refine List.forall_mem_append.mpr ⟨List.forall_mem_append.mpr ⟨?_, ?_⟩, ?_⟩
  · intro c inside mark
    have noLetter : ∀ c ∈ marks, ¬ c.isAlpha := List.all_iff_forall_prop.mp (by decide)
    exact noLetter c mark (supported.isAlpha c inside)
  · exact List.all_iff_forall_prop.mp (by decide)
  · exact bare.unmarked denoted

theorem not_describes_of_any {text : String} {address : Address}
    (marked : (prepare text.toList).any marks.contains) : ¬ Describes text address := by
  intro described
  obtain ⟨c, inside, mark⟩ := List.any_eq_true.mp marked
  exact described.unmarked c inside (List.contains_iff_mem.mp mark)

/-- An address is accepted just if it has parts that denote it.  It is described by its host, its
port and a slash just if no other part is written, and all other parts make no difference. -/
theorem parts_exact (text : String) (address : Address) :
    (parse text = .ok address ↔ ∃ parts, Spells text parts ∧ parts.Denote address) ∧
      ∀ parts, Spells text parts → parts.Denote address →
        (Describes text address ↔ parts.Bare) ∧ parts.bare.Denote address := by
  refine ⟨parse_eq_ok_iff_parts, fun parts spelled denoted => ⟨⟨?_, ?_⟩, denoted.bare⟩⟩
  · rintro ⟨others, bare, spelled', denoted'⟩
    rwa [unique_of_spells spelled denoted spelled' denoted']
  · exact fun bare => ⟨parts, bare, spelled, denoted⟩

/-- A user with a password, a query and a fragment are accepted and lost. -/
theorem not_describes_of_marks :
    (parse "tcp://u:p@h:9" = .ok ⟨"h", 9⟩ ∧ ¬ Describes "tcp://u:p@h:9" ⟨"h", 9⟩) ∧
      (parse "tcp://h:9?q" = .ok ⟨"h", 9⟩ ∧ ¬ Describes "tcp://h:9?q" ⟨"h", 9⟩) ∧
        (parse "tcp://h:9#f" = .ok ⟨"h", 9⟩ ∧ ¬ Describes "tcp://h:9#f" ⟨"h", 9⟩) := by
  refine ⟨⟨?_, ?_⟩, ⟨?_, ?_⟩, ⟨?_, ?_⟩⟩
  · exact Json.eq_ok_of_toOption (by decide)
  · exact not_describes_of_any (by decide)
  · exact Json.eq_ok_of_toOption (by decide)
  · exact not_describes_of_any (by decide)
  · exact Json.eq_ok_of_toOption (by decide)
  · exact not_describes_of_any (by decide)

end ShellBridge.Address
