import Mathlib.Data.Bool.AllAny
import Mathlib.Data.List.Basic
import ShellBridge.Address.Url
import ShellBridge.Proofs.Address.Ipv6
import ShellBridge.Proofs.Text.Lines

/-!
Hosts of plain schemes.

A host is a text without reserved characters, of which controls and everything outside of ASCII are
percent-encoded; or it is an IPv6 address in brackets, which takes its canonical notation.  What a
host is named by is a host again, and is its own name.  An address goes on behind a host where the
host ends.
-/

namespace ShellBridge.Url

/-! ### Percent-encoding -/

section PercentEncode

variable {escaped : Char → Bool}

theorem percentEncode_of_plain {cs : List Char} (plain : ∀ c ∈ cs, escaped c = false) :
    percentEncode escaped cs = cs := by
  induction cs with
  | nil => rfl
  | cons c cs inductionHypothesis =>
      obtain ⟨first, others⟩ := List.forall_mem_cons.mp plain
      have behind := inductionHypothesis others
      unfold percentEncode at behind ⊢
      rw [List.flatMap_cons, first, behind]
      rfl

/-- Nothing is written but characters that need no escape, percent signs and digits. -/
theorem of_mem_percentEncode {P : Char → Prop} {cs : List Char}
    (kept : ∀ c ∈ cs, escaped c = false → P c) (percent : P '%')
    (digit : ∀ n < 16, P (upperHexDigit n)) : ∀ c ∈ percentEncode escaped cs, P c := by
  intro c membership
  obtain ⟨d, inside, written⟩ := List.mem_flatMap.mp membership
  split at written
  · obtain ⟨b, _, sign⟩ := List.mem_flatMap.mp written
    have bound : b.toNat < 256 := b.toNat_lt
    simp only [percentByte, List.mem_cons, List.not_mem_nil, or_false] at sign
    rcases sign with rfl | rfl | rfl
    · exact percent
    · exact digit _ (by omega)
    · exact digit _ (by omega)
  · next plain =>
      rw [List.mem_singleton.mp written]
      exact kept d inside (Bool.not_eq_true _ ▸ plain)

theorem percentEncode_ne_nil {cs : List Char} (some : cs ≠ []) : percentEncode escaped cs ≠ [] := by
  obtain ⟨c, rest, rfl⟩ := List.exists_cons_of_ne_nil some
  obtain ⟨b, more, encoded⟩ := List.exists_cons_of_ne_nil (Utf8.encodeChar_ne_nil c)
  unfold percentEncode
  rw [List.flatMap_cons]
  split
  · simp [encoded, percentByte]
  · exact List.cons_ne_nil c _

end PercentEncode

/-! ### Names of hosts -/

/-- The characters that end the authority of a plain address. -/
def authorityEnds : List Char :=
  ['/', '?', '#']

/-- No sign of an address in brackets delimits a host. -/
theorem not_isSign : ∀ c ∈ '@' :: '[' :: ']' :: authorityEnds, ¬ Ipv6.IsSign c :=
  List.all_iff_forall_prop.mp (by decide)

theorem delimiters_subset : '@' :: ':' :: '[' :: ']' :: authorityEnds ⊆ forbiddenInHost := by
  decide

/-- A host in writing, and its name. -/
inductive Host : List Char → String → Prop
  | plain {cs : List Char} : cs ≠ [] → (∀ c ∈ cs, c ∉ forbiddenInHost) →
      Host cs (.ofList (percentEncode isControl cs))
  | ipv6 {cs : List Char} {groups : List Nat} : Ipv6.parse cs = some groups →
      Host ('[' :: (cs ++ [']'])) ("[" ++ Ipv6.text groups ++ "]")

theorem bracketedHost_eq_ok_iff {cs : List Char} {name : String} :
    bracketedHost cs = .ok name ↔ ∃ inner groups, cs = inner ++ [']'] ∧
      Ipv6.parse inner = some groups ∧ name = "[" ++ Ipv6.text groups ++ "]" := by
  unfold bracketedHost
  constructor
  · intro read
    split at read
    · next groups last parsed =>
        cases read
        exact ⟨cs.dropLast, groups, (List.dropLast_append_getLast? _ last).symm, parsed, rfl⟩
    · cases read
  · rintro ⟨inner, groups, rfl, parsed, rfl⟩
    simp [parsed]

theorem opaqueHost_of_plain {cs : List Char} (plain : ∀ c ∈ cs, c ∉ forbiddenInHost) :
    opaqueHost cs = .ok (.ofList (percentEncode isControl cs)) := by
  have allowed : cs.any forbiddenInHost.contains = false := by simpa using plain
  unfold opaqueHost
  split
  · exact absurd List.mem_cons_self (fun inside => plain '[' inside (by decide))
  · rw [allowed]
    rfl

theorem opaqueHost_eq_ok_iff {cs : List Char} {name : String} (some : cs ≠ []) :
    opaqueHost cs = .ok name ↔ Host cs name := by
  constructor
  · intro read
    unfold opaqueHost at read
    split at read
    · obtain ⟨inner, groups, rfl, parsed, rfl⟩ := bracketedHost_eq_ok_iff.mp read
      exact .ipv6 parsed
    · split at read
      · cases read
      · next allowed =>
          cases read
          exact .plain some (by simpa using allowed)
  · rintro (⟨_, plain⟩ | parsed)
    · exact opaqueHost_of_plain plain
    · exact bracketedHost_eq_ok_iff.mpr ⟨_, _, rfl, parsed, rfl⟩

/-- The characters of a name are neither reserved nor escaped again. -/
theorem settled_of_mem_percentEncode {cs : List Char} (plain : ∀ c ∈ cs, c ∉ forbiddenInHost) :
    ∀ c ∈ percentEncode isControl cs, c ∉ forbiddenInHost ∧ isControl c = false :=
  of_mem_percentEncode (fun c inside kept => ⟨plain c inside, kept⟩) (by decide) (by decide)

namespace Host

variable {cs : List Char} {name : String}

theorem ne_nil (host : Host cs name) : cs ≠ [] := by
  cases host with
  | plain some => exact some
  | ipv6 => exact List.cons_ne_nil _ _

/-- The name of a host is a host with this name. -/
theorem host_name (host : Host cs name) : Host name.toList name := by
  cases host with
  | plain some plain =>
      have settled := settled_of_mem_percentEncode plain
      -- What was escaped once has nothing left to escape: percent signs and digits stay.
      have again := Host.plain (percentEncode_ne_nil some) fun c inside => (settled c inside).1
      rw [percentEncode_of_plain fun c inside => (settled c inside).2] at again
      rwa [String.toList_ofList]
  | ipv6 parsed =>
      have again := Host.ipv6 (Ipv6.parse_text (Ipv6.of_parse parsed).1)
      simpa using again

theorem name_ne_empty (host : Host cs name) : name ≠ "" := by
  rintro rfl
  exact host.host_name.ne_nil rfl

/-- A host in brackets is written with the signs of addresses. -/
theorem forall_mem_brackets {P : Char → Prop} {inner : List Char} {groups : List Nat}
    (parsed : Ipv6.parse inner = some groups) (opening : P '[') (closing : P ']')
    (sign : ∀ c, Ipv6.IsSign c → P c) : ∀ c ∈ '[' :: (inner ++ [']']), P c := by
  have signs := (Ipv6.of_parse parsed).2
  refine List.forall_mem_cons.mpr ⟨opening, List.forall_mem_append.mpr ⟨?_, ?_⟩⟩
  · exact fun c inside => sign c (signs c inside)
  · exact List.forall_mem_singleton.mpr closing

/-- No character of a host ends the authority, and none ends a user. -/
theorem unmarked (host : Host cs name) : ∀ c ∈ cs, c ∉ authorityEnds ∧ c ≠ '@' := by
  cases host with
  | plain some plain =>
      intro c inside
      refine ⟨fun mark => plain c inside (delimiters_subset (by simp [mark])), ?_⟩
      rintro rfl
      exact plain '@' inside (delimiters_subset List.mem_cons_self)
  | ipv6 parsed =>
      apply forall_mem_brackets (P := fun c => c ∉ authorityEnds ∧ c ≠ '@') parsed (by decide)
        (by decide)
      intro c sign
      refine ⟨fun mark => not_isSign c (by simp [mark]) sign, ?_⟩
      rintro rfl
      exact not_isSign '@' List.mem_cons_self sign

/-- A name has neither blanks nor slashes. -/
theorem graphic_name (host : Host cs name) : ∀ c ∈ name.toList, 0x20 < c.toNat ∧ c ≠ '/' := by
  have again := host.host_name
  have noSlash : ∀ c ∈ name.toList, c ≠ '/' := by
    rintro c inside rfl
    exact (again.unmarked '/' inside).1 (by decide)
  suffices graphic : ∀ c ∈ name.toList, 0x20 < c.toNat from
    fun c inside => ⟨graphic c inside, noSlash c inside⟩
  cases host with
  | @plain cs some plain =>
      rw [String.toList_ofList]
      intro c inside
      obtain ⟨allowed, visible⟩ := settled_of_mem_percentEncode plain c inside
      have least : 0x20 ≤ c.toNat := by
        simp only [isControl, Bool.or_eq_false_iff, decide_eq_false_iff_not] at visible
        exact Nat.le_of_not_lt visible.1
      apply Nat.lt_of_le_of_ne least
      intro blank
      have same : c = ' ' := Char.toNat_inj.mp blank.symm
      exact allowed (same ▸ by decide)
  | ipv6 parsed =>
      have canonical := Ipv6.parse_text (Ipv6.of_parse parsed).1
      have graphic := forall_mem_brackets canonical (P := fun c => 0x20 < c.toNat) (by decide)
        (by decide) fun c sign => sign.graphic
      simpa using graphic

end Host

/-! ### Where a host ends -/

theorem endsAuthority_plain (c : Char) :
    SchemeKind.plain.endsAuthority c = decide (c ∈ authorityEnds) := by
  simp [SchemeKind.endsAuthority, SchemeKind.isSlash, authorityEnds, Bool.or_assoc]

/-- The rest of an address that may follow a host. -/
def EndsHost (rest : List Char) : Prop :=
  ∀ c ∈ rest.head?, c = ':' ∨ c ∈ authorityEnds

theorem spanHost_append (kind : SchemeKind) (inBrackets : Bool) (cs : List Char) :
    (spanHost kind inBrackets cs).1 ++ (spanHost kind inBrackets cs).2 = cs := by
  fun_induction spanHost kind inBrackets cs with
  | case1 => rfl
  | case2 => rfl
  | case3 inBrackets c rest going inBrackets' host behind found inductionHypothesis =>
      rw [found] at inductionHypothesis
      exact congrArg (c :: ·) inductionHypothesis

theorem endsHost_spanHost (inBrackets : Bool) (cs : List Char) :
    EndsHost (spanHost .plain inBrackets cs).2 := by
  fun_induction spanHost .plain inBrackets cs with
  | case1 => exact fun c first => by cases first
  | case2 inBrackets c rest stops =>
      intro d first
      cases Option.some.inj first
      rw [endsAuthority_plain] at stops
      simp only [Bool.or_eq_true, decide_eq_true_eq, Bool.and_eq_true] at stops
      exact stops.symm.imp_left And.left
  | case3 inBrackets c rest going inBrackets' host behind found inductionHypothesis =>
      rw [found] at inductionHypothesis
      exact inductionHypothesis

theorem spanHost_of_endsHost {rest : List Char} (ends : EndsHost rest) :
    spanHost .plain false rest = ([], rest) := by
  cases rest with
  | nil => rfl
  | cons c rest =>
      rw [spanHost, endsAuthority_plain, if_pos]
      simpa using (ends c rfl).symm

/-- A character that ends no host is part of it; a colon is only between brackets. -/
theorem spanHost_cons {inBrackets : Bool} {c : Char} (rest : List Char) (inside : c ∉ authorityEnds)
    (colon : c = ':' → inBrackets = true) :
    spanHost .plain inBrackets (c :: rest) =
      let inBrackets := if c = '[' then true else if c = ']' then false else inBrackets
      (c :: (spanHost .plain inBrackets rest).1, (spanHost .plain inBrackets rest).2) := by
  have going : (SchemeKind.plain.endsAuthority c || (decide (c = ':') && !inBrackets)) = false := by
    rw [endsAuthority_plain]
    cases inBrackets <;> simp_all
  rw [spanHost, if_neg (by rw [going]; decide)]

/-- Characters that are neither brackets nor end the host are passed over. -/
theorem spanHost_within (inBrackets : Bool) {cs : List Char} (rest : List Char)
    (within : ∀ c ∈ cs, c ∉ '[' :: ']' :: authorityEnds ∧ (c = ':' → inBrackets = true)) :
    spanHost .plain inBrackets (cs ++ rest) =
      (cs ++ (spanHost .plain inBrackets rest).1, (spanHost .plain inBrackets rest).2) := by
  induction cs with
  | nil => rfl
  | cons c cs inductionHypothesis =>
      obtain ⟨⟨outside, colon⟩, others⟩ := List.forall_mem_cons.mp within
      simp only [List.mem_cons, not_or] at outside
      rw [List.cons_append, spanHost_cons _ (by simpa using outside.2.2) colon]
      simp only [if_neg outside.1, if_neg outside.2.1, inductionHypothesis others]
      rfl

/-- A host reaches up to where it may end. -/
theorem Host.spanHost_eq {cs : List Char} {name : String} (host : Host cs name) {rest : List Char}
    (ends : EndsHost rest) : spanHost .plain false (cs ++ rest) = (cs, rest) := by
  cases host with
  | plain some plain =>
      rw [spanHost_within false, spanHost_of_endsHost ends, List.append_nil]
      intro c inside
      have allowed := mt (@delimiters_subset c) (plain c inside)
      simp only [List.mem_cons, not_or] at allowed ⊢
      exact ⟨allowed.2.2, fun colon => absurd colon allowed.2.1⟩
  | @ipv6 cs groups parsed =>
      have signs := (Ipv6.of_parse parsed).2
      have inner := spanHost_within true (']' :: rest) fun c inside =>
        ⟨fun mark => not_isSign c (List.mem_cons_of_mem '@' mark) (signs c inside), fun _ => rfl⟩
      have closing : spanHost .plain true (']' :: rest) = ([']'], rest) := by
        rw [spanHost_cons rest (by decide) (by decide)]
        simp [spanHost_of_endsHost ends]
      rw [closing] at inner
      rw [List.cons_append, spanHost_cons _ (by decide) (by decide)]
      simp [inner]

end ShellBridge.Url
