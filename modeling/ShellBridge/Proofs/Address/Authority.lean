import Mathlib.Data.List.TakeWhile
import ShellBridge.Proofs.Address.Host
import ShellBridge.Proofs.Json.Steps

/-!
Authorities of plain addresses.

A user stands in front of the last `@`, then comes the host, and the digits of the port stand behind
a colon.  The authority is taken apart in this order, and each part is found where it was written.
-/

namespace ShellBridge.Url

open Text (numeral? numeralFrom? decimalValue?)

/-- An optional part, behind its mark. -/
def marked (mark : Char) : Option (List Char) → List Char
  | some cs => mark :: cs
  | none => []

theorem takeWhile_append_marked {mark : Char} {cs : List Char} (unmarked : mark ∉ cs)
    (part : Option (List Char)) : (cs ++ marked mark part).takeWhile (· ≠ mark) = cs := by
  have others : ∀ c ∈ cs, decide (c ≠ mark) = true := by
    intro c membership
    rw [decide_eq_true_eq]
    rintro rfl
    exact unmarked membership
  rw [List.takeWhile_append_of_pos others]
  cases part <;> simp [marked]

theorem marked_injective {mark : Char} : Function.Injective (marked mark) := by
  rintro (_ | cs) (_ | ds) same
  · rfl
  · cases same
  · cases same
  · exact congrArg some (List.cons.inj same).2

/-- A part and what stands in front of its mark are told apart by the first mark. -/
theorem append_marked_inj {mark : Char} {cs ds : List Char} {part part' : Option (List Char)}
    (unmarked : mark ∉ cs) (unmarked' : mark ∉ ds)
    (same : cs ++ marked mark part = ds ++ marked mark part') : cs = ds ∧ part = part' := by
  have front : cs = ds := by
    rw [← takeWhile_append_marked unmarked part, same, takeWhile_append_marked unmarked' part']
  subst front
  exact ⟨rfl, marked_injective (List.append_cancel_left same)⟩

theorem exists_marked (mark : Char) (cs : List Char) :
    ∃ front part, cs = front ++ marked mark part ∧ mark ∉ front := by
  induction cs with
  | nil => exact ⟨[], none, rfl, List.not_mem_nil⟩
  | cons c cs inductionHypothesis =>
      by_cases here : c = mark
      · exact ⟨[], some cs, here ▸ rfl, List.not_mem_nil⟩
      · obtain ⟨front, part, rfl, unmarked⟩ := inductionHypothesis
        refine ⟨c :: front, part, rfl, ?_⟩
        exact List.not_mem_cons_of_ne_of_not_mem (Ne.symm here) unmarked

/-! ### The user -/

/-- A user, if there is one, in front of the rest of an address. -/
def withUser (user : Option (List Char)) (rest : List Char) : List Char :=
  match user with
  | some user => user ++ '@' :: rest
  | none => rest

def inAuthority (c : Char) : Bool :=
  !SchemeKind.plain.endsAuthority c

/-- No `@` stands before the end of the authority. -/
def Userless (rest : List Char) : Prop :=
  '@' ∉ rest.takeWhile inAuthority

theorem inAuthority_iff {c : Char} : inAuthority c = true ↔ c ∉ authorityEnds := by
  simp [inAuthority, endsAuthority_plain]

theorem splitUser_eq_none_iff {cs : List Char} : splitUser cs = none ↔ '@' ∉ cs := by
  fun_induction splitUser cs with
  | case1 => simp
  | case2 c rest user behind found inductionHypothesis => simp_all
  | case3 rest found inductionHypothesis => simp_all
  | case4 c rest found other inductionHypothesis => simp_all [eq_comm]

theorem splitUser_append (user : List Char) {rest : List Char} (userless : '@' ∉ rest) :
    splitUser (user ++ '@' :: rest) = some (user, rest) := by
  induction user with
  | nil =>
      have none := splitUser_eq_none_iff.mpr userless
      simp [splitUser, none]
  | cons c user inductionHypothesis =>
      rw [List.cons_append, splitUser, inductionHypothesis]

theorem of_splitUser {cs user rest : List Char} (found : splitUser cs = some (user, rest)) :
    cs = user ++ '@' :: rest ∧ '@' ∉ rest := by
  fun_induction splitUser cs generalizing user with
  | case1 => cases found
  | case2 c cs before behind inside inductionHypothesis =>
      obtain ⟨rfl, rfl⟩ := Prod.mk.inj (Option.some.inj found)
      obtain ⟨rfl, userless⟩ := inductionHypothesis inside
      exact ⟨rfl, userless⟩
  | case3 cs none inductionHypothesis =>
      obtain ⟨rfl, rfl⟩ := Prod.mk.inj (Option.some.inj found)
      exact ⟨rfl, splitUser_eq_none_iff.mp none⟩
  | case4 => cases found

theorem drop_length_takeWhile {α : Type} (p : α → Bool) (xs : List α) :
    xs.drop (xs.takeWhile p).length = xs.dropWhile p := by
  induction xs with
  | nil => rfl
  | cons x xs inductionHypothesis => cases test : p x <;> simp [test, inductionHypothesis]

theorem takeWhile_dropWhile_eq_nil {α : Type} (p : α → Bool) (xs : List α) :
    (xs.dropWhile p).takeWhile p = [] := by
  induction xs with
  | nil => rfl
  | cons x xs inductionHypothesis => cases test : p x <;> simp [test, inductionHypothesis]

theorem splitAuthority_plain (cs : List Char) :
    splitAuthority .plain cs =
      match splitUser (cs.takeWhile inAuthority) with
      | some (user, rest) => (some user, rest ++ cs.dropWhile inAuthority)
      | none => (none, cs) := by
  rw [← drop_length_takeWhile]
  rfl

theorem splitAuthority_withUser {user : Option (List Char)} {rest : List Char}
    (inside : ∀ cs ∈ user, ∀ c ∈ cs, c ∉ authorityEnds) (userless : Userless rest) :
    splitAuthority .plain (withUser user rest) = (user, rest) := by
  rw [splitAuthority_plain]
  cases user with
  | none =>
      have none := splitUser_eq_none_iff.mpr userless
      simp only [withUser, none]
  | some cs =>
      have all : ∀ c ∈ cs, inAuthority c = true :=
        fun c membership => inAuthority_iff.mpr (inside cs rfl c membership)
      -- The user ends at the last `@` of the authority, not of the address.
      have taken : (cs ++ '@' :: rest).takeWhile inAuthority =
          cs ++ '@' :: rest.takeWhile inAuthority := by
        rw [List.takeWhile_append_of_pos all]
        rfl
      have left : (cs ++ '@' :: rest).dropWhile inAuthority = rest.dropWhile inAuthority := by
        rw [List.dropWhile_append_of_pos all]
        rfl
      simp only [withUser, taken, left, splitUser_append cs userless,
        List.takeWhile_append_dropWhile]

theorem of_splitAuthority {cs rest : List Char} {user : Option (List Char)}
    (split : splitAuthority .plain cs = (user, rest)) :
    cs = withUser user rest ∧ (∀ cs ∈ user, ∀ c ∈ cs, c ∉ authorityEnds) ∧ Userless rest := by
  rw [splitAuthority_plain] at split
  split at split
  · next name inner found =>
      obtain ⟨rfl, rfl⟩ := Prod.mk.inj split
      obtain ⟨taken, userless⟩ := of_splitUser found
      have inside : ∀ c ∈ name ++ '@' :: inner, inAuthority c = true := by
        rw [← taken]
        exact fun c membership => List.mem_takeWhile_imp membership
      obtain ⟨named, others⟩ := List.forall_mem_append.mp inside
      refine ⟨?_, ?_, ?_⟩
      · calc cs = cs.takeWhile inAuthority ++ cs.dropWhile inAuthority :=
              List.takeWhile_append_dropWhile.symm
          _ = withUser (some name) (inner ++ cs.dropWhile inAuthority) := by
              rw [taken, withUser, List.append_assoc, List.cons_append]
      · rintro _ ⟨⟩ c membership
        exact inAuthority_iff.mp (named c membership)
      · have within : ∀ c ∈ inner, inAuthority c = true :=
          fun c membership => others c (List.mem_cons_of_mem '@' membership)
        rw [Userless, List.takeWhile_append_of_pos within, takeWhile_dropWhile_eq_nil,
          List.append_nil]
        exact userless
  · next found =>
      obtain ⟨rfl, rfl⟩ := Prod.mk.inj split
      refine ⟨rfl, ?_, splitUser_eq_none_iff.mp found⟩
      exact fun cs absent => absurd absent (Option.not_mem_none cs)

/-! ### The port -/

/-- The rest of an address that may follow a port. -/
def EndsPort (rest : List Char) : Prop :=
  ∀ c ∈ rest.head?, c ∈ '\\' :: authorityEnds

/-- Digits of a number that fits a port, or no digits. -/
structure Port (cs : List Char) (port : Option Nat) : Prop where
  digits : ∀ c ∈ cs, c.isDigit
  number : numeral? 10 decimalValue? cs = port
  bound : ∀ n ∈ port, n < 0x10000

theorem endsPort_nil : EndsPort [] :=
  fun c first => absurd first (Option.not_mem_none c)

theorem Port.empty : Port [] none where
  digits := fun _ inside => absurd inside List.not_mem_nil
  number := rfl
  bound := fun n absent => absurd absent (Option.not_mem_none n)

theorem readPort_of_endsPort (port : Option Nat) {rest : List Char} (ends : EndsPort rest) :
    readPort port rest = .ok (port, rest) := by
  cases rest with
  | nil => rfl
  | cons c rest =>
      have mark : ∀ c ∈ '\\' :: authorityEnds,
          decimalValue? c = none ∧ "/\\?#".toList.contains c = true :=
        List.all_iff_forall_prop.mp (by decide)
      obtain ⟨noDigit, stops⟩ := mark c (ends c rfl)
      simp only [readPort, noDigit, stops, if_true]

/-- Digits are read on from a number as long as it fits. -/
theorem readPort_some {n m : Nat} {digits rest : List Char} (ends : EndsPort rest)
    (number : numeralFrom? 10 decimalValue? n digits = some m) (bound : m < 0x10000) :
    readPort (some n) (digits ++ rest) = .ok (some m, rest) := by
  induction digits generalizing n with
  | nil =>
      cases number
      exact readPort_of_endsPort (some m) ends
  | cons c digits inductionHypothesis =>
      rw [Text.numeralFrom?_cons] at number
      obtain ⟨d, digit, behind⟩ := Option.bind_eq_some_iff.mp number
      -- The number never gets smaller, so it fits all the way if it fits in the end.
      have fits : 10 * n + d < 0x10000 :=
        Nat.lt_of_le_of_lt (Text.le_of_numeralFrom? (by decide) behind) bound
      simp only [List.cons_append, readPort, digit, Option.getD_some, if_pos fits]
      exact inductionHypothesis behind

theorem Port.readPort_eq {cs rest : List Char} {port : Option Nat} (written : Port cs port)
    (ends : EndsPort rest) : readPort none (cs ++ rest) = .ok (port, rest) := by
  obtain ⟨digits, rfl, bound⟩ := written
  cases cs with
  | nil => exact readPort_of_endsPort none ends
  | cons c cs =>
      have isDigit : ∀ d ∈ c :: cs, (decimalValue? d).isSome := fun d inside =>
        Text.isSome_decimalValue?.trans (digits d inside)
      obtain ⟨n, number⟩ := Text.exists_numeralFrom? 10 isDigit 0
      rw [Text.numeral?_eq_from (List.cons_ne_nil c cs), number] at bound ⊢
      have first := readPort_some ends number (bound n rfl)
      obtain ⟨d, digit⟩ := Option.isSome_iff_exists.mp (isDigit c List.mem_cons_self)
      simpa only [List.cons_append, readPort, digit, Option.getD_none, Option.getD_some] using first

/-- What stops a port that goes on from another number. -/
theorem of_readPort {n? : Option Nat} {c : Char} {cs rest : List Char} {port : Option Nat}
    (noDigit : decimalValue? c = none) (read : readPort n? (c :: cs) = .ok (port, rest)) :
    port = n? ∧ rest = c :: cs ∧ EndsPort rest := by
  simp only [readPort, noDigit] at read
  split at read
  · next stops =>
      obtain ⟨rfl, rfl⟩ := Prod.mk.inj (Except.ok.inj read)
      refine ⟨rfl, rfl, ?_⟩
      rintro _ ⟨⟩
      have listed : c ∈ "/\\?#".toList := by simpa using stops
      have marks : "/\\?#".toList ⊆ '\\' :: authorityEnds := by decide
      exact marks listed
  · cases read

/-- The digits of a port, if there are any, go on from the number before them. -/
theorem exists_digits_of_readPort {n? : Option Nat} {cs rest : List Char} {port : Option Nat}
    (read : readPort n? cs = .ok (port, rest)) :
    ∃ digits, cs = digits ++ rest ∧ EndsPort rest ∧
      (digits = [] ∧ port = n? ∨
        digits ≠ [] ∧ ∃ m < 0x10000, port = some m ∧
          numeralFrom? 10 decimalValue? (n?.getD 0) digits = some m) := by
  induction cs generalizing n? with
  | nil =>
      cases read
      exact ⟨[], rfl, endsPort_nil, .inl ⟨rfl, rfl⟩⟩
  | cons c cs inductionHypothesis =>
      cases digit : decimalValue? c with
      | none =>
          obtain ⟨rfl, rfl, ends⟩ := of_readPort digit read
          exact ⟨[], rfl, ends, .inl ⟨rfl, rfl⟩⟩
      | some d =>
          simp only [readPort, digit] at read
          split at read
          case isFalse => cases read
          case isTrue fits =>
              obtain ⟨digits, rfl, ends, number⟩ := inductionHypothesis read
              refine ⟨c :: digits, rfl, ends, .inr ⟨List.cons_ne_nil c digits, ?_⟩⟩
              rw [Text.numeralFrom?_cons, digit]
              rcases number with ⟨rfl, rfl⟩ | ⟨_, number⟩
              · exact ⟨_, fits, rfl, rfl⟩
              · exact number

theorem exists_port_of_readPort {cs rest : List Char} {port : Option Nat}
    (read : readPort none cs = .ok (port, rest)) :
    ∃ digits, cs = digits ++ rest ∧ Port digits port ∧ EndsPort rest := by
  obtain ⟨digits, rfl, ends, ⟨rfl, rfl⟩ | ⟨some, n, bound, rfl, number⟩⟩ :=
    exists_digits_of_readPort read
  · exact ⟨[], rfl, .empty, ends⟩
  · have isDigit := Text.digits_of_numeralFrom? number
    refine ⟨digits, rfl, ⟨?_, ?_, ?_⟩, ends⟩
    · exact fun c inside => Text.isSome_decimalValue?.symm.trans (isDigit c inside)
    · exact (Text.numeral?_eq_from some).trans number
    · rintro _ ⟨⟩
      exact bound

theorem readPortBehind_of_head? {rest : List Char} (noColon : ':' ∉ rest.head?) :
    readPortBehind rest = .ok (none, rest) := by
  unfold readPortBehind
  split
  · exact absurd rfl noColon
  · rfl

/-! ### Authorities -/

/-- The parts of an authority, as they are written; a user may have a password. -/
structure AuthorityParts where
  user : Option (List Char)
  host : List Char
  port : Option (List Char)

namespace AuthorityParts

/-- Host and port in front of the rest of an address. -/
def hostBefore (parts : AuthorityParts) (tail : List Char) : List Char :=
  parts.host ++ (marked ':' parts.port ++ tail)

def before (parts : AuthorityParts) (tail : List Char) : List Char :=
  withUser parts.user (parts.hostBefore tail)

/-- The parts name an authority that ends in front of the rest of an address; a backslash ends a
port, but no host. -/
structure Names (parts : AuthorityParts) (authority : Authority) (tail : List Char) : Prop where
  user : ∀ cs ∈ parts.user, ∀ c ∈ cs, c ∉ authorityEnds
  host : Host parts.host authority.host
  port : Port (parts.port.getD []) authority.port
  userless : Userless (parts.hostBefore tail)
  ends : ∀ c ∈ tail.head?, c ∈ authorityEnds ∨ parts.port.isSome ∧ c = '\\'

variable {parts : AuthorityParts} {authority : Authority} {tail : List Char}

theorem Names.splitAuthority_eq (names : parts.Names authority tail) :
    splitAuthority .plain (parts.before tail) = (parts.user, parts.hostBefore tail) :=
  splitAuthority_withUser names.user names.userless

theorem Names.spanHost_eq (names : parts.Names authority tail) :
    spanHost .plain false (parts.hostBefore tail) = (parts.host, marked ':' parts.port ++ tail) := by
  apply names.host.spanHost_eq
  intro c first
  cases written : parts.port with
  | none =>
      rw [written] at first
      refine .inr ((names.ends c first).resolve_right ?_)
      rintro ⟨some, _⟩
      rw [written] at some
      cases some
  | some digits =>
      rw [written] at first
      exact .inl (Option.some.inj first).symm

theorem Names.readPortBehind_eq (names : parts.Names authority tail) :
    readPortBehind (marked ':' parts.port ++ tail) = .ok (authority.port, tail) := by
  have port := names.port
  have ends := names.ends
  cases written : parts.port with
  | none =>
      rw [written] at port ends
      rw [← port.number]
      apply readPortBehind_of_head?
      intro first
      have noMark : ':' ∉ authorityEnds := by decide
      simpa [noMark] using ends ':' first
  | some digits =>
      rw [written] at port ends
      refine port.readPort_eq fun c first => ?_
      exact List.mem_cons.mpr ((ends c first).symm.imp_left And.right)

theorem Names.readAuthority_eq (names : parts.Names authority tail) :
    readAuthority .plain (parts.before tail) = .ok (authority, tail) := by
  have some := names.host.ne_nil
  have read : SchemeKind.plain.host parts.host = .ok authority.host :=
    (opaqueHost_eq_ok_iff some).mpr names.host
  have inside : ¬ (parts.hostBefore tail).head?.any SchemeKind.plain.endsAuthority := by
    obtain ⟨c, cs, written⟩ := List.exists_cons_of_ne_nil some
    have first : c ∈ parts.host := written ▸ List.mem_cons_self
    rw [hostBefore, written, List.cons_append, List.head?_cons, Option.any_some,
      endsAuthority_plain, decide_eq_true_eq]
    exact (names.host.unmarked c first).1
  unfold readAuthority
  rw [names.splitAuthority_eq]
  simp only [names.spanHost_eq, if_neg fun guard => inside (And.right guard),
    if_neg fun guard => some (And.left guard), read, bind, Except.bind, names.readPortBehind_eq,
    if_neg fun guard => names.host.name_ne_empty (And.left guard)]

/-- What is behind a host has a port, or goes on where the authority ends. -/
theorem exists_port_of_readPortBehind {behind : List Char} {port : Option Nat}
    (ends : EndsHost behind) (read : readPortBehind behind = .ok (port, tail)) :
    ∃ written, behind = marked ':' written ++ tail ∧ Port (written.getD []) port ∧
      ∀ c ∈ tail.head?, c ∈ authorityEnds ∨ written.isSome ∧ c = '\\' := by
  unfold readPortBehind at read
  split at read
  · obtain ⟨digits, rfl, port, ends⟩ := exists_port_of_readPort read
    refine ⟨some digits, rfl, port, fun c first => ?_⟩
    exact (List.mem_cons.mp (ends c first)).symm.imp_right fun same => ⟨rfl, same⟩
  · next noColon =>
      cases read
      refine ⟨none, rfl, .empty, fun c first => .inl ((ends c first).resolve_left ?_)⟩
      rintro rfl
      obtain ⟨rest, rfl⟩ := List.head?_eq_some_iff.mp first
      exact noColon rest rfl

theorem exists_parts_of_readAuthority {cs : List Char}
    (read : readAuthority .plain cs = .ok (authority, tail)) (named : authority.host ≠ "") :
    ∃ parts : AuthorityParts, cs = parts.before tail ∧ parts.Names authority tail := by
  rcases split : splitAuthority .plain cs with ⟨user, rest⟩
  rcases span : spanHost .plain false rest with ⟨host, behind⟩
  unfold readAuthority at read
  simp only [split, span] at read
  split at read
  · cases read
  split at read
  · cases read
  obtain ⟨name, isHost, read⟩ := Json.bind_eq_ok read
  obtain ⟨⟨port, _⟩, behindHost, read⟩ := Json.bind_eq_ok read
  obtain ⟨rfl, inside, userless⟩ := of_splitAuthority split
  have whole := spanHost_append .plain false rest
  have ends := endsHost_spanHost false rest
  rw [span] at whole ends
  split at read
  · cases read
  cases read
  obtain ⟨written, rfl, isPort, ends⟩ := exists_port_of_readPortBehind ends behindHost
  have some : host ≠ [] := by
    rintro rfl
    exact named (Except.ok.inj isHost).symm
  subst whole
  exact ⟨⟨user, host, written⟩, rfl, inside, (opaqueHost_eq_ok_iff some).mp isHost, isPort,
    userless, ends⟩

theorem ne_at_of_isDigit {c : Char} (digit : c.isDigit) : c ≠ '@' := by
  rintro rfl
  exact absurd digit (by decide)

/-- A host and a port stand for themselves, without a user and with nothing behind them. -/
theorem names_of_host {host : List Char} {port : Option (List Char)} (isHost : Host host authority.host)
    (isPort : Port (port.getD []) authority.port) :
    AuthorityParts.Names ⟨none, host, port⟩ authority [] where
  user := fun cs absent => absurd absent (Option.not_mem_none cs)
  host := isHost
  port := isPort
  userless := by
    intro inside
    rcases List.mem_append.mp (List.takeWhile_subset _ inside) with inHost | inPort
    · exact (isHost.unmarked '@' inHost).2 rfl
    · cases port with
      | none => exact absurd inPort List.not_mem_nil
      | some digits =>
          rw [List.append_nil] at inPort
          rcases List.mem_cons.mp inPort with mark | inDigits
          · exact absurd mark (by decide)
          · exact ne_at_of_isDigit (isPort.digits '@' inDigits) rfl
  ends := fun c first => absurd first (Option.not_mem_none c)

/-- An authority has its parts in one way only. -/
theorem Names.unique {parts' : AuthorityParts} {authority' : Authority} {tail' : List Char}
    (names : parts.Names authority tail) (names' : parts'.Names authority' tail')
    (same : parts.before tail = parts'.before tail') : parts = parts' ∧ tail = tail' := by
  -- Each reader finds its part in both notations, and hands the same rest to the next one.
  have splits := names.splitAuthority_eq
  rw [same, names'.splitAuthority_eq] at splits
  obtain ⟨user, behindUser⟩ := Prod.mk.inj splits
  have spans := names.spanHost_eq
  rw [← behindUser, names'.spanHost_eq] at spans
  obtain ⟨host, behindHost⟩ := Prod.mk.inj spans
  have ports := names.readPortBehind_eq
  rw [← behindHost, names'.readPortBehind_eq] at ports
  obtain ⟨_, rfl⟩ := Prod.mk.inj (Except.ok.inj ports)
  have port := marked_injective (List.append_cancel_right behindHost)
  refine ⟨?_, rfl⟩
  cases parts
  cases parts'
  simp_all

end AuthorityParts

end ShellBridge.Url
