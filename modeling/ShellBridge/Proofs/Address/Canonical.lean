import ShellBridge.Proofs.Address.Parts
import ShellBridge.Proofs.Text.Stripping

/-!
The canonical notation of an address.

An accepted address is written again as its host and its port.  This text is accepted, with any
scheme and without one, and is read as the same address.
-/

namespace ShellBridge.Address

/-- The host and the port, with a colon between them. -/
def canonical (address : Address) : String :=
  address.host ++ ":" ++ toString address.port

/-! ### The scheme that is supplied -/

theorem mentionsAuthority_iff {cs : List Char} :
    mentionsAuthority cs = true ↔ "://".toList <:+: cs := by
  induction cs with
  | nil => simp [mentionsAuthority]
  | cons c cs inductionHypothesis =>
      rw [mentionsAuthority, Bool.or_eq_true, inductionHypothesis, List.infix_cons_iff,
        List.isPrefixOf_iff_prefix]

/-- The scheme that is supplied where none is given is `tcp`. -/
theorem prepare_tcp {cs : List Char} (without : ¬ "://".toList <:+: cs) :
    prepare ("tcp://".toList ++ cs) = prepare cs := by
  have bare : mentionsAuthority cs = false := by
    rw [← Bool.not_eq_true, mentionsAuthority_iff]
    exact without
  have given : mentionsAuthority ("tcp://".toList ++ cs) = true :=
    mentionsAuthority_iff.mpr ⟨"tcp".toList, cs, rfl⟩
  unfold prepare
  simp only [bare, given, if_true, Bool.false_eq_true, if_false]

/-- Nothing is taken from a text without blanks and controls. -/
theorem prepare_of_graphic {cs : List Char} (given : "://".toList <:+: cs)
    (graphic : ∀ c ∈ cs, 0x20 < c.toNat) : prepare cs = cs := by
  have stripped : Text.stripChars (fun c => decide (c.toNat ≤ 0x20)) cs = cs := by
    apply Text.stripChars_eq_self
    intro c inside
    exact decide_eq_false (Nat.not_le.mpr (graphic c inside))
  unfold prepare
  simp only [if_pos (mentionsAuthority_iff.mpr given), stripped]
  apply List.filter_eq_self.mpr
  intro c inside
  have removed : ∀ c ∈ ['\t', '\n', '\r'], ¬ 0x20 < c.toNat :=
    List.all_iff_forall_prop.mp (by decide)
  have kept : c ∉ ['\t', '\n', '\r'] := fun listed => removed c listed (graphic c inside)
  simpa [and_assoc] using kept

/-! ### Canonical parts -/

/-- The parts of the canonical notation. -/
def canonicalParts (address : Address) : Parts where
  user := none
  host := address.host.toList
  port := some (Nat.toDigits 10 address.port)
  path := []
  query := none
  fragment := none

theorem chars_canonicalParts (address : Address) :
    address.canonicalParts.chars = address.canonical.toList := by
  simp [Parts.chars, canonicalParts, canonical, Url.AuthorityParts.before, Url.withUser,
    Url.AuthorityParts.hostBefore, Url.marked, Tail.chars, Nat.toList_repr]

theorem port_toDigits {n : Nat} (bound : n < 0x10000) : Url.Port (Nat.toDigits 10 n) (some n) where
  digits := fun _ inside => Nat.isDigit_of_mem_toDigits (by decide) (by decide) inside
  number := Text.numeral?_toDigits (by decide) Text.decimalValue?_digitChar n
  bound := by
    rintro _ ⟨⟩
    exact bound

variable {address : Address} {cs : List Char}

theorem denote_canonicalParts (isHost : Url.Host cs address.host) (bound : address.port < 0x10000) :
    address.canonicalParts.Denote address := by
  have port := port_toDigits bound
  have number : address.canonicalParts.number = some address.port := port.number
  refine ⟨?_, ?_, .empty, Nat.zero_le 1⟩
  · rw [number]
    exact Url.AuthorityParts.names_of_host isHost.host_name port
  · rw [number]
    rfl

theorem graphic_canonical (isHost : Url.Host cs address.host) :
    ∀ c ∈ address.canonical.toList, 0x20 < c.toNat ∧ c ≠ '/' := by
  have digits : ∀ c ∈ Nat.toDigits 10 address.port, 0x20 < c.toNat ∧ c ≠ '/' := by
    intro c inside
    have digit := Nat.isDigit_of_mem_toDigits (by decide) (by decide) inside
    have least : 0x30 ≤ c.toNat := (Char.isDigit_iff_toNat.mp digit).1
    refine ⟨by omega, ?_⟩
    rintro rfl
    exact absurd digit (by decide)
  have whole : address.canonical.toList =
      address.host.toList ++ ':' :: Nat.toDigits 10 address.port := by
    simp [canonical, Nat.toList_repr]
  rw [whole]
  refine List.forall_mem_append.mpr ⟨isHost.graphic_name, ?_⟩
  exact List.forall_mem_cons.mpr ⟨by decide, digits⟩

/-- The canonical notation behind a scheme. -/
theorem spells_of_scheme (isHost : Url.Host cs address.host) (scheme : String)
    (supported : scheme ∈ schemes) :
    Spells (scheme ++ "://" ++ address.canonical) address.canonicalParts := by
  have small : ∀ scheme ∈ schemes, IsScheme scheme.toList := by decide
  have visible : ∀ scheme ∈ schemes,
      (scheme ++ "://").toList.all fun c => decide (0x20 < c.toNat) := by decide
  refine ⟨scheme.toList, small scheme supported, ?_⟩
  rw [chars_canonicalParts, String.toList_append, String.toList_append]
  apply prepare_of_graphic
  · exact List.infix_append _ _ _
  · refine List.forall_mem_append.mpr ⟨?_, fun c inside => (graphic_canonical isHost c inside).1⟩
    rw [← String.toList_append]
    exact List.all_iff_forall_prop.mp (visible scheme supported)

theorem spells_canonical (isHost : Url.Host cs address.host) :
    Spells address.canonical address.canonicalParts := by
  -- Neither hosts nor digits hold a slash, so `tcp` is supplied.
  have without : ¬ "://".toList <:+: address.canonical.toList := by
    intro inside
    have slash : '/' ∈ address.canonical.toList := inside.subset (by decide)
    exact (graphic_canonical isHost '/' slash).2 rfl
  obtain ⟨scheme, isScheme, spelled⟩ := spells_of_scheme isHost "tcp" (by decide)
  refine ⟨scheme, isScheme, ?_⟩
  have supplied : "tcp://".toList ++ address.canonical.toList =
      ("tcp" ++ "://" ++ address.canonical).toList := by
    rw [String.toList_append]
    rfl
  rw [← prepare_tcp without, supplied]
  exact spelled

/-- Whether a text is read depends on what is prepared of it only. -/
theorem read_eq_of_prepare {cs ds : List Char} (same : prepare cs = prepare ds) :
    read cs = read ds := by
  unfold read
  rw [same]

/-- An accepted address has a host and a port that fits, and its canonical notation is accepted with
and without a scheme; a scheme that is left out is `tcp`. -/
theorem parse_canonical (text : String) :
    (∀ address, parse text = .ok address →
      address.host ≠ "" ∧ address.port ≤ 0xFFFF ∧
        ∀ beginning ∈ ["", "tcp://", "mqtt://"],
          parse (beginning ++ address.canonical) = .ok address) ∧
      (¬ "://".toList <:+: text.toList →
        (parse text).mapError Refusal.fault =
          (parse ("tcp://" ++ text)).mapError Refusal.fault) := by
  constructor
  · intro address accepted
    obtain ⟨parts, _, denoted⟩ := parse_eq_ok_iff_parts.mp accepted
    have isHost := denoted.authority.host
    have canonical := denote_canonicalParts isHost denoted.port_lt
    refine ⟨isHost.name_ne_empty, Nat.le_of_lt_succ denoted.port_lt, ?_⟩
    intro beginning listed
    refine parse_eq_ok_iff_parts.mpr ⟨address.canonicalParts, ?_, canonical⟩
    simp only [List.mem_cons, List.not_mem_nil, or_false] at listed
    rcases listed with rfl | rfl | rfl
    · rw [String.empty_append]
      exact spells_canonical isHost
    · exact spells_of_scheme isHost "tcp" (by decide)
    · exact spells_of_scheme isHost "mqtt" (by decide)
  · intro without
    rw [mapError_parse, mapError_parse, String.toList_append]
    exact (read_eq_of_prepare (prepare_tcp without)).symm

/-- A user, zeros and a slash at the end have no place in the canonical notation. -/
theorem parse_canonical_of_ipv6 :
    parse " MQTT://me@[2001:DB8:0:0::1]:0021/" = .ok ⟨"[2001:db8::1]", 21⟩ ∧
      parse "[2001:db8::1]:21" = .ok ⟨"[2001:db8::1]", 21⟩ ∧
      (parse "broker:").mapError Refusal.fault = (parse "tcp://broker:").mapError Refusal.fault := by
  have accepted : parse " MQTT://me@[2001:DB8:0:0::1]:0021/" = .ok ⟨"[2001:db8::1]", 21⟩ :=
    Json.eq_ok_of_toOption (by decide)
  have without : ¬ "://".toList <:+: "broker:".toList :=
    mt mentionsAuthority_iff.mpr (by decide)
  obtain ⟨_, _, again⟩ := (parse_canonical _).1 _ accepted
  exact ⟨accepted, again "" (by decide), (parse_canonical "broker:").2 without⟩

end ShellBridge.Address
