import ShellBridge.Address.Url

/-!
Addresses of brokers: `tcp://HOST:PORT`, `mqtt://HOST:PORT` or `HOST:PORT`.

The port may be left out.  A user, a password, a query and a fragment are passed over; a path other
than `/` is refused.
-/

namespace ShellBridge

structure Address where
  host : String
  port : Nat
  deriving DecidableEq, Repr

namespace Address

inductive Fault where
  | url (fault : Url.Fault)
  | scheme (scheme : String)
  | path (path : String)
  | noHost
  deriving DecidableEq, Repr

def Fault.message : Fault → String
  | url fault => fault.message
  | scheme name => s!"unsupported scheme '{name}'"
  | path text => s!"unexpected path '{text}'"
  | noHost => "missing host"

/-- An address that was refused, as it was given. -/
structure Refusal where
  text : String
  fault : Fault
  deriving DecidableEq, Repr

def Refusal.message (refusal : Refusal) : String :=
  s!"invalid MQTT URL: {refusal.text}: {refusal.fault.message}"

def defaultPort : Nat := 1883

def schemes : List String := ["tcp", "mqtt"]

/-- Whether `://` occurs. -/
def mentionsAuthority : List Char → Bool
  | [] => false
  | c :: rest => "://".toList.isPrefixOf (c :: rest) || mentionsAuthority rest

/-- The text with a scheme, without blanks and controls at its ends and without line breaks and
tabs. -/
def prepare (text : List Char) : List Char :=
  let text := if mentionsAuthority text then text else "tcp://".toList ++ text
  (Text.stripChars (fun c => c.toNat ≤ 0x20) text).filter fun c =>
    c ≠ '\t' && c ≠ '\n' && c ≠ '\r'

/-- Authority and path of an address with a plain scheme, behind the colon. -/
def readPlain : List Char → Except Url.Fault (Url.Authority × String)
  | '/' :: '/' :: rest => do
      let (authority, rest) ← Url.readAuthority .plain rest
      .ok (authority, Url.pathBehind rest)
  | '/' :: rest => .ok (⟨"", none⟩, Url.pathBehind ('/' :: rest))
  | rest => .ok (⟨"", none⟩, Url.opaquePath rest)

/-- Whether an address of the web or a file can be read, behind the colon of its scheme. -/
def checkSpecial (kind : Url.SchemeKind) (rest : List Char) : Except Url.Fault Unit :=
  match kind with
  | .plain => .ok ()
  | .file => Url.checkFileHost rest
  | .web => (Url.readAuthority .web (rest.dropWhile Url.SchemeKind.web.isSlash)).map fun _ => ()

def read (text : List Char) : Except Fault Address := do
  match Url.splitScheme (prepare text) with
  | none => .error (.url .noScheme)
  | some (scheme, rest) =>
      let kind := Url.SchemeKind.ofScheme scheme
      if kind ≠ .plain then
        (checkSpecial kind rest).mapError .url
        .error (.scheme scheme)
      let (authority, path) ← (readPlain rest).mapError .url
      if scheme ∉ schemes then .error (.scheme scheme)
      if 1 < path.utf8ByteSize then .error (.path path)
      if authority.host = "" then .error .noHost
      .ok ⟨authority.host, authority.port.getD defaultPort⟩

def parse (text : String) : Except Refusal Address :=
  (read text.toList).mapError (⟨text, ·⟩)

end Address

end ShellBridge
