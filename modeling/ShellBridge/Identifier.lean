import ShellBridge.Text.Base64Url

/-!
Identifiers as topic segments.

Identifiers are IRIs or URNs and often contain `/`, which would split a topic.  They travel in
base64url without padding, so a segment holds letters, digits, `-` and `_` only.
-/

namespace ShellBridge.Identifier

/-- The text of bytes that are ASCII. -/
def asciiText (bytes : Bytes) : String :=
  .ofList (bytes.map fun b => Char.ofNat b.toNat)

def encode (id : String) : String :=
  asciiText (Base64Url.encode (utf8 id))

inductive Refusal where
  | base64 (refusal : Base64Url.Refusal)
  | utf8 (refusal : Utf8.Refusal)
  deriving DecidableEq, Repr

def Refusal.message : Refusal → String
  | base64 refusal => s!"base64 decode error: {refusal.message}"
  | utf8 refusal => s!"UTF-8 decode error: {refusal.message}"

def decode (segment : String) : Except Refusal String :=
  match Base64Url.decode (ShellBridge.utf8 segment) with
  | .error refusal => .error (.base64 refusal)
  | .ok bytes =>
      match Utf8.decode bytes with
      | .error refusal => .error (.utf8 refusal)
      | .ok cs => .ok (.ofList cs)

end ShellBridge.Identifier
