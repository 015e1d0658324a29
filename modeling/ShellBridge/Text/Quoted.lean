import ShellBridge.Text.Quoted.Hidden

/-!
A text between double quotes, in the form that messages show it: the quote, the backslash and the
usual controls have short escapes, and a character that could not be seen is shown by its number.
-/

namespace ShellBridge.Text

def hexDigit (n : Nat) : Char :=
  if n < 10 then .ofNat (0x30 + n) else .ofNat (0x61 + (n - 10))

/-- Lower-case hexadecimal digits, without leading zeros. -/
def hex (n : Nat) : String :=
  .ofList (Nat.toDigits 16 n)

namespace Quoted

def escapeChar (c : Char) : String :=
  if c = '\x00' then "\\0"
  else if c = '\t' then "\\t"
  else if c = '\n' then "\\n"
  else if c = '\r' then "\\r"
  else if c = '"' then "\\\""
  else if c = '\\' then "\\\\"
  else if isHidden c then "\\u\x7b" ++ hex c.toNat ++ "\x7d"
  else .singleton c

end Quoted

def quoted (s : String) : String :=
  "\"" ++ String.join (s.toList.map Quoted.escapeChar) ++ "\""

end ShellBridge.Text
