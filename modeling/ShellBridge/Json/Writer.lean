import ShellBridge.Json.Basic
import ShellBridge.Text.Utf8
import ShellBridge.Text.Quoted

/-!
The texts of a document: compact, without any blanks, and indented by two blanks a level.
-/

namespace ShellBridge.Json

/-- A character inside a string: quote, backslash and controls are escaped, nothing else. -/
def escapeChar (c : Char) : List Char :=
  if c = '"' then ['\\', '"']
  else if c = '\\' then ['\\', '\\']
  else if c = '\x08' then ['\\', 'b']
  else if c = '\x0c' then ['\\', 'f']
  else if c = '\n' then ['\\', 'n']
  else if c = '\r' then ['\\', 'r']
  else if c = '\t' then ['\\', 't']
  else if c.toNat < 0x20 then
    ['\\', 'u', '0', '0', Text.hexDigit (c.toNat / 16), Text.hexDigit (c.toNat % 16)]
  else [c]

def stringChars (s : String) : List Char :=
  '"' :: (s.toList.flatMap escapeChar ++ ['"'])

mutual

def chars : Json → List Char
  | .null => ['n', 'u', 'l', 'l']
  | .bool true => ['t', 'r', 'u', 'e']
  | .bool false => ['f', 'a', 'l', 's', 'e']
  | .number n => n.chars
  | .string s => stringChars s
  | .array [] => ['[', ']']
  | .array (item :: rest) => '[' :: (chars item ++ itemsChars rest)
  | .object [] => ['\x7b', '\x7d']
  | .object ((key, value) :: rest) =>
      '\x7b' :: (stringChars key ++ ':' :: (chars value ++ membersChars rest))

/-- The items behind the first one, and the closing bracket. -/
def itemsChars : List Json → List Char
  | [] => [']']
  | item :: rest => ',' :: (chars item ++ itemsChars rest)

/-- The members behind the first one, and the closing bracket. -/
def membersChars : List (String × Json) → List Char
  | [] => ['\x7d']
  | (key, value) :: rest =>
      ',' :: (stringChars key ++ ':' :: (chars value ++ membersChars rest))

end

/-- A line break and the indentation of a level. -/
def lineBreak (level : Nat) : List Char :=
  '\n' :: List.replicate (2 * level) ' '

mutual

def indentedChars (level : Nat) : Json → List Char
  | .null => ['n', 'u', 'l', 'l']
  | .bool true => ['t', 'r', 'u', 'e']
  | .bool false => ['f', 'a', 'l', 's', 'e']
  | .number n => n.chars
  | .string s => stringChars s
  | .array [] => ['[', ']']
  | .array (item :: rest) =>
      '[' :: (lineBreak (level + 1) ++ indentedChars (level + 1) item
        ++ indentedItemsChars level rest)
  | .object [] => ['\x7b', '\x7d']
  | .object ((key, value) :: rest) =>
      '\x7b' :: (lineBreak (level + 1) ++ stringChars key
        ++ ':' :: ' ' :: (indentedChars (level + 1) value ++ indentedMembersChars level rest))

def indentedItemsChars (level : Nat) : List Json → List Char
  | [] => lineBreak level ++ [']']
  | item :: rest =>
      ',' :: (lineBreak (level + 1) ++ indentedChars (level + 1) item
        ++ indentedItemsChars level rest)

def indentedMembersChars (level : Nat) : List (String × Json) → List Char
  | [] => lineBreak level ++ ['\x7d']
  | (key, value) :: rest =>
      ',' :: (lineBreak (level + 1) ++ stringChars key
        ++ ':' :: ' ' :: (indentedChars (level + 1) value ++ indentedMembersChars level rest))

end

/-- The compact text. -/
def text (j : Json) : String :=
  .ofList j.chars

/-- The bytes of the compact text. -/
def bytes (j : Json) : Bytes :=
  Utf8.encode j.chars

def indentedText (j : Json) : String :=
  .ofList (j.indentedChars 0)

end ShellBridge.Json
