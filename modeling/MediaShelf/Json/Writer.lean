import MediaShelf.Json.Basic

/-!
# Writing JSON

Values are written with one item to a line, two spaces of indentation for each level, and
characters beyond ASCII as they are.

## Main definitions

* `Json.quote` — a text as a JSON string
* `Json.write` — a value as indented text
-/

namespace MediaShelf.Json

/-- A hexadecimal digit in lower case. -/
def hexDigit (n : Nat) : Char := Nat.digitChar (n % 16)

/-- A character as it stands in a string: quotes, backslashes and control characters are
escaped. -/
def quoteChar (c : Char) : List Char :=
  if c = '\x22' then ['\\', '\x22']
  else if c = '\\' then ['\\', '\\']
  else if c = '\x08' then ['\\', 'b']
  else if c = '\t' then ['\\', 't']
  else if c = '\n' then ['\\', 'n']
  else if c = '\x0c' then ['\\', 'f']
  else if c = '\r' then ['\\', 'r']
  else if c.toNat < 32 then ['\\', 'u', '0', '0', hexDigit (c.toNat / 16), hexDigit c.toNat]
  else [c]

/-- The text as a JSON string. -/
def quote (text : List Char) : List Char := '\x22' :: (text.flatMap quoteChar ++ ['\x22'])

/-- A number as it is written. -/
def Number.write : Number → List Char
  | integer isNegative magnitude =>
    (if isNegative then ['-'] else []) ++ Nat.toDigits 10 magnitude
  | decimal isNegative mantissa exponent =>
    (if isNegative then ['-'] else []) ++ Nat.toDigits 10 mantissa ++
      'e' :: ((if exponent < 0 then ['-'] else []) ++ Nat.toDigits 10 exponent.natAbs)

/-- A new line indented by `level` levels. -/
def newline (level : Nat) : List Char := '\n' :: List.replicate (2 * level) ' '

mutual

/-- A value as text inside `level` levels. -/
def writeAt (level : Nat) : Json → List Char
  | .null => ['n', 'u', 'l', 'l']
  | .bool true => ['t', 'r', 'u', 'e']
  | .bool false => ['f', 'a', 'l', 's', 'e']
  | .number n => n.write
  | .string text => quote text.toList
  | .brokenString => quote []
  | .array [] => ['[', ']']
  | .array (item :: items) =>
    '[' :: newline (level + 1) ++ writeAt (level + 1) item ++ writeItems (level + 1) items ++
      newline level ++ [']']
  | .object [] => ['{', '}']
  | .object (member :: members) =>
    '{' :: newline (level + 1) ++ writeMember (level + 1) member ++
      writeMembers (level + 1) members ++ newline level ++ ['}']

/-- Items that follow another one. -/
def writeItems (level : Nat) : List Json → List Char
  | [] => []
  | item :: items => ',' :: newline level ++ writeAt level item ++ writeItems level items

/-- A member of an object. -/
def writeMember (level : Nat) : String × Json → List Char
  | (key, value) => quote key.toList ++ [':', ' '] ++ writeAt level value

/-- Members that follow another one. -/
def writeMembers (level : Nat) : List (String × Json) → List Char
  | [] => []
  | member :: members =>
    ',' :: newline level ++ writeMember level member ++ writeMembers level members

end

/-- A value as indented text. -/
def write (value : Json) : String := String.ofList (writeAt 0 value)

end MediaShelf.Json
