import MediaShelf.Json.Reader

/-!
# TOML strings

A string stands in quotes, where escapes count, or in apostrophes, where they do not. Either sign
written three times opens a string of several lines. Lines end with a line feed here.

## Main definitions

* `isTextChar` — what may stand in strings and comments
* `readBasic?`, `readLiteral?` — strings of one line after their opening sign
* `readBasicLines?`, `readLiteralLines?` — strings of several lines after their opening signs
* `readString?` — a string of any of the four forms
-/

namespace MediaShelf.Toml

/-- Blanks within a line. -/
def isSpace (c : Char) : Bool := c == ' ' || c == '\t'

/-- The characters of strings and comments: all but control characters, and tabs. -/
def isTextChar (c : Char) : Bool := c == '\t' || (c.toNat ≥ 0x20 && c.toNat != 0x7F)

/-- The character of a single-letter escape. -/
def escaped? : Char → Option Char
  | '\x22' => some '\x22'
  | '\\' => some '\\'
  | 'b' => some '\x08'
  | 'f' => some '\x0c'
  | 'n' => some '\n'
  | 'r' => some '\r'
  | 't' => some '\t'
  | _ => none

/-- The character with a code point, if it has a character. -/
def scalar? (n : Nat) : Option Char :=
  if n < 0xD800 || (0xE000 ≤ n && n < 0x110000) then some (Char.ofNat n) else none

/-- The character of an escape with four digits. -/
def shortEscape? (a b c d : Char) : Option Char := (Json.hexUnit? a b c d).bind scalar?

/-- The character of an escape with eight digits. -/
def longEscape? (a b c d e f g h : Char) : Option Char := do
  scalar? ((← Json.hexUnit? a b c d) * 0x10000 + (← Json.hexUnit? e f g h))

/-- A result with a character put in front of its text. -/
def before (c : Char) (result : Option (List Char × List Char)) :
    Option (List Char × List Char) :=
  result.map fun (text, rest) => (c :: text, rest)

/-- The text up to the closing quote, and what is behind it. -/
def readBasic? : List Char → Option (List Char × List Char)
  | [] => none
  | '\x22' :: rest => some ([], rest)
  | '\\' :: 'u' :: a :: b :: c :: d :: rest => do
    before (← shortEscape? a b c d) (readBasic? rest)
  | '\\' :: 'U' :: a :: b :: c :: d :: e :: f :: g :: h :: rest => do
    before (← longEscape? a b c d e f g h) (readBasic? rest)
  | '\\' :: c :: rest => do before (← escaped? c) (readBasic? rest)
  | c :: rest => if isTextChar c && c != '\\' then before c (readBasic? rest) else none

/-- The text up to the closing apostrophe, and what is behind it. -/
def readLiteral? : List Char → Option (List Char × List Char)
  | [] => none
  | '\x27' :: rest => some ([], rest)
  | c :: rest => if isTextChar c then before c (readLiteral? rest) else none

/-- The end of a string of several lines: three signs, where one or two more still belong to the
text. -/
def closing? (sign : Char) : List Char → Option (List Char × List Char)
  | a :: b :: c :: rest =>
    if a == sign && b == sign && c == sign then
      let extra := (rest.takeWhile (· == sign)).take 2
      some (extra, rest.drop extra.length)
    else none
  | _ => none

/-- Whether a backslash in front of the text ends its line. -/
def endsLine (text : List Char) : Bool := (text.dropWhile isSpace).head? == some '\n'

/-- The text of several lines up to its closing quotes, and what is behind them. While `skipping`,
blanks and line ends are passed over. -/
def readBasicLines? (skipping : Bool) : List Char → Option (List Char × List Char)
  | [] => none
  | '\\' :: 'u' :: a :: b :: c :: d :: rest => do
    before (← shortEscape? a b c d) (readBasicLines? false rest)
  | '\\' :: 'U' :: a :: b :: c :: d :: e :: f :: g :: h :: rest => do
    before (← longEscape? a b c d e f g h) (readBasicLines? false rest)
  | '\\' :: c :: rest =>
    if endsLine (c :: rest) then readBasicLines? true (c :: rest)
    else do before (← escaped? c) (readBasicLines? false rest)
  | c :: rest =>
    if skipping && (isSpace c || c == '\n') then readBasicLines? true rest
    else match closing? '\x22' (c :: rest) with
      | some result => some result
      | none =>
        if (isTextChar c && c != '\\') || c == '\n' then before c (readBasicLines? false rest)
        else none

/-- The text of several lines up to its closing apostrophes, and what is behind them. -/
def readLiteralLines? : List Char → Option (List Char × List Char)
  | [] => none
  | c :: rest =>
    match closing? '\x27' (c :: rest) with
    | some result => some result
    | none => if isTextChar c || c == '\n' then before c (readLiteralLines? rest) else none

/-- The text without a line end at its start. -/
def dropNewline : List Char → List Char
  | '\n' :: rest => rest
  | text => text

/-- A string with its opening signs, and what is behind it. -/
def readString? : List Char → Option (List Char × List Char)
  | '\x22' :: '\x22' :: '\x22' :: rest => readBasicLines? false (dropNewline rest)
  | '\x22' :: rest => readBasic? rest
  | '\x27' :: '\x27' :: '\x27' :: rest => readLiteralLines? (dropNewline rest)
  | '\x27' :: rest => readLiteral? rest
  | _ => none

end MediaShelf.Toml
