import MediaShelf.Toml.Quoted
import MediaShelf.Toml.Scalar
import MediaShelf.Toml.Table

/-!
# Reading TOML

A document gives an object: its tables are objects, its arrays of tables are arrays of objects, and
members keep the order in which they come up.

## Main definitions

* `readKey?` — a key of one or more parts
* `readValue?` — a value at the start of a text
* `readLines?` — the lines of a document, one after the other
* `Toml.read?` — the object that a whole document stands for
-/

namespace MediaShelf.Toml

/-- The text behind the blanks at its start. -/
def skipSpaces (text : List Char) : List Char := text.dropWhile isSpace

/-- The text behind blanks, line ends and comments, while `inComment` tells that a comment has
begun. -/
def skipFiller? (inComment : Bool) : List Char → Option (List Char)
  | [] => some []
  | c :: rest =>
    if c == '\n' then skipFiller? false rest
    else if inComment then if isTextChar c then skipFiller? true rest else none
    else if isSpace c then skipFiller? false rest
    else if c == '#' then skipFiller? true rest
    else some (c :: rest)

/-- Whether the character may stand in a key without quotes. -/
def isBareKeyChar (c : Char) : Bool := c.isAlphanum || c == '_' || c == '-'

/-- A part of a key. -/
def readKeyPart? : List Char → Option (String × List Char)
  | '\x22' :: rest => (readBasic? rest).map fun (text, rest) => (String.ofList text, rest)
  | '\x27' :: rest => (readLiteral? rest).map fun (text, rest) => (String.ofList text, rest)
  | text =>
    let part := text.takeWhile isBareKeyChar
    if part.isEmpty then none else some (String.ofList part, text.drop part.length)

/-- The most parts that a key may have. -/
def keyLimit : Nat := 79

/-- A key with its blanks, as the parts before the last, the last part, and what is behind it. -/
def readKeyParts? : Nat → List Char → Option (List String × String × List Char)
  | 0, _ => none
  | limit + 1, text => do
    let (part, rest) ← readKeyPart? (skipSpaces text)
    match skipSpaces rest with
    | '.' :: rest =>
      let (parts, last, rest) ← readKeyParts? limit rest
      pure (part :: parts, last, rest)
    | rest => pure ([], part, rest)

/-- A key with its blanks. -/
def readKey? (text : List Char) : Option (List String × String × List Char) :=
  readKeyParts? keyLimit text

/-- The characters of numbers, dates and truth values. -/
def isTokenChar (c : Char) : Bool := c.isAlphanum || ['+', '-', '_', '.', ':'].contains c

/-- A number, date or truth value. A time of day may follow a date behind a space. -/
def readBare? (text : List Char) : Option (Json × List Char) := do
  let (token, rest) := (text.takeWhile isTokenChar, text.dropWhile isTokenChar)
  let value ← readToken? token
  match afterDate? token, rest with
  -- a date alone may go on behind the space, but only with a time of day
  | some [], ' ' :: later =>
    let time := later.takeWhile isTokenChar
    if isTime time then pure (dateTime (token ++ ' ' :: time), later.drop time.length)
    else pure (value, rest)
  | _, _ => pure (value, rest)

/-- A value other than an array or a table. -/
def readSimple? (text : List Char) : Option (Json × List Char) :=
  match readString? text with
  | some (chars, rest) => some (.string (String.ofList chars), rest)
  | none => readBare? text

/-- A reader of values at the start of a text. -/
abbrev ValueReader := List Char → Option (Json × List Char)

/-- The items of an array up to its closing bracket. -/
def readItems? (value : ValueReader) : Nat → List Char → Option (List Json × List Char)
  | 0, _ => none
  | fuel + 1, text => do
    match ← skipFiller? false text with
    | ']' :: rest => pure ([], rest)
    | text =>
      let (item, rest) ← value text
      match ← skipFiller? false rest with
      | ']' :: rest => pure ([item], rest)
      | ',' :: rest =>
        let (items, rest) ← readItems? value fuel rest
        pure (item :: items, rest)
      | _ => none

/-- A key, an equals sign and a value; gives what adds the value to a table. -/
def readPair? (value : ValueReader) (text : List Char) :
    Option ((Members → Option Members) × List Char) := do
  let (parts, key, rest) ← readKey? text
  let (item, rest) ← value (skipSpaces (← expect? '=' rest))
  pure (add? parts key item, rest)

/-- The members of a table in braces up to its closing brace, behind those that were read
already. -/
def readPairs? (value : ValueReader) : Nat → Members → List Char → Option (Members × List Char)
  | 0, _, _ => none
  | fuel + 1, members, text => do
    let (adder, rest) ← readPair? value text
    let members ← adder members
    match skipSpaces rest with
    | '}' :: rest => pure (members, rest)
    | ',' :: rest => readPairs? value fuel members rest
    | _ => none

/-- A value, in which arrays and tables may be nested up to a depth. -/
def readValue? : Nat → ValueReader
  | 0, text => readSimple? text
  | depth + 1, text =>
    match text with
    | '[' :: rest =>
      (readItems? (readValue? depth) (rest.length + 1) rest).map fun (items, rest) =>
        (.array items, rest)
    | '{' :: rest =>
      match skipSpaces rest with
      | '}' :: rest => some (.object [], rest)
      | rest =>
        (readPairs? (readValue? depth) (rest.length + 1) [] rest).map fun (members, rest) =>
          (.object (membersToJson members), rest)
    | _ => readSimple? text

/-- How deep arrays and tables in braces may be nested. -/
def nestingLimit : Nat := 79

/-- A header in brackets: the path of the table that opens, and what makes it. -/
def readHeader? (text : List Char) :
    Option (List String × (Members → Option Members) × List Char) := do
  match ← expect? '[' text with
  | '[' :: rest =>
    let (parts, key, rest) ← readKey? rest
    pure (parts ++ [key], within? (openItem? key) parts, ← expect? ']' (← expect? ']' rest))
  | rest =>
    let (parts, key, rest) ← readKey? rest
    pure (parts ++ [key], within? (openTable? key) parts, ← expect? ']' rest)

/-- The lines of a document behind those that gave `root`. Keys belong to the table that the path
`current` leads to. -/
def readLines? : Nat → List String → Members → List Char → Option Members
  | 0, _, _, _ => none
  | fuel + 1, current, root, text =>
    match skipFiller? false text with
    | none => none
    | some [] => some root
    | some text => do
      let (current, change, rest) ← match text with
        | '[' :: _ => readHeader? text
        | _ =>
          (readPair? (readValue? nestingLimit) text).map fun (adder, rest) =>
            (current, within? adder current, rest)
      let root ← change root
      match skipSpaces rest with
      | [] => pure root
      | c :: rest =>
        if c == '\n' || c == '#' then readLines? fuel current root (c :: rest) else none

/-- The text with single line feeds at the ends of its lines. -/
def joinLineEnds : List Char → List Char
  | '\r' :: '\n' :: rest => '\n' :: joinLineEnds rest
  | c :: rest => c :: joinLineEnds rest
  | [] => []

/-- The text without a byte order mark in front. -/
def dropMark : List Char → List Char
  | '\uFEFF' :: rest => rest
  | text => text

/-- The object that a document stands for. -/
def read? (text : String) : Option Json := do
  let chars := joinLineEnds (dropMark text.toList)
  let members ← readLines? (chars.length + 1) [] [] chars
  pure (.object (membersToJson members))

end MediaShelf.Toml
